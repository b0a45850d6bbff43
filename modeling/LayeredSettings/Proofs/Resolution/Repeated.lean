import LayeredSettings.Proofs.Registry.Writes

/-! Resolving a source once more. What a source has put into a field is of the field's kind and can
be compared with a default of that kind, while the field at which a resolution stops is left as it
was. So a second resolution meets the same fault as the first one, or none, and changes nothing. -/
namespace LayeredSettings

open Properties (Source)

namespace Policy

/-- A settled field stays as it is: its entry is applied to it once more, or no longer applies. -/
theorem settle_settle (p : Policy) (source : Source) (f : Field) :
    p.settle source (p.settle source f) = p.settle source f := by
  cases hs : source.get? f.name with
  | none =>
    have hf : p.settle source f = f := by simp only [settle, hs]
    rw [hf, hf]
  | some raw =>
    by_cases hr : p.Replaces f
    · have hf : p.settle source f = f.holding (some (coerce f.kind raw)) := by
        simp only [settle, hs, if_pos hr]
      rw [hf]
      by_cases hagain : p.Replaces (f.holding (some (coerce f.kind raw))) <;>
        simp [settle, hs, hagain]
    · have hf : p.settle source f = f := by simp only [settle, hs, if_neg hr]
      rw [hf, hf]

variable {p : Policy} {source : Source} {reached : String → Prop} [DecidablePred reached]
  {r s : Registry} {key : String} {e : ConfigError}

theorem settleWhere_settleWhere (f : Field) :
    p.settleWhere source reached (p.settleWhere source reached f) =
      p.settleWhere source reached f := by
  by_cases h : reached f.name <;> simp [settleWhere, h, settle_settle]

/-- Settling a field with a default of its kind puts nothing into it that the default cannot be
compared with. -/
lemma mismatched_of_settle {f : Field} {reason : String} (hd : f.CanHold f.default)
    (h : (p.settle source f).Mismatched reason) : f.Mismatched reason := by
  obtain ⟨current,default,hc,hdefault,hne,rfl⟩ := h
  rw [settle_default] at hdefault
  rw [settle_current] at hc
  cases happ : p.applied source f with
  | none =>
    rw [happ, Option.map_none, Option.none_or] at hc
    exact ⟨current,default,hc,hdefault,hne,rfl⟩
  | some raw =>
    rw [happ, Option.map_some, Option.some_or, Option.some.injEq] at hc
    have hkind : current.kind = default.kind := by
      rw [← hc, kind_coerce, hd default hdefault]
    exact absurd hkind hne

/-- A resolution brings no key to fault. -/
theorem Fault.of_settled (hd : ∀ f ∈ r.fields, f.CanHold f.default)
    (hs : s.fields = r.fields.map (p.settleWhere source reached)) (h : p.Fault s key e) :
    p.Fault r key e := by
  have hget := Registry.get?_of_fields_eq_map (p.settleWhere_name source reached) hs key
  cases h with
  | unknown absent =>
    rw [← Registry.get?_eq_none_iff, hget, Option.map_eq_none_iff] at absent
    exact .unknown (Registry.get?_eq_none_iff.1 absent)
  | mismatch found keeps differ =>
    rw [found, eq_comm, Option.map_eq_some_iff] at hget
    obtain ⟨f,hf,rfl⟩ := hget
    refine .mismatch hf keeps ?_
    unfold settleWhere at differ
    split_ifs at differ
    · exact mismatched_of_settle (hd f (Registry.get?_eq_some_iff.1 hf).1) differ
    · exact differ

/-- A key at fault that the resolution has not come to is still at fault. -/
theorem Fault.settled (hs : s.fields = r.fields.map (p.settleWhere source reached))
    (hkey : ¬ reached key) (h : p.Fault r key e) : p.Fault s key e := by
  have hget := Registry.get?_of_fields_eq_map (p.settleWhere_name source reached) hs key
  cases h with
  | unknown absent =>
    rw [Registry.get?_eq_none_iff.2 absent, Option.map_none] at hget
    exact .unknown (Registry.get?_eq_none_iff.1 hget)
  | mismatch found keeps differ =>
    have hf : p.settleWhere source reached _ = _ :=
      if_neg (Registry.name_of_get? found ▸ hkey)
    rw [found, Option.map_some, hf] at hget
    exact .mismatch hget keeps differ

end Policy

namespace Registry

/-- Where every default is of its field's kind, a second resolution ends as the first one did and
leaves everything as it found it. -/
theorem resolve_again {r : Registry} (hd : ∀ f ∈ r.fields, f.CanHold f.default) (p : Policy)
    (source : Source) :
    ((r.resolve p source).registry.resolve p source).result = (r.resolve p source).result ∧
    ((r.resolve p source).registry.resolve p source).registry = (r.resolve p source).registry := by
  generalize hfirst : r.resolve p source = first
  have hspec := resolve_spec p source r
  rw [hfirst] at hspec
  rcases hspec with ⟨hnone,hok,hfields⟩ | ⟨key,hkey,e,hfault,hleast,herr,hfields⟩
  · have hs : first.registry.fields = r.fields.map (p.settleWhere source fun _ => True) := by
      rw [hfields, Policy.settleWhere_true]
    rcases resolve_spec p source first.registry with ⟨-,hok',hfields'⟩ | ⟨key,hkey,e,hfault,-⟩
    · refine ⟨hok'.trans hok.symm,eq_of_fields_eq ?_⟩
      rw [hfields', hfields, List.map_map]
      exact List.map_congr_left fun f _ => p.settle_settle source f
    · exact absurd (hfault.of_settled hd hs) (hnone key hkey e)
  · have hs : first.registry.fields = r.fields.map (p.settleWhere source (· < key)) := hfields
    have hagain : p.Fault first.registry key e := hfault.settled hs (String.lt_irrefl key)
    rcases resolve_spec p source first.registry with
      ⟨hnone,-⟩ | ⟨key',hkey',e',hfault',hleast',herr',hfields'⟩
    · exact absurd hagain (hnone key hkey e)
    · -- each of the two faults comes first in its own run, so they are one
      have hfault'' : p.Fault r key' e' := hfault'.of_settled hd hs
      obtain rfl : key = key' :=
        String.le_antisymm (hleast key' hkey' e' hfault'') (hleast' key hkey e hagain)
      obtain rfl : e = e' := hfault.unique hfault''
      have hs' : (first.registry.resolve p source).registry.fields =
          first.registry.fields.map (p.settleWhere source (· < key)) := hfields'
      refine ⟨herr'.trans herr.symm,eq_of_fields_eq ?_⟩
      rw [hs', hs, List.map_map]
      exact List.map_congr_left fun f _ => Policy.settleWhere_settleWhere f

/-- Resolving a source is idempotent, also when it fails: whatever the fields of a registry that
could be built hold, a second resolution of the same source under the same policy has the same
result and leaves the registry as the first one left it. -/
theorem resolve_idempotent {fields : List Field} {r : Registry} (h : ofFields fields = .ok r)
    (writes : List (String × Option Value)) (p : Policy) (source : Source) :
    let first := (r.assignAll writes).resolve p source
    let second := first.registry.resolve p source
    second.result = first.result ∧ second.registry = first.registry :=
  resolve_again (canHold_default_of_assignAll h writes) p source

/-- A registry that holds a text where a flag belongs. -/
def mistypedFlag : Registry := standard.assignAll [("dropFirst",some (.text "no"))]

/-- A source that such a registry takes in up to the mistyped field. -/
def interruptedSource : Source := .ofList [("contexts","a"),("dropFirst","true"),("url","b")]

theorem resolve_idempotent_interrupted :
    ofFields (Field.baseTable ++ Field.configurableTable) = .ok standard ∧
    (∃ reason, (mistypedFlag.resolve ⟨false⟩ interruptedSource).result =
      .error (.defaultLookup "dropFirst" reason)) ∧
    (mistypedFlag.resolve ⟨false⟩ interruptedSource).registry.text "contexts" = .ok (some "a") ∧
    (mistypedFlag.resolve ⟨false⟩ interruptedSource).registry.text "url" = .ok none ∧
    ((mistypedFlag.resolve ⟨false⟩ interruptedSource).registry.resolve ⟨false⟩
        interruptedSource).result = (mistypedFlag.resolve ⟨false⟩ interruptedSource).result ∧
    ((mistypedFlag.resolve ⟨false⟩ interruptedSource).registry.resolve ⟨false⟩
        interruptedSource).registry = (mistypedFlag.resolve ⟨false⟩ interruptedSource).registry := by
  refine ⟨ofFields_standard,⟨"current value is text but default is boolean",by decide +kernel⟩,
    by decide +kernel,by decide +kernel,?_⟩
  exact resolve_idempotent ofFields_standard [("dropFirst",some (.text "no"))] ⟨false⟩
    interruptedSource

end Registry

end LayeredSettings
