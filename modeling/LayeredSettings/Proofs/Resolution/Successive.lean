import LayeredSettings.Proofs.Registry.Construction
import LayeredSettings.Proofs.Registry.Reaches

/-! Sources resolved one after the other. Under a policy that overrides the last source that names a
field prevails, as if the sources were one. Under a policy that does not, whether a field counts as
chosen is told anew from its value before each source: the first source that gives it a value other
than its default prevails, and a value that is chosen at the start outlasts them all. -/
namespace LayeredSettings

open Properties (Source)

namespace Properties.Source

/-- Sources as one; of the entries for a key that of the last source stays. -/
def merged (sources : List Source) : Source := .ofList (sources.flatMap (·.entries))

theorem get?_merged_append_singleton (sources : List Source) (source : Source) (key : String) :
    (merged (sources ++ [source])).get? key = (source.get? key).or ((merged sources).get? key) := by
  have hreverse : source.entries.reverse.lookup key = source.get? key := by
    rw [← Dictionary.get?_ofList, Dictionary.get?_ofList_of_nodup (nodup_keys source.ordered)]
    rfl
  unfold merged
  rw [List.flatMap_append, List.flatMap_singleton, Dictionary.get?_ofList, List.reverse_append,
    List.lookup_append, hreverse, Dictionary.get?_ofList]

theorem mem_keys_merged_iff {sources : List Source} {key : String} :
    key ∈ (merged sources).keys ↔ ∃ source ∈ sources, key ∈ source.keys := by
  rw [← not_iff_not, ← Dictionary.get?_eq_none_iff, merged, Dictionary.get?_ofList,
    lookup_eq_none_iff_notMem]
  simp only [List.map_reverse, List.mem_reverse, List.map_flatMap, List.mem_flatMap, Dictionary.keys]

end Properties.Source

/-- The values that sources give to a field, in their order. -/
def Field.given (f : Field) (sources : List Source) : List Value :=
  sources.filterMap fun source => (source.get? f.name).map (coerce f.kind)

@[simp] theorem Field.given_holding (f : Field) (held : Option Value) (sources : List Source) :
    (f.holding held).given sources = f.given sources := rfl

lemma Field.given_cons_of_none {f : Field} {source : Source} (h : source.get? f.name = none)
    (rest : List Source) : f.given (source :: rest) = f.given rest := by simp [given, h]

lemma Field.given_cons_of_some {f : Field} {source : Source} {raw : String}
    (h : source.get? f.name = some raw) (rest : List Source) :
    f.given (source :: rest) = coerce f.kind raw :: f.given rest := by simp [given, h]

namespace Policy

/-- A field after sources have been applied to it, one after the other. -/
def settleAll (p : Policy) (sources : List Source) (f : Field) : Field :=
  sources.foldl (fun f source => p.settle source f) f

variable {p : Policy} {source : Source} {f : Field}

lemma holding_settle (p : Policy) (source : Source) (f : Field) (held : Option Value) :
    (p.settle source f).holding held = f.holding held := by
  rw [settle_eq_holding, Field.holding_holding]

theorem settleAll_eq_holding (p : Policy) (sources : List Source) (f : Field) :
    p.settleAll sources f = f.holding (p.settleAll sources f).current := by
  induction sources generalizing f with
  | nil => rfl
  | cons source rest ih =>
    exact (ih (p.settle source f)).trans (holding_settle p source f _)

@[simp] theorem settleAll_name (sources : List Source) (f : Field) :
    (p.settleAll sources f).name = f.name := by rw [settleAll_eq_holding, Field.holding_name]

lemma settle_of_none (h : source.get? f.name = none) : p.settle source f = f := by
  simp only [settle, h]

lemma settle_of_replaces {raw : String} (h : source.get? f.name = some raw) (hr : p.Replaces f) :
    p.settle source f = f.holding (some (coerce f.kind raw)) := by
  simp only [settle, h, if_pos hr]

lemma settle_of_not_replaces (hr : ¬ p.Replaces f) : p.settle source f = f := by
  unfold settle
  cases source.get? f.name <;> simp [hr]

lemma settle_overriding (source : Source) (f : Field) :
    settle ⟨true⟩ source f = f.holding (((source.get? f.name).map (coerce f.kind)).or f.current) := by
  have hr : Replaces ⟨true⟩ f := .inl rfl
  rw [settle_eq_holding, applied, if_pos hr]

/-- With overriding, sources in a row do what they do as one. -/
theorem settleAll_overriding (sources : List Source) (f : Field) :
    settleAll ⟨true⟩ sources f = settle ⟨true⟩ (.merged sources) f := by
  induction sources using List.reverseRecOn with
  | nil => rfl
  | append_singleton sources source ih =>
    have hlast : settleAll ⟨true⟩ (sources ++ [source]) f =
        settle ⟨true⟩ source (settleAll ⟨true⟩ sources f) := by
      simp only [settleAll, List.foldl_append, List.foldl_cons, List.foldl_nil]
    rw [hlast, ih, settle_overriding source, settle_name, settle_kind, settle_current,
      settle_overriding (.merged (sources ++ [source])), Source.get?_merged_append_singleton]
    have hr : Replaces ⟨true⟩ f := .inl rfl
    rw [applied, if_pos hr, holding_settle]
    cases source.get? f.name <;> rfl

/-- A value that no source may replace stays through all of them. -/
theorem settleAll_of_not_replaces (hr : ¬ p.Replaces f) (sources : List Source) :
    p.settleAll sources f = f := by
  induction sources with
  | nil => rfl
  | cons source rest ih =>
    change p.settleAll rest (p.settle source f) = f
    rw [settle_of_not_replaces hr, ih]

lemma not_replaces_of_chosen (h : f.isSpecified = .ok true) : ¬ Replaces ⟨false⟩ f := by
  intro hr
  have hadmits : (Policy.mk false).admits f = .ok false := by simp [admits, h, Except.map]
  rcases admits_spec ⟨false⟩ f with ⟨-,ha⟩ | ⟨hn,-⟩ | ⟨hn,-⟩
  · cases hadmits.symm.trans ha
  · exact hn hr
  · exact hn hr

/-- Without overriding and without a default, a field that holds nothing takes the first value that
it is given, which then counts as chosen. -/
theorem settleAll_of_unset (hd : f.default = none) (hc : f.current = none)
    (sources : List Source) :
    settleAll ⟨false⟩ sources f = f.holding (f.given sources).head? := by
  induction sources with
  | nil =>
    change f = f.holding none
    rw [← hc, Field.holding_self]
  | cons source rest ih =>
    change settleAll ⟨false⟩ rest (settle ⟨false⟩ source f) = _
    cases hs : source.get? f.name with
    | none => rw [settle_of_none hs, ih, Field.given_cons_of_none hs]
    | some raw =>
      rw [settle_of_replaces hs (.inr (.inl hc)), Field.given_cons_of_some hs, List.head?_cons]
      apply settleAll_of_not_replaces
      simp [Replaces, hd]

/-- Without overriding, a field that holds its default or nothing stays open to every source until
one gives it another value. -/
theorem settleAll_of_default {d : Value} (hd : f.default = some d)
    (hc : f.current = none ∨ f.current = some d) (sources : List Source) :
    settleAll ⟨false⟩ sources f = f.holding (if f.given sources = [] then f.current
      else some (((f.given sources).find? (· ≠ d)).getD d)) := by
  induction sources generalizing f with
  | nil => exact (f.holding_self).symm
  | cons source rest ih =>
    change settleAll ⟨false⟩ rest (settle ⟨false⟩ source f) = _
    cases hs : source.get? f.name with
    | none => rw [settle_of_none hs, ih hd hc, Field.given_cons_of_none hs]
    | some raw =>
      have hopen : Replaces ⟨false⟩ f := by
        rcases hc with hc | hc
        · exact .inr (.inl hc)
        · exact .inr (.inr ⟨by rw [hd]; rfl,by rw [hd, hc]⟩)
      rw [settle_of_replaces hs hopen, Field.given_cons_of_some hs,
        if_neg (List.cons_ne_nil _ _)]
      by_cases hv : coerce f.kind raw = d
      · -- the value is the default, so the field is as open as before
        have hrest := ih (f := f.holding (some d)) hd (.inr rfl)
        rw [hv, hrest, Field.given_holding, Field.holding_holding]
        cases f.given rest <;> simp
      · rw [List.find?_cons_of_pos (by simpa using hv), Option.getD_some]
        apply settleAll_of_not_replaces
        simp [Replaces, hd, Ne.symm hv]

end Policy

namespace Registry

/-- Resolve sources one after the other, up to the first that fails. -/
def resolveAll (p : Policy) : List Source → Registry → Outcome Unit
  | [], r => .done r ()
  | source :: rest, r => (r.resolve p source).andThen fun _ r => resolveAll p rest r

variable {r : Registry} {p : Policy}

theorem resolve_of_known (hr : r.WellTyped) {source : Source}
    (hk : ∀ key ∈ source.keys, key ∈ r.names) :
    (r.resolve p source).result = .ok () ∧
      (r.resolve p source).registry.fields = r.fields.map (p.settle source) := by
  rcases resolve_spec p source r with ⟨-,hok,hfields⟩ | ⟨key,hkey,e,hfault,-⟩
  · exact ⟨hok,hfields⟩
  · exact absurd (hk key hkey) (hr.fault_iff.1 hfault).1

/-- So are sources in a row, each of which settles the fields that the one before it has left. -/
theorem resolveAll_of_known (hr : r.WellTyped) {sources : List Source}
    (hk : ∀ source ∈ sources, ∀ key ∈ source.keys, key ∈ r.names) :
    (resolveAll p sources r).result = .ok () ∧
      (resolveAll p sources r).registry.fields = r.fields.map (p.settleAll sources) := by
  induction sources generalizing r with
  | nil => exact ⟨rfl,(List.map_id' r.fields).symm⟩
  | cons source rest ih =>
    obtain ⟨hok,hfields⟩ := resolve_of_known (p := p) hr (hk source List.mem_cons_self)
    have hreach := r.reaches_resolve p source
    obtain ⟨hok',hfields'⟩ := ih (hreach.wellTyped hr) fun s hs => by
      rw [hreach.names_eq]
      exact hk s (List.mem_cons_of_mem source hs)
    rw [resolveAll, Outcome.andThen_of_ok hok, Outcome.after_result, Outcome.after_registry]
    refine ⟨hok',?_⟩
    rw [hfields', hfields, List.map_map]
    rfl

/-- Sources compose. In a well-typed registry sources that know only fields are all taken in. With
overriding they leave the registry that they leave as one source, in which later entries stand in
for earlier ones. Without it a field that counts as chosen at the start keeps its value; a field
without default that holds nothing takes the first value given to it; and a field that holds its
default or nothing takes the first value other than the default, or else the default if a source
names it, or else stays as it is. -/
theorem resolveAll_composes (hr : r.WellTyped) {sources : List Source}
    (hk : ∀ source ∈ sources, ∀ key ∈ source.keys, key ∈ r.names) :
    ((resolveAll ⟨true⟩ sources r).result = .ok () ∧
      (r.resolve ⟨true⟩ (.merged sources)).result = .ok () ∧
      (resolveAll ⟨true⟩ sources r).registry = (r.resolve ⟨true⟩ (.merged sources)).registry) ∧
    (resolveAll ⟨false⟩ sources r).result = .ok () ∧
    ∀ f ∈ r.fields, ∃ held,
      (resolveAll ⟨false⟩ sources r).registry.get? f.name = some (f.holding held) ∧
      (f.isSpecified = .ok true → held = f.current) ∧
      (f.default = none → f.current = none → held = (f.given sources).head?) ∧
      ∀ d, f.default = some d → f.current = none ∨ f.current = some d →
        (∀ v, (f.given sources).find? (· ≠ d) = some v → held = some v) ∧
        ((∀ v ∈ f.given sources, v = d) →
          held = if f.given sources = [] then f.current else some d) := by
  have hmerged : ∀ key ∈ (Source.merged sources).keys, key ∈ r.names := by
    intro key hkey
    obtain ⟨source,hs,hmem⟩ := Source.mem_keys_merged_iff.1 hkey
    exact hk source hs key hmem
  obtain ⟨hok,hfields⟩ := resolveAll_of_known (p := ⟨true⟩) hr hk
  obtain ⟨hokMerged,hfieldsMerged⟩ := resolve_of_known (p := ⟨true⟩) hr hmerged
  obtain ⟨hokKept,hfieldsKept⟩ := resolveAll_of_known (p := ⟨false⟩) hr hk
  refine ⟨⟨hok,hokMerged,eq_of_fields_eq ?_⟩,hokKept,fun f hf => ?_⟩
  · rw [hfields, hfieldsMerged]
    exact List.map_congr_left fun f _ => Policy.settleAll_overriding sources f
  · have hget : (resolveAll ⟨false⟩ sources r).registry.get? f.name =
        some (Policy.settleAll ⟨false⟩ sources f) := by
      rw [get?_of_fields_eq_map (Policy.settleAll_name sources) hfieldsKept, get?_name hf,
        Option.map_some]
    rw [Policy.settleAll_eq_holding] at hget
    refine ⟨(Policy.settleAll ⟨false⟩ sources f).current,hget,fun hchosen => ?_,
      fun hd hc => ?_,fun d hd hc => ⟨fun v hv => ?_,fun hv => ?_⟩⟩
    · rw [Policy.settleAll_of_not_replaces (Policy.not_replaces_of_chosen hchosen)]
    · rw [Policy.settleAll_of_unset hd hc, Field.holding_current]
    · have hne : f.given sources ≠ [] := by
        rintro hnil
        simp [hnil] at hv
      rw [Policy.settleAll_of_default hd hc, Field.holding_current, if_neg hne, hv, Option.getD_some]
    · have hnone : (f.given sources).find? (· ≠ d) = none := by
        simpa using hv
      rw [Policy.settleAll_of_default hd hc, Field.holding_current, hnone, Option.getD_none]

/-- Three sources, of which the first two disagree about one field and the last gives only defaults. -/
def sampleSources : List Source :=
  [.ofList [("dropFirst","no"),("url","a")], .ofList [("dropFirst","TRUE"),("url","b")],
    .ofList [("contexts",""),("dropFirst","false")]]

theorem resolveAll_composes_sampleSources :
    standard.WellTyped ∧
    (∀ source ∈ sampleSources, ∀ key ∈ source.keys, key ∈ standard.names) ∧
    (resolveAll ⟨true⟩ sampleSources standard).registry =
      (standard.resolve ⟨true⟩ (.merged sampleSources)).registry ∧
    (resolveAll ⟨true⟩ sampleSources standard).registry.flag "dropFirst" = .ok false ∧
    (resolveAll ⟨false⟩ sampleSources standard).registry.flag "dropFirst" = .ok true ∧
    (resolveAll ⟨false⟩ sampleSources standard).registry.text "url" = .ok (some "a") := by
  have hr : standard.WellTyped := wellTyped_of_ofFields ofFields_standard (by decide)
  have hk : ∀ source ∈ sampleSources, ∀ key ∈ source.keys, key ∈ standard.names := by decide +kernel
  obtain ⟨⟨-,-,hmerged⟩,-,-⟩ := resolveAll_composes hr hk
  exact ⟨hr,hk,hmerged,by decide +kernel,by decide +kernel,by decide +kernel⟩

end Registry

end LayeredSettings
