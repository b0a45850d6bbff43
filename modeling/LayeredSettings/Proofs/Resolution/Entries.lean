import LayeredSettings.Proofs.Rules

/-! Applying a properties source to a registry, in closed form. Which keys are at fault and what
every field ends with are read off the registry before the file is applied; the first fault in key
order ends the resolution and keeps what was applied before it. -/
namespace LayeredSettings

open Properties (Source)

/-- What a field holds is of another kind than its default, for which this reason is given. -/
def Field.Mismatched (f : Field) (reason : String) : Prop :=
  ∃ current default, f.current = some current ∧ f.default = some default ∧
    current.kind ≠ default.kind ∧
    reason = "current value is " ++ current.kind.name ++ " but default is " ++ default.kind.name

lemma Field.Mismatched.reason_eq {f : Field} {reason other : String} (h : f.Mismatched reason)
    (ho : f.Mismatched other) : reason = other := by
  obtain ⟨c,d,hc,hd,-,rfl⟩ := h
  obtain ⟨c',d',hc',hd',-,rfl⟩ := ho
  rw [hc, Option.some.injEq] at hc'
  rw [hd, Option.some.injEq] at hd'
  rw [hc', hd']

namespace Policy

/-- The file replaces what a field holds if it may override, if nothing is held, or if the default
is held. -/
def Replaces (p : Policy) (f : Field) : Prop :=
  p.override = true ∨ f.current = none ∨ f.default.isSome = true ∧ f.default = f.current

instance (p : Policy) (f : Field) : Decidable (p.Replaces f) := inferInstanceAs (Decidable (_ ∨ _))

/-- A field after a source has been applied to it. -/
def settle (p : Policy) (source : Source) (f : Field) : Field :=
  match source.get? f.name with
  | some raw => if p.Replaces f then f.holding (some (coerce f.kind raw)) else f
  | none => f

/-- The entry of a source that takes the place of what a field holds, if there is one. -/
def applied (p : Policy) (source : Source) (f : Field) : Option String :=
  if p.Replaces f then source.get? f.name else none

/-- A settled field holds its entry, if that applies, and else what it held. -/
theorem settle_eq_holding (p : Policy) (source : Source) (f : Field) :
    p.settle source f = f.holding (((p.applied source f).map (coerce f.kind)).or f.current) := by
  unfold settle applied
  by_cases hr : p.Replaces f
  · cases hs : source.get? f.name with
    | none => simp [hr]
    | some raw => simp [hr]
  · cases hs : source.get? f.name with
    | none => simp [hr]
    | some raw => simp [hr]

@[simp] theorem settle_name (p : Policy) (source : Source) (f : Field) :
    (p.settle source f).name = f.name := by rw [settle_eq_holding, Field.holding_name]

@[simp] theorem settle_kind (p : Policy) (source : Source) (f : Field) :
    (p.settle source f).kind = f.kind := by rw [settle_eq_holding, Field.holding_kind]

@[simp] theorem settle_default (p : Policy) (source : Source) (f : Field) :
    (p.settle source f).default = f.default := by rw [settle_eq_holding, Field.holding_default]

theorem settle_current (p : Policy) (source : Source) (f : Field) :
    (p.settle source f).current = ((p.applied source f).map (coerce f.kind)).or f.current := by
  rw [settle_eq_holding, Field.holding_current]

/-- A field after a resolution that has come as far as certain names. -/
def settleWhere (p : Policy) (source : Source) (reached : String → Prop) [DecidablePred reached]
    (f : Field) : Field :=
  if reached f.name then p.settle source f else f

@[simp] theorem settleWhere_name (p : Policy) (source : Source) (reached : String → Prop)
    [DecidablePred reached] (f : Field) : (p.settleWhere source reached f).name = f.name := by
  unfold settleWhere
  split_ifs
  · exact p.settle_name source f
  · rfl

lemma settleWhere_true (p : Policy) (source : Source) :
    p.settleWhere source (fun _ => True) = p.settle source := funext fun _ => if_pos trivial

/-- A key at fault, and the error it stands for: it names no field, or, where the file may not
override, what its field holds cannot be compared with the default. -/
inductive Fault (p : Policy) (r : Registry) (key : String) : ConfigError → Prop
  | unknown (absent : key ∉ r.names) : Fault p r key (.unknownField key)
  | mismatch {f : Field} {reason : String} (found : r.get? key = some f)
      (keeps : p.override = false) (differ : f.Mismatched reason) :
      Fault p r key (.defaultLookup key reason)

theorem Fault.ne_fieldAccess {p : Policy} {r : Registry} {key : String} {e : ConfigError}
    (h : p.Fault r key e) (other reason : String) : e ≠ .fieldAccess other reason := by
  cases h <;> simp

/-- A key at fault stands for one error. -/
theorem Fault.unique {p : Policy} {r : Registry} {key : String} {e e' : ConfigError}
    (h : p.Fault r key e) (h' : p.Fault r key e') : e = e' := by
  cases h with
  | unknown absent =>
    cases h' with
    | unknown => rfl
    | mismatch found => exact absurd (Registry.mem_names_of_get? found) absent
  | mismatch found _ differ =>
    cases h' with
    | unknown absent => exact absurd (Registry.mem_names_of_get? found) absent
    | mismatch found' _ differ' =>
      obtain rfl := Option.some.inj (found.symm.trans found')
      rw [differ.reason_eq differ']

theorem admits_spec (p : Policy) (f : Field) :
    (p.Replaces f ∧ p.admits f = .ok true) ∨
    (¬ p.Replaces f ∧ (∀ reason, ¬ f.Mismatched reason) ∧ p.admits f = .ok false) ∨
    (¬ p.Replaces f ∧ p.override = false ∧
      ∃ reason, f.Mismatched reason ∧ p.admits f = .error (.defaultLookup f.name reason)) := by
  by_cases hp : p.override = true
  · exact .inl ⟨.inl hp,by simp [admits, hp]⟩
  have hp' : p.override = false := by simpa using hp
  cases hc : f.current with
  | none => exact .inl ⟨.inr (.inl hc),by simp [admits, Field.isSpecified, hp, hc, Except.map]⟩
  | some current =>
    cases hd : f.default with
    | none =>
      refine .inr (.inl ⟨?_,?_,?_⟩)
      · simp [Replaces, hp, hc, hd]
      · simp [Field.Mismatched, hd]
      · simp [admits, Field.isSpecified, hp, hc, hd, Except.map]
    | some default =>
      by_cases hk : current.kind = default.kind
      · by_cases heq : current = default
        · refine .inl ⟨.inr (.inr ⟨by simp [hd],by simp [hc, hd, heq]⟩),?_⟩
          simp [admits, Field.isSpecified, hp, hc, hd, heq, Except.map]
        · refine .inr (.inl ⟨?_,?_,?_⟩)
          · simp [Replaces, hp, hc, hd, Ne.symm heq]
          · rintro reason ⟨c,d,hc',hd',hne,-⟩
            rw [hc, Option.some.injEq] at hc'
            rw [hd, Option.some.injEq] at hd'
            exact hne (hc' ▸ hd' ▸ hk)
          · simp [admits, Field.isSpecified, hp, hc, hd, hk, heq, Except.map]
      · have heq : default ≠ current := fun he => hk (by rw [he])
        refine .inr (.inr ⟨by simp [Replaces, hp, hc, hd, heq],hp',_,
          ⟨current,default,hc,hd,hk,rfl⟩,?_⟩)
        simp [admits, Field.isSpecified, hp, hc, hd, hk, Except.map]

end Policy

namespace Rule

theorem entry_value (p : Policy) (raw : String) (f : Field) :
    (entry p).value raw f = if p.Replaces f then some (coerce f.kind raw) else none := by
  rcases p.admits_spec f with ⟨h,ha⟩ | ⟨h,-,ha⟩ | ⟨h,-,reason,-,ha⟩ <;>
    simp [value, entry, ha, h, Logged.quiet]

theorem entry_result_eq_error_iff {p : Policy} {raw : String} {f : Field} {e : ConfigError} :
    (entry p raw f).result = .error e ↔
      p.override = false ∧ ∃ reason, f.Mismatched reason ∧ e = .defaultLookup f.name reason := by
  rcases p.admits_spec f with ⟨h,ha⟩ | ⟨-,hm,ha⟩ | ⟨-,hp,reason,hm,ha⟩
  · simp only [entry, ha, reduceCtorEq, false_iff]
    rintro ⟨hp,reason,⟨c,d,hc,hd,hk,-⟩,-⟩
    rcases h with h | h | ⟨-,h⟩
    · simp [hp] at h
    · simp [hc] at h
    · rw [hc, hd, Option.some.injEq] at h
      exact hk (by rw [h])
  · simp [entry, ha, hm]
  · simp only [entry, ha, Logged.quiet, Except.error.injEq, hp, true_and]
    constructor
    · rintro rfl
      exact ⟨reason,hm,rfl⟩
    · rintro ⟨other,ho,rfl⟩
      rw [hm.reason_eq ho]

/-- Entries under distinct keys leave a field as the policy settles it. -/
theorem entry_supply (p : Policy) (source : Source) (f : Field) :
    (entry p).supply source.entries f = p.settle source f := by
  unfold supply Policy.settle
  rw [hold_of_nodup _ (nodup_keys source.ordered), Dictionary.get?]
  cases source.entries.lookup f.name with
  | none => rfl
  | some raw => by_cases h : p.Replaces f <;> simp [entry_value, h]

end Rule

namespace Registry

theorem refusal?_entry_eq_some_iff {p : Policy} {r : Registry} {item : String × String}
    {e : ConfigError} : r.refusal? (Rule.entry p) item = some e ↔ p.Fault r item.1 e := by
  unfold refusal?
  cases hf : r.get? item.1 with
  | none =>
    constructor
    · rintro ⟨⟩
      exact .unknown (get?_eq_none_iff.1 hf)
    · intro h
      cases h with
      | unknown => rfl
      | mismatch found => simp [hf] at found
  | some f =>
    have hn : f.name = item.1 := name_of_get? hf
    constructor
    · intro h
      cases hr : (Rule.entry p item.2 f).result with
      | ok given => simp [hr] at h
      | error e' =>
        obtain rfl : e' = e := by simpa [hr] using h
        obtain ⟨hp,reason,hm,rfl⟩ := Rule.entry_result_eq_error_iff.1 hr
        rw [hn]
        exact .mismatch hf hp hm
    · intro h
      cases h with
      | unknown absent => exact absurd (mem_names_of_get? hf) absent
      | mismatch found keeps differ =>
        obtain rfl := Option.some.inj (hf.symm.trans found)
        have hr : (Rule.entry p item.2 f).result = .error (.defaultLookup f.name _) :=
          Rule.entry_result_eq_error_iff.2 ⟨keeps,_,differ,rfl⟩
        simp only [hr, hn]

lemma refusal?_entry_eq_none_iff {p : Policy} {r : Registry} {item : String × String} :
    r.refusal? (Rule.entry p) item = none ↔ ∀ e, ¬ p.Fault r item.1 e := by
  rw [Option.eq_none_iff_forall_ne_some]
  exact forall_congr' fun e => not_congr refusal?_entry_eq_some_iff

/-- Without a key at fault every field is settled; otherwise the least key at fault decides. -/
theorem resolve_spec (p : Policy) (source : Source) (r : Registry) :
    ((∀ key ∈ source.keys, ∀ e, ¬ p.Fault r key e) ∧
      (r.resolve p source).result = .ok () ∧
      (r.resolve p source).registry.fields = r.fields.map (p.settle source)) ∨
    ∃ key ∈ source.keys, ∃ e, p.Fault r key e ∧
      (∀ other ∈ source.keys, ∀ e', p.Fault r other e' → key ≤ other) ∧
      (r.resolve p source).result = .error e ∧
      (r.resolve p source).registry.fields =
        r.fields.map fun f => if f.name < key then p.settle source f else f := by
  simp only [resolve, resolveEntries_eq_offerAll]
  rcases offerAll_entries_spec (Rule.entry p) source r with
    ⟨ha,hok,hfields⟩ | ⟨item,hi,e,hr,hleast,herr,hfields⟩
  · refine .inl ⟨fun key hk => ?_,hok,?_⟩
    · obtain ⟨item,hi,rfl⟩ := List.mem_map.1 hk
      exact refusal?_entry_eq_none_iff.1 (ha item hi)
    · rw [hfields]
      exact List.map_congr_left fun f _ => Rule.entry_supply p source f
  · refine .inr ⟨item.1,List.mem_map_of_mem hi,e,refusal?_entry_eq_some_iff.1 hr,
      fun other ho e' hf => ?_,herr,?_⟩
    · obtain ⟨item',hi',rfl⟩ := List.mem_map.1 ho
      exact hleast item' hi' e' (refusal?_entry_eq_some_iff.2 hf)
    · simp only [hfields, Rule.entry_supply]

theorem fields_of_resolve_ok {p : Policy} {source : Source} {r : Registry}
    (h : (r.resolve p source).result = .ok ()) :
    (r.resolve p source).registry.fields = r.fields.map (p.settle source) := by
  rcases resolve_spec p source r with ⟨-,-,hfields⟩ | ⟨_,-,e,-,-,herr,-⟩
  · exact hfields
  · rw [h] at herr
    cases herr

/-- Every resolution ends in one of two ways. Without a key at fault it succeeds and every field is
settled by the source. Otherwise it fails with the error of the least key at fault; the fields of
smaller keys are settled, all others are as they were. No value is ever refused for its kind. -/
theorem resolve_settles_below_least_fault (p : Policy) (source : Source) (r : Registry) :
    (∀ key reason, (r.resolve p source).result ≠ .error (.fieldAccess key reason)) ∧
    (((∀ key ∈ source.keys, ∀ e, ¬ p.Fault r key e) ∧
        (r.resolve p source).result = .ok () ∧
        (r.resolve p source).registry.fields = r.fields.map (p.settle source)) ∨
      ∃ key ∈ source.keys, ∃ e, p.Fault r key e ∧
        (∀ other ∈ source.keys, ∀ e', p.Fault r other e' → key ≤ other) ∧
        (r.resolve p source).result = .error e ∧
        (r.resolve p source).registry.fields =
          r.fields.map fun f => if f.name < key then p.settle source f else f) := by
  refine ⟨fun key reason => ?_,resolve_spec p source r⟩
  rcases resolve_spec p source r with ⟨-,hok,-⟩ | ⟨_,-,e,hfault,-,herr,-⟩
  · simp [hok]
  · rw [herr]
    exact fun h => hfault.ne_fieldAccess key reason (Except.error.inj h)

end Registry

end LayeredSettings
