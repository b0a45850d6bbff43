import LayeredSettings.Proofs.Resolution.Entries

/-! Fields that hold values of their own kind. In a registry of such fields every field can be read
as what it is declared to be, its value can be compared with its default, and a properties source
is refused for an unknown name only. -/
namespace LayeredSettings

namespace Field

/-- What is held, if anything, is of the field's kind. -/
def CanHold (f : Field) (held : Option Value) : Prop := ∀ value, held = some value → value.kind = f.kind

instance (f : Field) (held : Option Value) : Decidable (f.CanHold held) :=
  match held with
  | none => .isTrue fun _ h => nomatch h
  | some value => decidable_of_iff (value.kind = f.kind) (by simp [CanHold])

@[simp] theorem canHold_none (f : Field) : f.CanHold none := fun _ h => nomatch h

@[simp] theorem canHold_some {f : Field} {value : Value} :
    f.CanHold (some value) ↔ value.kind = f.kind := by simp [CanHold]

/-- Both the default and what the field holds are of its kind. -/
structure WellTyped (f : Field) : Prop where
  default : f.CanHold f.default
  current : f.CanHold f.current

theorem WellTyped.holding {f : Field} (h : f.WellTyped) {held : Option Value}
    (hk : f.CanHold held) : (f.holding held).WellTyped := ⟨h.default,hk⟩

theorem WellTyped.exists_isSpecified {f : Field} (h : f.WellTyped) : ∃ b, f.isSpecified = .ok b := by
  unfold isSpecified
  cases hc : f.current with
  | none => exact ⟨false,rfl⟩
  | some current =>
    cases hd : f.default with
    | none => exact ⟨true,rfl⟩
    | some default =>
      have hk : current.kind = default.kind := (h.current _ hc).trans (h.default _ hd).symm
      exact ⟨_,if_pos hk⟩

theorem WellTyped.not_mismatched {f : Field} (h : f.WellTyped) (reason : String) :
    ¬ f.Mismatched reason := by
  rintro ⟨current,default,hc,hd,hne,-⟩
  exact hne ((h.current _ hc).trans (h.default _ hd).symm)

end Field

namespace Registry

def WellTyped (r : Registry) : Prop := ∀ f ∈ r.fields, f.WellTyped

lemma WellTyped.of_get? {r : Registry} (h : r.WellTyped) {name : String} {f : Field}
    (hf : r.get? name = some f) : f.WellTyped := h f (get?_eq_some_iff.1 hf).1

theorem WellTyped.assign {r : Registry} (h : r.WellTyped) {name : String} {held : Option Value}
    (hk : ∀ f, r.get? name = some f → f.CanHold held) : (r.assign name held).WellTyped := by
  intro g hg
  rw [fields_assign] at hg
  obtain ⟨f,hf,rfl⟩ := List.mem_map.1 hg
  split_ifs with hn
  · exact (h f hf).holding (hk f (get?_eq_some_iff.2 ⟨hf,hn⟩))
  · exact h f hf

theorem WellTyped.exists_text {r : Registry} (h : r.WellTyped) {f : Field} (hf : f ∈ r.fields)
    (hk : f.kind = .text) : ∃ given, r.text f.name = .ok given := by
  rw [text_of_get? (get?_name hf)]
  cases hc : f.current with
  | none => exact ⟨none,rfl⟩
  | some value =>
    have hv := ((h f hf).current value hc).trans hk
    cases value with
    | text s => exact ⟨some s,rfl⟩
    | bool b => cases hv

theorem WellTyped.exists_flag {r : Registry} (h : r.WellTyped) {f : Field} (hf : f ∈ r.fields)
    (hk : f.kind = .boolean) : ∃ b, r.flag f.name = .ok b := by
  rw [flag_of_get? (get?_name hf)]
  cases hc : f.current with
  | none => exact ⟨false,rfl⟩
  | some value =>
    have hv := ((h f hf).current value hc).trans hk
    cases value with
    | text s => cases hv
    | bool b => exact ⟨b,rfl⟩

/-- A key is not at fault where its field is well-typed, whatever the others hold. -/
theorem not_fault_of_wellTyped {r : Registry} {p : Policy} {key : String} {f : Field}
    (hf : r.get? key = some f) (h : f.WellTyped) (e : ConfigError) : ¬ p.Fault r key e := by
  intro hfault
  cases hfault with
  | unknown absent => exact absent (mem_names_of_get? hf)
  | mismatch found _ differ =>
    obtain rfl := Option.some.inj (hf.symm.trans found)
    exact h.not_mismatched _ differ

/-- In a well-typed registry a key is at fault only if it names no field. -/
theorem WellTyped.fault_iff {r : Registry} (h : r.WellTyped) {p : Policy} {key : String}
    {e : ConfigError} : p.Fault r key e ↔ key ∉ r.names ∧ e = .unknownField key := by
  constructor
  · intro hf
    cases hf with
    | unknown absent => exact ⟨absent,rfl⟩
    | mismatch found _ differ => exact absurd differ ((h.of_get? found).not_mismatched _)
  · rintro ⟨hn,rfl⟩
    exact .unknown hn

end Registry

end LayeredSettings
