import LayeredSettings.Proofs.Offer
import LayeredSettings.Proofs.Parameter

/-! The rules by which fields take parameters, raw texts, typed values and entries of a properties
file. Each loop over such items is `Registry.offerAll` under its rule. -/
namespace LayeredSettings

namespace Rule

/-- A parameter is read as a value of the field's kind; null is passed over. -/
def parameter : Rule Json := fun item f =>
  ⟨match f.valueFor item with
    | .ok (some value) => [Registry.parameterEvent f.name value]
    | _ => [], f.valueFor item⟩

/-- A raw text is always taken. -/
def raw : Rule String := fun text f => .quiet (.ok (some (coerce f.kind text)))

/-- A typed value is taken by a field of its kind. -/
def typed : Rule Value := fun value f => .quiet ((f.checkType value).map fun _ => some value)

/-- An entry of a properties file is taken where the policy admits it. -/
def entry (p : Policy) : Rule String := fun text f =>
  match p.admits f with
  | .error e => .quiet (.error e)
  | .ok false => ⟨[Registry.keepingEvent f.name],.ok none⟩
  | .ok true =>
    ⟨[Registry.settingEvent f.name (coerce f.kind text)],.ok (some (coerce f.kind text))⟩

theorem parameter_steady (items : List (String × Json)) : parameter.Steady items :=
  .inr fun item f held => by simp only [parameter, Field.valueFor_hold, Field.holding_name]

theorem raw_steady (items : List (String × String)) : raw.Steady items := .inr fun _ _ _ => rfl

theorem typed_steady (items : List (String × Value)) : typed.Steady items := .inr fun _ _ _ => rfl

end Rule

namespace Registry

theorem injectParameter_eq_offer (name : String) (parameter : Json) (r : Registry) :
    injectParameter name parameter r = offer .parameter name parameter r := by
  unfold injectParameter offer
  cases hf : r.get? name with
  | none => rw [lookup_of_get?_none hf]
  | some f =>
    rw [lookup_of_get? hf]
    cases hv : f.valueFor parameter with
    | error e => simp [Rule.parameter, hv]
    | ok given =>
      cases given with
      | none => simp [Rule.parameter, hv]
      | some value =>
        simp [Rule.parameter, hv, set_of_kind hf (Field.kind_of_valueFor hv), name_of_get? hf]

theorem injectEntries_eq_offerAll (entries : List (String × Json)) (r : Registry) :
    injectEntries entries r = offerAll .parameter entries r := by
  induction entries generalizing r with
  | nil => rfl
  | cons entry rest ih => simp only [injectEntries, offerAll, injectParameter_eq_offer, ih]

theorem injectRaw_eq_offerAll (entries : List (String × String)) (r : Registry) :
    injectRaw entries r = offerAll .raw entries r := by
  induction entries generalizing r with
  | nil => rfl
  | cons entry rest ih =>
    obtain ⟨name,text⟩ := entry
    simp only [injectRaw, offerAll, offer, ih]
    cases hf : r.get? name with
    | none => simp only [lookup_of_get?_none hf, Outcome.failed_andThen]
    | some f =>
      simp only [lookup_of_get? hf, set_of_kind hf (kind_coerce f.kind text), Rule.raw,
        Logged.quiet, Outcome.ofChange_ok, Outcome.after_nil]

theorem setAll_eq_offerAll (entries : List (String × Value)) (r : Registry) :
    setAll entries r = offerAll .typed entries r := by
  induction entries generalizing r with
  | nil => rfl
  | cons entry rest ih =>
    obtain ⟨name,value⟩ := entry
    simp only [setAll, offerAll, offer, ih]
    cases hf : r.get? name with
    | none => simp only [lookup_of_get?_none hf, set_of_unknown hf, Outcome.ofChange_error]
    | some f =>
      simp only [lookup_of_get? hf, Rule.typed, Logged.quiet]
      by_cases hk : value.kind = f.kind
      · simp [set_of_kind hf hk, (f.checkType_eq_ok_iff value).2 hk, Except.map]
      · simp [set, lookup_of_get? hf, Field.checkType, if_neg hk, bind, Except.bind, Except.map]

theorem resolveKey_andThen {β : Type} (p : Policy) (key raw : String) (r : Registry)
    (next : Registry → Outcome β) :
    ((resolveKey p key raw r).andThen fun _ r => next r) =
      (offer (.entry p) key raw r).andThen fun _ r => next r := by
  unfold resolveKey offer
  cases hf : r.get? key with
  | none => simp only [lookup_of_get?_none hf, Outcome.failed_andThen]
  | some f =>
    simp only [lookup_of_get? hf, Rule.entry]
    cases ha : p.admits f with
    | error e => simp [Logged.quiet]
    | ok admitted =>
      cases admitted with
      | false => simp [Outcome.after_andThen, name_of_get? hf]
      | true =>
        simp [Outcome.after_andThen, set_of_kind hf (kind_coerce f.kind raw), name_of_get? hf]

theorem resolveEntries_eq_offerAll (p : Policy) (entries : List (String × String)) (r : Registry) :
    resolveEntries p entries r = offerAll (.entry p) entries r := by
  induction entries generalizing r with
  | nil => rfl
  | cons entry rest ih => simp only [resolveEntries, offerAll, resolveKey_andThen, ih]

end Registry

end LayeredSettings
