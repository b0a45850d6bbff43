import LayeredSettings.Proofs.Registry.Construction
import LayeredSettings.Proofs.Registry.Reaches

/-! Registries over whole histories of operations, some of which may fail midway. What single steps
keep, a history keeps: the declarations of the fields, the index, and the kinds. -/
namespace LayeredSettings

open Properties (Source)

/-- What can be done to a registry from outside. -/
inductive Operation where
  | set (name : String) (value : Value)
  | unset (name : String)
  | resolveKey (p : Policy) (key raw : String)
  | resolve (p : Policy) (source : Source)
  | configure (opener : Opener)
  | injectParameters (parameters : Dictionary Json)
  | injectRaw (assignments : List (String × String))
  | applyEnvironment (env : Environment)

namespace Operation

/-- Carry out an operation; what it yields is passed over, its error is not. -/
def perform (r : Registry) : Operation → Outcome Unit
  | set name value => .ofChange r (r.set name value)
  | unset name => .ofChange r (r.unset name)
  | resolveKey p key raw => (r.resolveKey p key raw).andThen fun _ r => .done r ()
  | resolve p source => r.resolve p source
  | configure opener => r.configure opener
  | injectParameters parameters => r.injectParameters parameters
  | injectRaw assignments => r.injectRaw assignments
  | applyEnvironment env => (r.applyEnvironment env).andThen fun _ r => .done r ()

/-- The only field that an operation can change, if it names one. -/
def target? : Operation → Option String
  | set name _ | unset name | resolveKey _ name _ => some name
  | _ => none

end Operation

namespace Registry

/-- The registry after operations, one after the other, whether they fail or not. -/
def after (r : Registry) (operations : List Operation) : Registry :=
  operations.foldl (fun r operation => (operation.perform r).registry) r

end Registry

lemma Outcome.andThen_done (o : Outcome Unit) : o.andThen (fun _ r => .done r ()) = o := by
  obtain ⟨r,events,result⟩ := o
  cases result <;> simp [Outcome.andThen, Outcome.done, Outcome.after]

namespace Operation

variable (r : Registry)

theorem perform_set (name : String) (value : Value) :
    (set name value).perform r = r.offer .typed name value := by
  have h := Registry.setAll_eq_offerAll [(name,value)] r
  rw [Registry.offerAll_singleton] at h
  rw [← h, Registry.setAll]
  exact (Outcome.andThen_done _).symm

theorem perform_resolveKey (p : Policy) (key raw : String) :
    (resolveKey p key raw).perform r = r.offer (.entry p) key raw := by
  rw [perform, Registry.resolveKey_andThen p key raw r fun r => .done r ()]
  exact Outcome.andThen_done _

lemma perform_unset (name : String) : (unset name).perform r = match r.get? name with
    | none => .failed r (.unknownField name)
    | some _ => .done (r.assign name none) () := by
  cases h : r.get? name with
  | none =>
    simp only [perform, Registry.unset, Registry.lookup_of_get?_none h]
    rfl
  | some f =>
    simp only [perform, Registry.unset, Registry.lookup_of_get? h]
    rfl

end Operation

namespace Registry

variable (r : Registry)

/-- One operation reaches its registry by assignments, however it ends. -/
theorem reaches_perform (operation : Operation) : r.Reaches (operation.perform r).registry := by
  cases operation with
  | set name value =>
    rw [Operation.perform_set]
    exact reaches_offer Rule.typed_typed name value r
  | unset name =>
    rw [Operation.perform_unset]
    cases r.get? name with
    | none => exact .refl
    | some f => exact .assign .refl fun g _ => g.canHold_none
  | resolveKey p key raw =>
    rw [Operation.perform_resolveKey]
    exact reaches_offer (Rule.entry_typed p) key raw r
  | resolve p source => exact r.reaches_resolve p source
  | configure opener => exact r.reaches_configure opener
  | injectParameters parameters => exact r.reaches_injectParameters parameters
  | injectRaw assignments => exact r.reaches_injectRaw assignments
  | applyEnvironment env => exact (r.reaches_applyEnvironment env).andThen fun _ _ => .refl

theorem reaches_after (operations : List Operation) : r.Reaches (r.after operations) := by
  induction operations generalizing r with
  | nil => exact .refl
  | cons operation rest ih => exact (r.reaches_perform operation).trans (ih _)

end Registry

namespace Operation

/-- An operation that names a single field changes at most what that field holds, and nothing at
all if it fails. -/
theorem perform_of_target {operation : Operation} {name : String}
    (h : operation.target? = some name) (r : Registry) :
    (∀ e, (operation.perform r).result = .error e → (operation.perform r).registry = r) ∧
      ∃ held : Field → Option Value, (operation.perform r).registry.fields =
        r.fields.map fun f => if f.name = name then f.holding (held f) else f := by
  cases operation with
  | set name' value =>
    obtain rfl := Option.some.inj h
    rw [perform_set]
    exact Registry.offer_spec .typed name' value r
  | resolveKey p key raw =>
    obtain rfl := Option.some.inj h
    rw [perform_resolveKey]
    exact Registry.offer_spec (.entry p) key raw r
  | unset name' =>
    obtain rfl := Option.some.inj h
    rw [perform_unset]
    cases r.get? name' with
    | none => exact ⟨fun _ _ => rfl,Field.current,by simp [Outcome.failed]⟩
    | some f =>
      refine ⟨fun _ he => ?_,fun _ => none,r.fields_assign name' none⟩
      cases he
  | _ => cases h

end Operation

namespace Registry

/-- Every field holds something of its kind or nothing, so that nothing goes wrong over kinds: a
field can be read as what it is declared to be and compared with its default, and a key of a
properties source is refused only if it is unknown. -/
structure KeepsKinds (r : Registry) : Prop where
  current : ∀ f ∈ r.fields, f.CanHold f.current
  text : ∀ f ∈ r.fields, f.kind = .text → ∃ given, r.text f.name = .ok given
  flag : ∀ f ∈ r.fields, f.kind = .boolean → ∃ b, r.flag f.name = .ok b
  isSpecified : ∀ f ∈ r.fields, ∃ b, f.isSpecified = .ok b
  resolveKey : ∀ p key raw e, (r.resolveKey p key raw).result = .error e → e = .unknownField key
  resolve : ∀ p source e, (r.resolve p source).result = .error e →
    ∃ key ∈ source.keys, e = .unknownField key

theorem WellTyped.result_resolveKey {r : Registry} (h : r.WellTyped) {p : Policy}
    {key raw : String} {e : ConfigError} (he : (r.resolveKey p key raw).result = .error e) :
    e = .unknownField key := by
  have hperform : ((Operation.resolveKey p key raw).perform r).result = .error e := by
    rw [Operation.perform, Outcome.andThen_of_error he]
    rfl
  rw [Operation.perform_resolveKey] at hperform
  cases hr : r.refusal? (Rule.entry p) (key,raw) with
  | none =>
    obtain ⟨f,given,hf,hg⟩ := refusal?_eq_none_iff.1 hr
    rw [(offer_of_accepted hf hg).1] at hperform
    cases hperform
  | some reason =>
    rw [(offer_of_refused hr).1, Except.error.injEq] at hperform
    rw [← hperform]
    exact (h.fault_iff.1 (refusal?_entry_eq_some_iff.1 hr)).2

theorem WellTyped.result_resolve {r : Registry} (h : r.WellTyped) {p : Policy} {source : Source}
    {e : ConfigError} (he : (r.resolve p source).result = .error e) :
    ∃ key ∈ source.keys, e = .unknownField key := by
  rcases resolve_spec p source r with ⟨-,hok,-⟩ | ⟨key,hk,reason,hfault,-,herr,-⟩
  · rw [hok] at he
    cases he
  · obtain rfl := Except.error.inj (herr.symm.trans he)
    exact ⟨key,hk,(h.fault_iff.1 hfault).2⟩

theorem WellTyped.keepsKinds {r : Registry} (h : r.WellTyped) : r.KeepsKinds where
  current f hf := (h f hf).current
  text _ hf hk := h.exists_text hf hk
  flag _ hf hk := h.exists_flag hf hk
  isSpecified f hf := (h f hf).exists_isSpecified
  resolveKey _ _ _ _ he := h.result_resolveKey he
  resolve _ _ _ he := h.result_resolve he

/-- Kinds are kept over every history of a registry that is built from fields holding values of
their kinds, whichever of the operations fail. -/
theorem keepsKinds_after {fields : List Field} {r : Registry} (h : ofFields fields = .ok r)
    (hc : ∀ f ∈ fields, f.CanHold f.current) (operations : List Operation) :
    (r.after operations).KeepsKinds :=
  ((r.reaches_after operations).wellTyped (wellTyped_of_ofFields h hc)).keepsKinds

/-- A history in which a value of the wrong kind is refused, parameters are given up to an unknown
name, and a file overrides the policy that it is read under. -/
def sampleHistory : List Operation := [
  .set "dropFirst" (.text "yes"),
  .injectParameters (.ofList [("contexts",.array [.string "a",.bool true]),("nowhere",.null)]),
  .applyEnvironment fun name => if name = "MIGRATE_DROP_FIRST" then some "TRUE" else none,
  .set "propertiesFile" (.text "db.properties"),
  .configure (.leaf "memory" fun _ => .ok (some (.ok "propertyFileWillOverride = TRUE".toUTF8))),
  .unset "contexts"]

theorem sampleHistory_keepsKinds :
    ofFields (Field.baseTable ++ Field.configurableTable) = .ok standard ∧
    (∀ f ∈ Field.baseTable ++ Field.configurableTable, f.CanHold f.current) ∧
    (standard.after sampleHistory).KeepsKinds := by
  have hc : ∀ f ∈ Field.baseTable ++ Field.configurableTable, f.CanHold f.current := by decide
  exact ⟨ofFields_standard,hc,keepsKinds_after ofFields_standard hc sampleHistory⟩

/-- The registry declares given fields in their order, and its index leads from each of their names
to the one field of this name, and from no other name anywhere. -/
structure Declares (r : Registry) (fields : List Field) : Prop where
  declarations : r.fields.map Field.declaration = fields.map Field.declaration
  distinct : (fields.map (·.name)).Nodup
  index : ∀ name i, r.index.get? name = some i ↔ (fields.map (·.name))[i]? = some name
  get?_eq_some : ∀ name f, r.get? name = some f ↔ f ∈ r.fields ∧ f.name = name
  get?_eq_none : ∀ name, r.get? name = none ↔ name ∉ fields.map (·.name)

/-- Over every history a registry goes on declaring the fields that it was built from, found by name
as at first. An operation on a single field changes at most what this field holds, and nothing at
all if it fails. -/
theorem declares_after {fields : List Field} {r : Registry} (h : ofFields fields = .ok r)
    (operations : List Operation) :
    (r.after operations).Declares fields ∧
    ∀ (operation : Operation) name, operation.target? = some name →
      (∀ e, (operation.perform (r.after operations)).result = .error e →
        (operation.perform (r.after operations)).registry = r.after operations) ∧
      ∃ held : Field → Option Value, (operation.perform (r.after operations)).registry.fields =
        (r.after operations).fields.map fun f => if f.name = name then f.holding (held f) else f := by
  obtain ⟨-,rfl⟩ := exists_enter_of_ofFields h
  have hreach := r.reaches_after operations
  have hnames := names_of_declarations_eq hreach.declarations_eq
  refine ⟨⟨hreach.declarations_eq,r.distinct,?_,fun name f => get?_eq_some_iff,?_⟩,
    fun operation name ht => Operation.perform_of_target ht _⟩
  · intro name i
    rw [hreach.index_eq]
    exact r.indexed name i
  · intro name
    rw [← hnames]
    exact get?_eq_none_iff

theorem sampleHistory_declares :
    ofFields (Field.baseTable ++ Field.configurableTable) = .ok standard ∧
    (standard.after sampleHistory).Declares (Field.baseTable ++ Field.configurableTable) ∧
    ((Operation.set "url" (.bool true)).perform (standard.after sampleHistory)).registry =
      standard.after sampleHistory := by
  obtain ⟨hdeclares,hsingle⟩ := declares_after ofFields_standard sampleHistory
  refine ⟨ofFields_standard,hdeclares,?_⟩
  obtain ⟨hfailed,-⟩ := hsingle (.set "url" (.bool true)) "url" rfl
  exact hfailed (.fieldAccess "url" "expected a text value, got boolean 'true'") (by decide +kernel)

end Registry

end LayeredSettings
