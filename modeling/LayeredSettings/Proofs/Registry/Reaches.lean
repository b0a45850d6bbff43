import LayeredSettings.Parameter
import LayeredSettings.Session
import LayeredSettings.Proofs.Registry.Typing

/-! What every change of a registry comes down to: single fields are let hold a value of their kind
or nothing, one after the other. Such steps keep the declarations of the fields, the index, and the
kinds. -/
namespace LayeredSettings

open Properties (Source)

namespace Registry

/-- A registry is reached by letting single fields hold what they can hold. -/
inductive Reaches (r : Registry) : Registry → Prop
  | refl : Reaches r r
  | assign {s : Registry} (h : Reaches r s) {name : String} {held : Option Value}
      (hk : ∀ f, s.get? name = some f → f.CanHold held) : Reaches r (s.assign name held)

lemma Reaches.trans {r s t : Registry} (hs : r.Reaches s) (ht : s.Reaches t) : r.Reaches t := by
  induction ht with
  | refl => exact hs
  | assign _ hk ih => exact .assign ih hk

theorem Reaches.wellTyped {r s : Registry} (h : r.Reaches s) (hr : r.WellTyped) : s.WellTyped := by
  induction h with
  | refl => exact hr
  | assign _ hk ih => exact ih.assign hk

theorem Reaches.index_eq {r s : Registry} (h : r.Reaches s) : s.index = r.index := by
  induction h with
  | refl => rfl
  | assign _ _ ih => rw [index_assign, ih]

end Registry

/-- What is said of a field when it is declared: everything but what it holds. -/
def Field.declaration (f : Field) : String × Kind × Option Value × FieldSet × Bool :=
  (f.name,f.kind,f.default,f.set,f.required)

namespace Registry

/-- Only what the fields hold has changed. -/
theorem Reaches.exists_holding {r s : Registry} (h : r.Reaches s) :
    ∃ held : Field → Option Value, s.fields = r.fields.map fun f => f.holding (held f) := by
  induction h with
  | refl => exact ⟨Field.current,(List.map_id' r.fields).symm⟩
  | @assign s _ name value _ ih => exact exists_holding_assign ih name value

theorem Reaches.declarations_eq {r s : Registry} (h : r.Reaches s) :
    s.fields.map Field.declaration = r.fields.map Field.declaration := by
  obtain ⟨held,hs⟩ := h.exists_holding
  rw [hs, List.map_map]
  rfl

lemma names_of_declarations_eq {r : Registry} {fields : List Field}
    (h : r.fields.map Field.declaration = fields.map Field.declaration) :
    r.fields.map (·.name) = fields.map (·.name) := by
  have hfst := congrArg (List.map (·.1)) h
  rwa [List.map_map, List.map_map] at hfst

lemma Reaches.names_eq {r s : Registry} (h : r.Reaches s) : s.names = r.names :=
  names_of_declarations_eq h.declarations_eq

lemma Reaches.andThen {α β : Type} {r : Registry} {o : Outcome α}
    {next : α → Registry → Outcome β} (ho : r.Reaches o.registry)
    (hn : ∀ value (s : Registry), s.Reaches (next value s).registry) :
    r.Reaches (o.andThen next).registry := by
  cases h : o.result with
  | ok value =>
    rw [Outcome.andThen_of_ok h, Outcome.after_registry]
    exact ho.trans (hn value o.registry)
  | error e =>
    rw [Outcome.andThen_of_error h]
    exact ho

end Registry

/-- A rule gives to a field only values of its kind. -/
def Rule.Typed {α : Type} (rule : Rule α) : Prop :=
  ∀ item f value, (rule item f).result = .ok (some value) → value.kind = f.kind

namespace Rule

theorem parameter_typed : parameter.Typed := fun _ _ _ h => Field.kind_of_valueFor h

theorem raw_typed : raw.Typed := by
  intro text f value h
  obtain rfl : coerce f.kind text = value := Option.some.inj (Except.ok.inj h)
  exact kind_coerce f.kind text

theorem typed_typed : typed.Typed := by
  intro given f value h
  cases hc : f.checkType given with
  | error e => simp [typed, Logged.quiet, hc, Except.map] at h
  | ok =>
    obtain rfl : given = value := by simpa [typed, Logged.quiet, hc, Except.map] using h
    exact (f.checkType_eq_ok_iff given).1 hc

theorem entry_typed (p : Policy) : (entry p).Typed := by
  intro text f value h
  have hv : (entry p).value text f = some value := by rw [Rule.value, h]
  rw [entry_value] at hv
  split_ifs at hv
  obtain rfl := Option.some.inj hv
  exact kind_coerce f.kind text

end Rule

namespace Registry

variable {α : Type} {rule : Rule α}

theorem reaches_offer (ht : rule.Typed) (name : String) (item : α) (r : Registry) :
    r.Reaches (offer rule name item r).registry := by
  unfold offer
  cases hf : r.get? name with
  | none =>
    rw [lookup_of_get?_none hf]
    exact .refl
  | some f =>
    simp only [lookup_of_get? hf]
    rcases hr : rule item f with ⟨events,e | _ | value⟩
    · exact .refl
    · exact .refl
    · refine .assign .refl fun g hg => ?_
      obtain rfl : f = g := Option.some.inj (hf.symm.trans hg)
      exact Field.canHold_some.2 (ht item f value (by rw [hr]))

theorem reaches_offerAll (ht : rule.Typed) (items : List (String × α)) (r : Registry) :
    r.Reaches (offerAll rule items r).registry := by
  induction items generalizing r with
  | nil => exact .refl
  | cons entry rest ih => exact (reaches_offer ht entry.1 entry.2 r).andThen fun _ s => ih s

/-- An offer that is refused changes nothing; one that is accepted changes what the field of the
name holds, and nothing else. -/
theorem offer_spec (rule : Rule α) (name : String) (item : α) (r : Registry) :
    (∀ e, (offer rule name item r).result = .error e → (offer rule name item r).registry = r) ∧
      ∃ held : Field → Option Value, (offer rule name item r).registry.fields =
        r.fields.map fun f => if f.name = name then f.holding (held f) else f := by
  cases h : r.refusal? rule (name,item) with
  | some e =>
    obtain ⟨-,hr⟩ := offer_of_refused h
    refine ⟨fun _ _ => hr,Field.current,?_⟩
    simp [hr]
  | none =>
    obtain ⟨f,given,hf,hg⟩ := refusal?_eq_none_iff.1 h
    obtain ⟨hok,-,hfields⟩ := offer_of_accepted hf hg
    refine ⟨fun e he => ?_,fun f => given.or f.current,?_⟩
    · rw [hok] at he
      cases he
    · simp only [hfields, eq_comm]

end Registry

namespace Registry

variable (r : Registry)

theorem reaches_resolve (p : Policy) (source : Source) :
    r.Reaches (r.resolve p source).registry := by
  rw [resolve, resolveEntries_eq_offerAll]
  exact reaches_offerAll (Rule.entry_typed p) source.entries r

theorem reaches_configure (opener : Opener) : r.Reaches (r.configure opener).registry := by
  unfold configure
  rcases r.text "propertiesFile" with e | _ | path
  · exact .refl
  · exact .refl
  · simp only []
    cases (opener.load path).result with
    | error e => exact .refl
    | ok source =>
      cases Policy.ofRegistry r with
      | error e => exact .refl
      | ok p => exact r.reaches_resolve p source

theorem reaches_injectRaw (assignments : List (String × String)) :
    r.Reaches (r.injectRaw assignments).registry := by
  rw [injectRaw_eq_offerAll]
  exact reaches_offerAll Rule.raw_typed assignments r

theorem reaches_setAll (values : List (String × Value)) :
    r.Reaches (r.setAll values).registry := by
  rw [setAll_eq_offerAll]
  exact reaches_offerAll Rule.typed_typed values r

theorem reaches_injectParameters (parameters : Dictionary Json) :
    r.Reaches (r.injectParameters parameters).registry := by
  rw [injectParameters, injectEntries_eq_offerAll]
  exact reaches_offerAll Rule.parameter_typed parameters.entries r

theorem reaches_applyEnvironment (env : Environment) :
    r.Reaches (r.applyEnvironment env).registry :=
  (r.reaches_injectRaw _).andThen fun _ _ => .refl

end Registry

end LayeredSettings
