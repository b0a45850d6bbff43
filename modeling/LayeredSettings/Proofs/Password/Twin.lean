import LayeredSettings.Proofs.Password.Alike

/-! Offering items to alike registries. Only an item for the password may differ between the two,
and then only in its text; every other item meets the same field on both sides. -/
namespace LayeredSettings

/-- What alike fields of a name make of their items: the same, or for the password a text in both
or in neither. -/
inductive Rule.Answers :
    String → Except ConfigError (Option Value) → Except ConfigError (Option Value) → Prop
  | same {name : String} {result : Except ConfigError (Option Value)} (h : name ≠ "password") :
      Answers name result result
  | error {e : ConfigError} : Answers "password" (.error e) (.error e)
  | text {v w : Option String} (h : v.isSome = w.isSome) :
      Answers "password" (.ok (v.map .text)) (.ok (w.map .text))

namespace Rule.Answers

lemma error_left {name : String} {e : ConfigError} {result : Except ConfigError (Option Value)}
    (h : Answers name (.error e) result) : result = .error e := by cases h <;> rfl

lemma ok_left {name : String} {given : Option Value} {result : Except ConfigError (Option Value)}
    (h : Answers name (.ok given) result) : ∃ other, result = .ok other := by
  cases h <;> exact ⟨_,rfl⟩

lemma of_kind {v w : Value} (hv : v.kind = .text) (hw : w.kind = .text) :
    Answers "password" (.ok (some v)) (.ok (some w)) := by
  cases v with
  | bool => cases hv
  | text v =>
    cases w with
    | bool => cases hw
    | text w => exact .text (v := some v) (w := some w) rfl

lemma refl {name : String} {result : Except ConfigError (Option Value)}
    (h : ∀ v, result = .ok (some v) → v.kind = .text) : Answers name result result := by
  by_cases hn : name = "password"
  · subst hn
    cases hr : result with
    | error e => exact .error
    | ok given =>
      cases given with
      | none => exact .text (v := none) (w := none) rfl
      | some v => exact of_kind (h v hr) (h v hr)
  · exact .same hn

end Rule.Answers

/-- Two outcomes with alike registries and the same result. -/
structure Outcome.Alike {α : Type} (a b : Outcome α) : Prop where
  registry : a.registry.Alike b.registry
  result : a.result = b.result

/-- Alike outcomes that report the same events. -/
structure Outcome.Twin {α : Type} (a b : Outcome α) : Prop extends Outcome.Alike a b where
  events : a.events = b.events

/-- Two items under a name that alike fields take alike. -/
def Rule.Fits {α : Type} (rule : Rule α) (name : String) (x y : α) : Prop :=
  ∀ f g, f.name = name → f.Alike g → Answers name (rule x f).result (rule y g).result

/-- Two named items that fit and of which alike fields report the same. -/
structure Rule.Twin {α : Type} (rule : Rule α) (a b : String × α) : Prop where
  name : a.1 = b.1
  fits : rule.Fits a.1 a.2 b.2
  events : ∀ f g, f.name = a.1 → f.Alike g → (rule a.2 f).events = (rule b.2 g).events

variable {α β : Type} {r s : Registry}

namespace Outcome

lemma Twin.done (h : r.Alike s) (value : α) : Twin (done r value) (done s value) := ⟨⟨h,rfl⟩,rfl⟩

lemma Twin.failed (h : r.Alike s) (e : ConfigError) :
    Twin (failed r e : Outcome α) (failed s e) := ⟨⟨h,rfl⟩,rfl⟩

lemma Twin.after {a b : Outcome α} (h : a.Twin b) (events : List Event) :
    (a.after events).Twin (b.after events) :=
  ⟨⟨h.registry,h.result⟩,congrArg (events ++ ·) h.events⟩

theorem Twin.andThen {a b : Outcome α} {next other : α → Registry → Outcome β} (h : a.Twin b)
    (hnext : ∀ value, (next value a.registry).Twin (other value b.registry)) :
    (a.andThen next).Twin (b.andThen other) := by
  cases ha : a.result with
  | error e =>
    have hb : b.result = .error e := h.result ▸ ha
    rw [andThen_of_error ha, andThen_of_error hb, h.events]
    exact (Twin.failed h.registry e).after _
  | ok value =>
    have hb : b.result = .ok value := h.result ▸ ha
    rw [andThen_of_ok ha, andThen_of_ok hb, h.events]
    exact (hnext value).after _

end Outcome

namespace Registry

lemma Alike.map_holding (h : r.Alike s) {name : String} {given other : Option Value}
    (ha : Rule.Answers name (.ok given) (.ok other)) :
    List.Forall₂ Field.Alike
      (r.fields.map fun f => if name = f.name then f.holding (given.or f.current) else f)
      (s.fields.map fun f => if name = f.name then f.holding (other.or f.current) else f) := by
  rw [List.forall₂_map_left_iff, List.forall₂_map_right_iff]
  refine h.imp fun f g hfg => ?_
  cases hfg with
  | same hf =>
    by_cases hn : name = f.name
    · cases ha with
      | same =>
        simp only [if_pos hn]
        exact .same hf
      | text => exact absurd hn.symm hf
    · simp only [if_neg hn]
      exact .same hf
  | @password v w hvw =>
    cases ha with
    | same hn =>
      have hn' (held : Option Value) : name ≠ (Field.password.holding held).name := hn
      rw [if_neg (hn' _), if_neg (hn' _)]
      exact .password hvw
    | @text a b hab =>
      have hor : (a.or v).isSome = (b.or w).isSome := by
        rw [Option.isSome_or, Option.isSome_or, hab, hvw]
      have hp (held : Option Value) : "password" = (Field.password.holding held).name := rfl
      rw [if_pos (hp _), if_pos (hp _), Field.holding_current, Field.holding_current,
        Field.holding_holding, Field.holding_holding, ← Option.map_or, ← Option.map_or]
      exact .password hor

/-- Items that fit are refused by both registries or by neither, and leave alike registries. -/
theorem Alike.offer {rule : Rule α} {name : String} {x y : α} (h : r.Alike s)
    (hfits : rule.Fits name x y) :
    (Registry.offer rule name x r).Alike (Registry.offer rule name y s) := by
  have hrefused (e : ConfigError) (hr : r.refusal? rule (name,x) = some e)
      (hs : s.refusal? rule (name,y) = some e) :
      (Registry.offer rule name x r).Alike (Registry.offer rule name y s) := by
    obtain ⟨hr,hr'⟩ := offer_of_refused hr
    obtain ⟨hs,hs'⟩ := offer_of_refused hs
    exact ⟨by rwa [hr', hs'],by rw [hr, hs]⟩
  rcases h.get? name with ⟨hr,hs⟩ | ⟨f,g,hf,hg,hfg⟩
  · exact hrefused (.unknownField name) (by simp [refusal?, hr]) (by simp [refusal?, hs])
  · have ha := hfits f g (name_of_get? hf) hfg
    cases hx : (rule x f).result with
    | error e =>
      have hy : (rule y g).result = .error e := (hx ▸ ha).error_left
      exact hrefused e (by simp [refusal?, hf, hx]) (by simp [refusal?, hg, hy])
    | ok given =>
      obtain ⟨other,hy⟩ := (hx ▸ ha).ok_left
      obtain ⟨hr,-,hfr⟩ := offer_of_accepted hf hx
      obtain ⟨hs,-,hfs⟩ := offer_of_accepted hg hy
      rw [hx, hy] at ha
      refine ⟨?_,by rw [hr, hs]⟩
      unfold Alike
      rw [hfr, hfs]
      exact h.map_holding ha

lemma events_offer {rule : Rule α} {name : String} {item : α} {f : Field}
    (hf : r.get? name = some f) :
    (Registry.offer rule name item r).events = (rule item f).events := by
  unfold Registry.offer
  simp only [lookup_of_get? hf]
  rcases rule item f with ⟨events,_ | given⟩
  · simp [Outcome.failed]
  · cases given <;> simp [Outcome.done]

lemma events_offer_of_none {rule : Rule α} {name : String} {item : α} (h : r.get? name = none) :
    (Registry.offer rule name item r).events = [] := by
  unfold Registry.offer
  rw [lookup_of_get?_none h]
  rfl

theorem Alike.offer_twin {rule : Rule α} {a b : String × α} (h : r.Alike s)
    (hab : rule.Twin a b) :
    (Registry.offer rule a.1 a.2 r).Twin (Registry.offer rule b.1 b.2 s) := by
  rw [← hab.name]
  refine ⟨h.offer hab.fits,?_⟩
  rcases h.get? a.1 with ⟨hr,hs⟩ | ⟨f,g,hf,hg,hfg⟩
  · rw [events_offer_of_none hr, events_offer_of_none hs]
  · rw [events_offer hf, events_offer hg, hab.events f g (name_of_get? hf) hfg]

/-- The loop over twin items keeps registries alike and reports the same on both sides. -/
theorem Alike.offerAll {rule : Rule α} {items others : List (String × α)} (h : r.Alike s)
    (hi : List.Forall₂ rule.Twin items others) :
    (Registry.offerAll rule items r).Twin (Registry.offerAll rule others s) := by
  induction hi generalizing r s with
  | nil => exact .done h ()
  | cons hab _ ih =>
    have hoffer := h.offer_twin hab
    exact hoffer.andThen fun _ => ih hoffer.registry

theorem Alike.offerAll_same {rule : Rule α} (h : r.Alike s) (htwin : ∀ a, rule.Twin a a)
    (items : List (String × α)) :
    (Registry.offerAll rule items r).Twin (Registry.offerAll rule items s) :=
  h.offerAll (List.forall₂_same.2 fun a _ => htwin a)

end Registry

namespace Rule

/-- Raw texts fit, provided that they are the same or meant for the password. -/
lemma raw_twin {a b : String × String} (hn : a.1 = b.1) (h : a.1 ≠ "password" → a.2 = b.2) :
    raw.Twin a b where
  name := hn
  fits f g hf hfg := by
    cases hfg with
    | same hne =>
      rw [h (hf ▸ hne)]
      exact .same (hf ▸ hne)
    | password =>
      rw [← hf]
      exact .text (v := some a.2) (w := some b.2) rfl
  events _ _ _ _ := rfl

lemma typed_twin {a b : String × Value} (hn : a.1 = b.1) (hne : a.1 ≠ "password" → a.2 = b.2)
    (hk : a.1 = "password" → a.2.kind = .text ∧ b.2.kind = .text) : typed.Twin a b where
  name := hn
  fits f g hf hfg := by
    cases hfg with
    | same hp =>
      rw [hne (hf ▸ hp)]
      exact .same (hf ▸ hp)
    | password =>
      obtain ⟨hv,hw⟩ := hk hf.symm
      have hresult {w : Value} (hw : w.kind = .text) (held : Option Value) :
          (typed w (Field.password.holding held)).result = .ok (some w) := by
        simp [typed, Logged.quiet, Field.checkType, hw, Field.password, Except.map]
      rw [← hf, hresult hv, hresult hw]
      exact .of_kind hv hw
  events _ _ _ _ := rfl

lemma kind_of_password_valueFor {item : Json} {v : Value}
    (h : Field.password.valueFor item = .ok (some v)) : v.kind = .text := Field.kind_of_valueFor h

lemma parameter_password (item : Json) (held : Option Value) :
    (parameter item (Field.password.holding held)).result = Field.password.valueFor item :=
  Field.valueFor_hold _ _ _

lemma parameter_twin (a : String × Json) : parameter.Twin a a where
  name := rfl
  fits f g hf hfg := by
    cases hfg with
    | same hne => exact .same (hf ▸ hne)
    | password =>
      rw [parameter_password, parameter_password]
      exact .refl fun v => kind_of_password_valueFor
  events f g hf hfg := by
    cases hfg with
    | same => rfl
    | password => simp only [parameter, Field.valueFor_hold, Field.holding_name]

/-- Parameters that both give a text to the password fit, though their events may differ. -/
lemma parameter_fits {x y : Json} {v w : Value} (hx : Field.password.valueFor x = .ok (some v))
    (hy : Field.password.valueFor y = .ok (some w)) : parameter.Fits "password" x y := by
  intro f g hf hfg
  cases hfg with
  | same hne => exact absurd hf hne
  | password =>
    rw [parameter_password, parameter_password, hx, hy]
    exact .of_kind (kind_of_password_valueFor hx) (kind_of_password_valueFor hy)

lemma admits_password (p : Policy) {v w : Option String} (h : v.isSome = w.isSome) :
    p.admits (Field.password.holding (v.map .text)) =
      p.admits (Field.password.holding (w.map .text)) := by
  cases v with
  | none =>
    cases w with
    | none => rfl
    | some w => cases h
  | some v =>
    cases w with
    | none => cases h
    | some w => rfl

/-- Entries fit, provided that they are the same or meant for the password. -/
lemma entry_fits (p : Policy) {name : String} {x y : String} (h : name ≠ "password" → x = y) :
    (entry p).Fits name x y := by
  intro f g hf hfg
  cases hfg with
  | same hne =>
    rw [h (hf ▸ hne)]
    exact .same (hf ▸ hne)
  | @password v w hvw =>
    rw [← hf]
    simp only [entry, admits_password p hvw]
    cases p.admits (Field.password.holding (w.map .text)) with
    | error e => exact .error
    | ok admitted =>
      cases admitted with
      | false => exact .text (v := none) (w := none) rfl
      | true => exact .text (v := some x) (w := some y) rfl

lemma entry_twin (p : Policy) (a : String × String) : (entry p).Twin a a where
  name := rfl
  fits := entry_fits p fun _ => rfl
  events f g hf hfg := by
    cases hfg with
    | same => rfl
    | password hvw =>
      simp only [entry, admits_password p hvw, Field.holding_name, Field.holding_kind]

end Rule

end LayeredSettings
