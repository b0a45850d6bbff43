import LayeredSettings.Proofs.Rules
import LayeredSettings.Proofs.Settings
import LayeredSettings.Session

/-! Registries that differ at most in the text of the password. Steps that are offered the same
items take such registries to such registries, with the same result and the same events. -/
namespace LayeredSettings

/-- Two runs that go on from related values, or stop with the same error. -/
inductive ResultAlike {α β ε : Type} (R : α → β → Prop) : Except ε α → Except ε β → Prop
  | error (e : ε) : ResultAlike R (.error e) (.error e)
  | ok {a : α} {b : β} (h : R a b) : ResultAlike R (.ok a) (.ok b)

namespace ResultAlike

variable {α β ε : Type} {R : α → β → Prop}

lemma error_left {e : ε} {result : Except ε β} (h : ResultAlike R (.error e) result) :
    result = .error e := by
  cases h
  rfl

lemma ok_left {a : α} {result : Except ε β} (h : ResultAlike R (.ok a) result) :
    ∃ b, result = .ok b ∧ R a b := by
  cases h with
  | ok hab => exact ⟨_,rfl,hab⟩

lemma refl (x : Except ε α) : ResultAlike Eq x x := by
  cases x with
  | error e => exact .error e
  | ok a => exact .ok rfl

theorem bind {γ δ : Type} {S : γ → δ → Prop} {x : Except ε α} {y : Except ε β}
    (h : ResultAlike R x y) {next : α → Except ε γ} {other : β → Except ε δ}
    (hnext : ∀ a b, R a b → ResultAlike S (next a) (other b)) :
    ResultAlike S (x >>= next) (y >>= other) := by
  cases h with
  | error e => exact .error e
  | ok hab => exact hnext _ _ hab

lemma bind_same {γ δ : Type} {S : γ → δ → Prop} {x : Except ε α} {next : α → Except ε γ}
    {other : α → Except ε δ} (hnext : ∀ a, ResultAlike S (next a) (other a)) :
    ResultAlike S (x >>= next) (x >>= other) := by
  apply (refl x).bind
  rintro a _ rfl
  exact hnext a

end ResultAlike

namespace Field

def password : Field := { name := "password", kind := .text, set := .base }

/-- The same field twice, or the field of the password with one text and with another. -/
inductive Alike : Field → Field → Prop
  | same {f : Field} (h : f.name ≠ "password") : Alike f f
  | password {v w : Option String} (h : v.isSome = w.isSome) :
      Alike (password.holding (v.map .text)) (password.holding (w.map .text))

lemma Alike.name_eq {f g : Field} (h : f.Alike g) : f.name = g.name := by cases h <;> rfl

lemma Alike.eq_of_ne {f g : Field} (h : f.Alike g) (hn : f.name ≠ "password") : f = g := by
  cases h with
  | same => rfl
  | password => exact absurd rfl hn

end Field

namespace Registry

/-- Field by field, the registries differ at most in the password. -/
def Alike (r s : Registry) : Prop := List.Forall₂ Field.Alike r.fields s.fields

variable {r s : Registry}

lemma standard_alike : standard.Alike standard := by
  unfold Alike
  rw [List.forall₂_same]
  intro f hf
  by_cases h : f.name = "password"
  · have hp : f = Field.password := by
      revert f
      decide
    rw [hp]
    exact .password (v := none) (w := none) rfl
  · exact .same h

lemma Alike.names_eq (h : r.Alike s) : r.names = s.names := by
  unfold names
  unfold Alike at h
  generalize r.fields = fs, s.fields = gs at h
  induction h with
  | nil => rfl
  | cons hfg _ ih => rw [List.map_cons, List.map_cons, hfg.name_eq, ih]

/-- A name leads to alike fields, or in both registries to none. -/
theorem Alike.get? (h : r.Alike s) (name : String) :
    r.get? name = none ∧ s.get? name = none ∨
      ∃ f g, r.get? name = some f ∧ s.get? name = some g ∧ f.Alike g := by
  rw [get?_eq_find?, get?_eq_find?]
  unfold Alike at h
  generalize r.fields = fs, s.fields = gs at h
  induction h with
  | nil => exact .inl ⟨rfl,rfl⟩
  | @cons f g _ _ hfg _ ih =>
    by_cases hn : f.name = name
    · have hn' : g.name = name := hfg.name_eq ▸ hn
      exact .inr ⟨f,g,by simp [hn],by simp [hn'],hfg⟩
    · have hn' : g.name ≠ name := hfg.name_eq ▸ hn
      simpa [hn, hn'] using ih

lemma Alike.get?_eq (h : r.Alike s) {name : String} (hn : name ≠ "password") :
    r.get? name = s.get? name := by
  rcases h.get? name with ⟨hr,hs⟩ | ⟨f,g,hf,hg,hfg⟩
  · rw [hr, hs]
  · rw [hf, hg, hfg.eq_of_ne (name_of_get? hf ▸ hn)]

lemma Alike.text_eq (h : r.Alike s) {name : String} (hn : name ≠ "password") :
    r.text name = s.text name := by
  simp only [text, lookup, h.get?_eq hn]

lemma Alike.flag_eq (h : r.Alike s) {name : String} (hn : name ≠ "password") :
    r.flag name = s.flag name := by
  simp only [flag, lookup, h.get?_eq hn]

/-- Reading the password fails in both registries, or yields something in both or nothing. -/
lemma Alike.text_password (h : r.Alike s) :
    ResultAlike (fun v w => v.isSome = w.isSome) (r.text "password") (s.text "password") := by
  rcases h.get? "password" with ⟨hr,hs⟩ | ⟨f,g,hf,hg,hfg⟩
  · simp only [text, lookup, hr, hs]
    exact .error _
  · cases hfg with
    | same hn => exact absurd (name_of_get? hf) hn
    | @password v w hvw =>
      have hv : r.text "password" = .ok v := (text_eq_ok_iff hf).2 rfl
      have hw : s.text "password" = .ok w := (text_eq_ok_iff hg).2 rfl
      rw [hv, hw]
      exact .ok hvw

lemma Alike.missing_eq (h : r.Alike s) : Settings.missing? r = Settings.missing? s := by
  unfold Settings.missing?
  unfold Alike at h
  generalize r.fields = fs, s.fields = gs at h
  induction h with
  | nil => rfl
  | @cons f _ _ _ hfg _ ih =>
    cases hfg with
    | same =>
      rw [List.find?_cons, List.find?_cons]
      cases f.required && f.current.isNone with
      | true => rfl
      | false => exact ih
    | password => exact ih

end Registry

namespace Settings

/-- Settings that are the same but for the text of the password. -/
inductive Alike : Settings → Settings → Prop
  | intro {s : Settings} {v w : Option String} (h : v.isSome = w.isSome) :
      Alike { s with connection.password := v } { s with connection.password := w }

lemma map_mask_eq {v w : Option String} (h : v.isSome = w.isSome) :
    v.map (fun text => mask (some text)) = w.map fun text => mask (some text) := by
  cases v with
  | none =>
    cases w with
    | none => rfl
    | some w => cases h
  | some v =>
    cases w with
    | none => cases h
    | some w => rfl

lemma mask_eq_getD (v : Option String) :
    mask v = (v.map fun text => mask (some text)).getD "" := by
  cases v <;> rfl

/-- The same events report them, for the password is masked. -/
lemma Alike.events_eq {s t : Settings} (h : s.Alike t) (indent : String) :
    s.events indent = t.events indent := by
  obtain @⟨s,v,w,hvw⟩ := h
  have hmask : mask v = mask w := by rw [mask_eq_getD v, mask_eq_getD w, map_mask_eq hvw]
  simp only [events, hmask]

end Settings

namespace Registry

variable {r s : Registry}

/-- Alike registries are refused for the same reason, or give settings that differ at most in the
text of the password. -/
theorem Alike.ofRegistry (h : r.Alike s) :
    ResultAlike Settings.Alike (Settings.ofRegistry r) (Settings.ofRegistry s) := by
  have htext (name : String) (hn : name ≠ "password") : r.text name = s.text name := h.text_eq hn
  have hflag (name : String) (hn : name ≠ "password") : r.flag name = s.flag name := h.flag_eq hn
  unfold Settings.ofRegistry
  rw [h.missing_eq, htext "changeLogFile" (by decide), hflag "dropFirst" (by decide),
    htext "contexts" (by decide), htext "propertiesFile" (by decide),
    hflag "propertyFileWillOverride" (by decide), htext "driver" (by decide),
    htext "url" (by decide), htext "username" (by decide),
    hflag "promptOnNonLocalDatabase" (by decide)]
  cases Settings.missing? s with
  | some name => exact .error _
  | none =>
    refine .bind_same fun file => ?_
    cases file with
    | none => exact .error _
    | some file =>
      refine .bind_same fun dropFirst => .bind_same fun contexts => ?_
      refine .bind_same fun propertiesFile => .bind_same fun propertiesOverride => ?_
      refine .bind_same fun driver => .bind_same fun url => .bind_same fun username => ?_
      refine h.text_password.bind fun v w hvw => .bind_same fun prompt => ?_
      exact .ok (.intro (s := ⟨_,_,_,_,_,⟨_,_,_,none,_⟩⟩) hvw)

theorem Alike.events_settle (h : r.Alike s) : r.settle.events = s.settle.events := by
  have hsettings := h.ofRegistry
  unfold settle
  cases hr : Settings.ofRegistry r with
  | error e =>
    rw [hr] at hsettings
    rw [hsettings.error_left]
    rfl
  | ok a =>
    rw [hr] at hsettings
    obtain ⟨b,hs,hab⟩ := hsettings.ok_left
    rw [hs]
    simp only [Outcome.done, Outcome.after_events, hab.events_eq]

end Registry

end LayeredSettings
