import LayeredSettings.Settings
import LayeredSettings.Proofs.Registry.Access

/-! Settings and the registry that they are read from: what each setting says about the field that
it comes from. -/
namespace LayeredSettings

lemma bind_eq_ok_iff {α β ε : Type} {x : Except ε α} {next : α → Except ε β} {b : β} :
    x >>= next = .ok b ↔ ∃ a, x = .ok a ∧ next a = .ok b := by
  cases x <;> simp [bind, Except.bind]

namespace Registry

theorem text_eq_ok_iff {r : Registry} {name : String} {f : Field} (hf : r.get? name = some f)
    {given : Option String} : r.text name = .ok given ↔ f.current = given.map .text := by
  rw [text_of_get? hf]
  cases f.current with
  | none => cases given <;> simp
  | some v => cases v <;> cases given <;> simp

theorem flag_eq_ok_iff {r : Registry} {name : String} {f : Field} (hf : r.get? name = some f)
    {b : Bool} :
    r.flag name = .ok b ↔ f.current = some (.bool b) ∨ f.current = none ∧ b = false := by
  rw [flag_of_get? hf]
  cases f.current with
  | none => simp [eq_comm]
  | some v => cases v <;> simp

end Registry

namespace Settings

def value (s : Settings) : String → Option Value
  | "changeLogFile" => some (.text s.changeLogFile)
  | "dropFirst" => some (.bool s.dropFirst)
  | "contexts" => some (.text s.contexts)
  | "propertiesFile" => s.propertiesFile.map .text
  | "propertyFileWillOverride" => some (.bool s.propertiesOverride)
  | "driver" => s.connection.driver.map .text
  | "url" => s.connection.url.map .text
  | "username" => s.connection.username.map .text
  | "password" => s.connection.password.map .text
  | "promptOnNonLocalDatabase" => some (.bool s.connection.promptOnNonLocalDatabase)
  | _ => none

/-- Reading settings is reading ten fields, none of which may fail. -/
theorem ofRegistry_eq_ok {r : Registry} {s : Settings} (h : ofRegistry r = .ok s) :
    (∃ file, r.text "changeLogFile" = .ok (some file) ∧ s.changeLogFile = Text.trimmed file) ∧
    r.flag "dropFirst" = .ok s.dropFirst ∧
    (∃ contexts, r.text "contexts" = .ok contexts ∧ s.contexts = contexts.getD "") ∧
    r.text "propertiesFile" = .ok s.propertiesFile ∧
    r.flag "propertyFileWillOverride" = .ok s.propertiesOverride ∧
    r.text "driver" = .ok s.connection.driver ∧ r.text "url" = .ok s.connection.url ∧
    r.text "username" = .ok s.connection.username ∧
    r.text "password" = .ok s.connection.password ∧
    r.flag "promptOnNonLocalDatabase" = .ok s.connection.promptOnNonLocalDatabase := by
  unfold ofRegistry at h
  cases hm : missing? r with
  | some name => simp [hm] at h
  | none =>
    simp only [hm, bind_eq_ok_iff] at h
    obtain ⟨file,hfile,h⟩ := h
    cases file with
    | none => simp at h
    | some file =>
      simp only [bind_eq_ok_iff] at h
      obtain ⟨b₁,h₁,t₁,h₂,t₂,h₃,b₂,h₄,t₃,h₅,t₄,h₆,t₅,h₇,t₆,h₈,b₃,h₉,h⟩ := h
      obtain rfl := Except.ok.inj h
      exact ⟨⟨file,hfile,rfl⟩,h₁,⟨t₁,h₂,rfl⟩,h₃,h₄,h₅,h₆,h₇,h₈,h₉⟩

end Settings

end LayeredSettings
