import LayeredSettings.Opener
import LayeredSettings.Proofs.Properties.Acceptance

/-! What loading makes of an opener's answer: the source that its bytes spell, or one of four
causes of failure. -/
namespace LayeredSettings.Opener

open Properties (Source)

/-- Why no source can be loaded from a path: nothing is there; what is there cannot be opened, or
not read to its end; or an escape is malformed. -/
inductive Unloaded (opener : Opener) (path : String) : ConfigError → Prop
  | missing (absent : (opener.ask path).result = .ok none) :
      Unloaded opener path (.missingResource path)
  | unopened {cause : IoError} (h : (opener.ask path).result = .error cause) :
      Unloaded opener path (.malformedStream path (.io cause))
  | unread {cause : IoError} (h : (opener.ask path).result = .ok (some (.error cause))) :
      Unloaded opener path (.malformedStream path (.io cause))
  | malformed {bytes : ByteArray} {line : Nat}
      (found : (opener.ask path).result = .ok (some (.ok bytes)))
      (h : Source.parse (Text.decode bytes) = .error (.malformedEscape line)) :
      Unloaded opener path (.malformedStream path (.malformedEscape line))

variable {opener : Opener} {path : String}

/-- A source is loaded, or there is a cause why not. -/
theorem load_cases (opener : Opener) (path : String) :
    (∃ source, (opener.load path).result = .ok source) ∨
    ∃ e, (opener.load path).result = .error e ∧ opener.Unloaded path e := by
  cases hask : (opener.ask path).result with
  | error cause => exact .inr ⟨_,by rw [load, hask],.unopened hask⟩
  | ok found =>
    cases found with
    | none => exact .inr ⟨_,by rw [load, hask],.missing hask⟩
    | some stream =>
      cases stream with
      | error cause => exact .inr ⟨_,by rw [load, hask]; rfl,.unread hask⟩
      | ok bytes =>
        cases hparse : Source.parse (Text.decode bytes) with
        | ok source =>
          refine .inl ⟨source,?_⟩
          simp only [load, hask, readProperties, Source.read, hparse]
        | error e =>
          obtain ⟨line,-,-,rfl⟩ := (Properties.parsedBy_takenUnit _).refused e hparse
          refine .inr ⟨_,?_,.malformed hask hparse⟩
          simp only [load, hask, readProperties, Source.read, hparse]

theorem Unloaded.load_eq {e : ConfigError} (h : opener.Unloaded path e) :
    (opener.load path).result = .error e := by
  cases h with
  | missing h => rw [load, h]
  | unopened h => rw [load, h]
  | unread h =>
    rw [load, h]
    rfl
  | malformed found h => simp only [load, found, readProperties, Source.read, h]

theorem load_result_eq_error_iff {e : ConfigError} :
    (opener.load path).result = .error e ↔ opener.Unloaded path e := by
  refine ⟨fun h => ?_,fun h => h.load_eq⟩
  rcases load_cases opener path with ⟨source,hok⟩ | ⟨e',herr,hunloaded⟩
  · rw [h] at hok
    cases hok
  · obtain rfl := Except.error.inj (h.symm.trans herr)
    exact hunloaded

end LayeredSettings.Opener
