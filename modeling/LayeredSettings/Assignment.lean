import LayeredSettings.Text.Space

/-! A setting given by name: `name=value`. -/
namespace LayeredSettings

/-- An assignment whose name is blank. -/
structure AssignmentError where
  text : String
  deriving DecidableEq, Repr

def AssignmentError.message (e : AssignmentError) : String :=
  "invalid assignment '" ++ e.text ++ "': missing name"

/-- A name and a value, parted by the first equals sign. The name is trimmed; without an equals
sign the value is empty. -/
def readAssignment (text : String) : Except AssignmentError (String × String) :=
  let cs := text.toList
  let before := cs.takeWhile (· != '=')
  let name := Text.trim before
  if name.isEmpty then .error ⟨text⟩
  else .ok (String.ofList name, String.ofList (cs.drop (before.length + 1)))

example : (readAssignment " url = a=b").toOption = some ("url", " a=b") := by decide +kernel
example : (readAssignment "contexts").toOption = some ("contexts", "") := by decide +kernel
example : (readAssignment "=x").toOption = none := by decide +kernel

end LayeredSettings
