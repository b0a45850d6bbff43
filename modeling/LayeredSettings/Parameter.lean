import LayeredSettings.Environment
import LayeredSettings.Precedence
import LayeredSettings.VariableName

/-! Values that the host gives to fields before a properties file is applied: parameters of a
configuration file, raw assignments, and environment variables. -/
namespace LayeredSettings

def Json.shape : Json → String
  | .null => "null"
  | .bool _ => "a boolean"
  | .number _ => "a number"
  | .string _ => "a string"
  | .array _ => "a list"
  | .object _ => "a map"

namespace Field

/-- The text of an item of a list; an item that is not a scalar is an error. -/
def itemText (f : Field) : Json → Except ConfigError String
  | .string s => .ok s
  | .number n => .ok n.text
  | .bool b => .ok (if b then "true" else "false")
  | other => .error (.fieldAccess f.name ("list entries must be scalars, got " ++ other.shape))

def itemTexts (f : Field) : List Json → Except ConfigError (List String)
  | [] => .ok []
  | item :: rest => do
    let text ← f.itemText item
    return text :: (← f.itemTexts rest)

/-- A parameter as a value of the field's kind; null stands for "not specified". -/
def valueFor (f : Field) (parameter : Json) : Except ConfigError (Option Value) :=
  match f.kind, parameter with
  | _, .null => .ok none
  | .boolean, .bool b => .ok (some (.bool b))
  | kind, .string s => .ok (some (coerce kind s))
  | .text, .number n => .ok (some (.text n.text))
  | .text, .array items => (f.itemTexts items).map fun texts =>
      some (.text (String.intercalate "," texts))
  | kind, other => .error (.fieldAccess f.name
      ("cannot assign " ++ other.shape ++ " to a " ++ kind.name ++ " field"))

end Field

namespace Registry

def parameterEvent (name : String) (value : Value) : Event :=
  ⟨.debug, .injection, "Host parameter", [("key", name), ("value", value.display)]⟩

def injectParameter (name : String) (parameter : Json) (r : Registry) : Outcome Unit :=
  match r.lookup name with
  | .error e => .failed r e
  | .ok f =>
    match f.valueFor parameter with
    | .error e => .failed r e
    | .ok none => .done r ()
    | .ok (some value) => (Outcome.ofChange r (r.set name value)).after [parameterEvent name value]

def injectEntries : List (String × Json) → Registry → Outcome Unit
  | [], r => .done r ()
  | (name, parameter) :: rest, r =>
    (injectParameter name parameter r).andThen fun _ r => injectEntries rest r

/-- Give every parameter to its field, in the order of names, up to the first that fails. -/
def injectParameters (parameters : Dictionary Json) (r : Registry) : Outcome Unit :=
  injectEntries parameters.entries r

/-- Give raw texts to fields, one after the other, up to the first unknown name. -/
def injectRaw : List (String × String) → Registry → Outcome Unit
  | [], r => .done r ()
  | (name, raw) :: rest, r =>
    match r.lookup name with
    | .error e => .failed r e
    | .ok f =>
      (Outcome.ofChange r (r.set name (coerce f.kind raw))).andThen fun _ r => injectRaw rest r

def overrides (env : Environment) (r : Registry) : List (String × String) :=
  r.names.filterMap fun name => (env (VariableName.ofField name)).map fun raw => (name, raw)

def overrideEvent (name : String) : Event :=
  ⟨.debug, .injection, "Environment override",
    [("key", name), ("var", VariableName.ofField name)]⟩

/-- Give every field the text of its environment variable, if that is present; yields the names of
these fields. -/
def applyEnvironment (env : Environment) (r : Registry) : Outcome (List String) :=
  let found := r.overrides env
  ((injectRaw found r).andThen fun _ r => .done r (found.map (·.1))).after
    (found.map fun (name, _) => overrideEvent name)

end Registry

end LayeredSettings
