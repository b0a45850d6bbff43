import LayeredSettings.Error

/-! A named setting: what kind of value it takes, where it is declared, its default and its current
value. -/
namespace LayeredSettings

inductive Kind where
  | text
  | boolean
  deriving DecidableEq, Repr

namespace Kind

def name : Kind → String
  | text => "text"
  | boolean => "boolean"

end Kind

inductive Value where
  | text (s : String)
  | bool (b : Bool)
  deriving DecidableEq, Repr

namespace Value

def kind : Value → Kind
  | text _ => .text
  | bool _ => .boolean

def display : Value → String
  | text s => s
  | bool b => if b then "true" else "false"

def asText : Value → Option String
  | text s => some s
  | bool _ => none

def asBool : Value → Option Bool
  | text _ => none
  | bool b => some b

def toJson : Value → Json
  | text s => .string s
  | bool b => .bool b

end Value

/-- The table a field is declared in: connection settings shared by every migration goal, or
change-log settings that a properties file can also give. -/
inductive FieldSet where
  | base
  | configurable
  deriving DecidableEq, Repr

namespace FieldSet

def name : FieldSet → String
  | base => "base"
  | configurable => "configurable"

end FieldSet

/-- A setting. Its default serves only to tell values that the host filled in from choices of the
user; `current` is the value it holds. -/
structure Field where
  name : String
  kind : Kind
  set : FieldSet
  required : Bool := false
  default : Option Value := none
  current : Option Value := none
  deriving DecidableEq, Repr

namespace Field

/-- Register a default; the field starts out holding it. -/
def withDefault (f : Field) (value : Value) : Field :=
  { f with default := some value, current := some value }

/-- A value can be stored in a field of its kind only. -/
def checkType (f : Field) (value : Value) : Except ConfigError Unit :=
  if value.kind = f.kind then .ok ()
  else .error (.fieldAccess f.name ("expected a " ++ f.kind.name ++ " value, got " ++
    value.kind.name ++ " '" ++ value.display ++ "'"))

@[simp] theorem checkType_eq_ok_iff (f : Field) (value : Value) :
    f.checkType value = .ok () ↔ value.kind = f.kind := by
  unfold checkType
  split <;> simp_all

def baseTable : List Field := [
  { name := "driver", kind := .text, set := .base },
  { name := "url", kind := .text, set := .base },
  { name := "username", kind := .text, set := .base },
  { name := "password", kind := .text, set := .base },
  ({ name := "promptOnNonLocalDatabase", kind := .boolean, set := .base } : Field).withDefault
    (.bool true)]

def configurableTable : List Field := [
  { name := "changeLogFile", kind := .text, set := .configurable, required := true },
  ({ name := "dropFirst", kind := .boolean, set := .configurable } : Field).withDefault
    (.bool false),
  ({ name := "contexts", kind := .text, set := .configurable } : Field).withDefault (.text ""),
  { name := "propertiesFile", kind := .text, set := .configurable },
  ({ name := "propertyFileWillOverride", kind := .boolean, set := .configurable } :
    Field).withDefault (.bool false)]

end Field

end LayeredSettings
