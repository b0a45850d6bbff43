import LayeredSettings.Settings
import LayeredSettings.Text.Quoted

/-! What is printed for people and for programs: the settings, and the table of fields. -/
namespace LayeredSettings

inductive OutputFormat where
  | text
  | json
  deriving DecidableEq, Repr

namespace Settings

def line (name value : String) : String := name ++ ": " ++ value ++ "\n"

def optionalLine (name : String) : Option String → String
  | some value => line name value
  | none => ""

/-- One line per setting; absent options have none, and a password shows as a mask. -/
def toText (s : Settings) : String :=
  line "changeLogFile" s.changeLogFile ++
  line "dropFirst" (showBool s.dropFirst) ++
  line "contexts" s.contexts ++
  optionalLine "propertiesFile" s.propertiesFile ++
  line "propertyFileWillOverride" (showBool s.propertiesOverride) ++
  optionalLine "driver" s.connection.driver ++
  optionalLine "url" s.connection.url ++
  optionalLine "username" s.connection.username ++
  optionalLine "password" (s.connection.password.map fun text => mask (some text)) ++
  line "promptOnNonLocalDatabase" (showBool s.connection.promptOnNonLocalDatabase)

def format (s : Settings) : OutputFormat → String
  | .text => s.toText
  | .json => s.toJson.pretty ++ "\n"

end Settings

namespace Registry

def padded (width : Nat) (s : String) : String :=
  s ++ String.ofList (List.replicate (width - s.length) ' ')

def remark (f : Field) : String :=
  match f.default with
  | some value => "default=" ++ Text.quoted value.display
  | none => if f.required then "required" else ""

/-- A row of the field table, without white space at its end. -/
def row (width : Nat) (f : Field) : String :=
  String.ofList (Text.trimEnd (padded width f.name ++ "  " ++ padded 7 f.kind.name ++ "  " ++
    padded 12 f.set.name ++ "  " ++ remark f).toList)

/-- The width of the name column: the greatest number of bytes of a name. -/
def nameWidth (r : Registry) : Nat := (r.names.map String.utf8ByteSize).foldl max 0

def toText (r : Registry) : String :=
  r.fields.foldl (fun text f => text ++ row r.nameWidth f ++ "\n") ""

def fieldJson (f : Field) : Json :=
  .object [
    ("default", match f.default with
      | some value => value.toJson
      | none => .null),
    ("name", .string f.name), ("required", .bool f.required), ("set", .string f.set.name),
    ("type", .string f.kind.name)]

def format (r : Registry) : OutputFormat → String
  | .text => r.toText
  | .json => (Json.array (r.fields.map fieldJson)).pretty ++ "\n"

end Registry

end LayeredSettings
