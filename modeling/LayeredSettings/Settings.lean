import LayeredSettings.Log
import LayeredSettings.Registry
import LayeredSettings.Text.Space

/-! The settled settings that a migration works with. The password is never shown. -/
namespace LayeredSettings

structure Connection where
  driver : Option String := none
  url : Option String := none
  username : Option String := none
  password : Option String := none
  promptOnNonLocalDatabase : Bool := false
  deriving DecidableEq, Repr

structure Settings where
  changeLogFile : String
  dropFirst : Bool := false
  contexts : String := ""
  propertiesFile : Option String := none
  propertiesOverride : Bool := false
  connection : Connection := {}
  deriving DecidableEq, Repr

namespace Settings

def missing? (r : Registry) : Option String :=
  (r.fields.find? fun f => f.required && f.current.isNone).map (·.name)

def ofRegistry (r : Registry) : Except ConfigError Settings :=
  match missing? r with
  | some name => .error (.missingRequired name)
  | none => do
    let some changeLogFile ← r.text "changeLogFile" | .error (.missingRequired "changeLogFile")
    let dropFirst ← r.flag "dropFirst"
    let contexts ← r.text "contexts"
    let propertiesFile ← r.text "propertiesFile"
    let propertiesOverride ← r.flag "propertyFileWillOverride"
    let driver ← r.text "driver"
    let url ← r.text "url"
    let username ← r.text "username"
    let password ← r.text "password"
    let promptOnNonLocalDatabase ← r.flag "promptOnNonLocalDatabase"
    return {
      changeLogFile := Text.trimmed changeLogFile
      dropFirst
      contexts := contexts.getD ""
      propertiesFile
      propertiesOverride
      connection := { driver, url, username, password, promptOnNonLocalDatabase } }

/-- The contexts to run: split at commas, trimmed, empty ones dropped. None means all. -/
def contextList (s : Settings) : List String :=
  ((s.contexts.toList.splitOn ',').map Text.trim).filterMap fun part =>
    if part.isEmpty then none else some (String.ofList part)

def mask : Option String → String
  | some _ => "*****"
  | none => ""

def showBool (b : Bool) : String := if b then "true" else "false"

/-- The settings as log events, one each, after an indentation. -/
def events (s : Settings) (indent : String) : List Event :=
  [ "driver: " ++ s.connection.driver.getD "",
    "url: " ++ s.connection.url.getD "",
    "username: " ++ s.connection.username.getD "",
    "password: " ++ mask s.connection.password,
    "prompt on non-local database? " ++ showBool s.connection.promptOnNonLocalDatabase,
    "properties file will override? " ++ showBool s.propertiesOverride,
    "changeLogFile: " ++ s.changeLogFile,
    "drop first? " ++ showBool s.dropFirst,
    "context(s): " ++ s.contexts ].map fun text =>
      { level := .info, component := .settings, message := indent ++ text }

/-- The settings as data; the password and what is absent are left out. -/
def toJson (s : Settings) : Json :=
  let optional (name : String) (value : Option String) : List (String × Json) :=
    (value.map fun text => (name, Json.string text)).toList
  .object ([("change_log_file", .string s.changeLogFile), ("drop_first", .bool s.dropFirst),
      ("contexts", .string s.contexts)] ++
    optional "properties_file" s.propertiesFile ++
    [("properties_override", .bool s.propertiesOverride),
      ("connection", .object (optional "driver" s.connection.driver ++
        optional "url" s.connection.url ++ optional "username" s.connection.username ++
        [("prompt_on_non_local_database", .bool s.connection.promptOnNonLocalDatabase)]))])

end Settings

end LayeredSettings
