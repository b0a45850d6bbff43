import LayeredSettings.Parameter
import LayeredSettings.Report

/-! What a user asks for on the command line, and the registry that the host fills in before a
properties file is applied. Of the host's sources the later is the stronger: defaults, parameters,
environment, flags, assignments. -/
namespace LayeredSettings

/-- Settings given by flags, further fields by name, where to look for the properties file, and how
to print the result. -/
structure Request where
  changeLogFile : Option String := none
  dropFirst : Option Bool := none
  contexts : Option String := none
  propertiesFile : Option String := none
  propertiesOverride : Option Bool := none
  driver : Option String := none
  url : Option String := none
  username : Option String := none
  password : Option String := none
  promptOnNonLocalDatabase : Option Bool := none
  assignments : List (String × String) := []
  baseDirectory : Option String := none
  format : OutputFormat := .text
  deriving DecidableEq, Repr

/-- The stage of a run at which it fails. -/
inductive Stage where
  | parameters
  | environment
  | flags
  | assignments
  | session
  deriving DecidableEq, Repr

def Stage.context : Stage → Option String
  | parameters => some "Invalid host parameter"
  | environment => some "Invalid environment override"
  | flags => none
  | assignments => some "Invalid -D parameter"
  | session => some "Failed to resolve settings"

structure RunError where
  stage : Stage
  cause : ConfigError
  deriving DecidableEq, Repr

def RunError.chain (e : RunError) : List String := e.stage.context.toList ++ e.cause.chain

def Outcome.inStage {α : Type} (stage : Stage) (o : Outcome α) :
    Logged (Except RunError (Registry × α)) :=
  ⟨o.events, match o.result with
    | .ok value => .ok (o.registry, value)
    | .error cause => .error ⟨stage, cause⟩⟩

/-- Store values one after the other, up to the first that is refused. -/
def Registry.setAll : List (String × Value) → Registry → Outcome Unit
  | [], r => .done r ()
  | (name, value) :: rest, r =>
    (Outcome.ofChange r (r.set name value)).andThen fun _ r => r.setAll rest

namespace Request

def flags (q : Request) : List (String × Value) :=
  let text (name : String) (given : Option String) := given.map fun s => (name, Value.text s)
  let bool (name : String) (given : Option Bool) := given.map fun b => (name, Value.bool b)
  [ text "changeLogFile" q.changeLogFile,
    bool "dropFirst" q.dropFirst,
    text "contexts" q.contexts,
    text "propertiesFile" q.propertiesFile,
    bool "propertyFileWillOverride" q.propertiesOverride,
    text "driver" q.driver,
    text "url" q.url,
    text "username" q.username,
    text "password" q.password,
    bool "promptOnNonLocalDatabase" q.promptOnNonLocalDatabase ].filterMap id

def environmentEvents (names : List String) : List Event :=
  if names.isEmpty then []
  else [⟨.debug, .resolveCommand, "Applied environment overrides",
    [("fields", "[" ++ String.intercalate ", " (names.map Text.quoted) ++ "]")]⟩]

/-- The standard registry with everything that the host gives. -/
def hostRegistry (q : Request) (parameters : Dictionary Json) (env : Environment) :
    Logged (Except RunError Registry) :=
  ((Registry.standard.injectParameters parameters).inStage .parameters).andThen fun (r, _) =>
  ((r.applyEnvironment env).inStage .environment).andThen fun (r, names) =>
  Logged.after (environmentEvents names) <|
  ((r.setAll q.flags).inStage .flags).andThen fun (r, _) =>
  ((r.injectRaw q.assignments).inStage .assignments).andThen fun (r, _) =>
  .quiet (.ok r)

end Request

end LayeredSettings
