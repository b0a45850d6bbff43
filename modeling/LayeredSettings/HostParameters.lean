import LayeredSettings.HostConfig
import LayeredSettings.Json.Merge
import LayeredSettings.Log
import LayeredSettings.Text.Space
import LayeredSettings.Tier

/-! Loading host configuration: from one file, or from the files of both tiers, the user's over the
project's. What reads a text as a value is a parameter. -/
namespace LayeredSettings

/-- What was loaded, and from which files, the weaker tier first. -/
structure HostParameters where
  directories : Directories := {}
  config : HostConfig := {}
  sources : List (Tier × String) := []

/-- Why loading failed. -/
inductive LoadError where
  | unreadable (path : String) (cause : IoError)
  /-- The file holds no value that the reader accepts. -/
  | malformed (path : String)
  /-- The value of one file, or of both tiers merged, is not a configuration. -/
  | misshapen (path : Option String) (cause : ShapeError)

namespace LoadError

def message : LoadError → String
  | unreadable path _ => "Failed to read " ++ path
  | malformed path => "Failed to parse " ++ path
  | misshapen (some path) _ => "Invalid host config in " ++ path
  | misshapen none _ => "Invalid merged host config"

/-- The message and that of the cause. The reader's reasons are not kept; a fixed text stands for
them. -/
def chain (error : LoadError) : List String :=
  [error.message, match error with
    | unreadable _ cause => cause.message
    | malformed _ => "<yaml>"
    | misshapen _ cause => cause.message]

end LoadError

namespace HostParameters

section
variable (reader : String → Option Json) (disk : Disk)

/-- The value in a file. A blank file stands for null. -/
def readValue (path : String) : Except LoadError Json :=
  match disk.read path with
  | .error cause => .error (.unreadable path cause)
  | .ok bytes =>
    match String.fromUTF8? bytes with
    | none => .error (.unreadable path .notText)
    | some text =>
      if (Text.trimmed text).isEmpty then .ok .null
      else
        match reader text with
        | some value => .ok value
        | none => .error (.malformed path)

/-- A value as a configuration; the path tells which file is at fault. -/
def interpret (path : Option String) (value : Json) : Except LoadError HostConfig :=
  match HostConfig.ofJson value with
  | .ok config => .ok config
  | .error cause => .error (.misshapen path cause)

def loadFile (path : String) : Except LoadError HostParameters := do
  let value ← readValue reader disk path
  let config ← interpret (some path) value
  return { config, sources := [(.project, path)] }

def loadingEvent (tier : Tier) (path : String) : Event :=
  ⟨.debug, .loader, "Loading host parameters", [("tier", tier.name), ("path", path)]⟩

def readValues : List (Tier × String) → Logged (Except LoadError (List Json))
  | [] => ⟨[], .ok []⟩
  | (tier, path) :: rest =>
    Logged.after [loadingEvent tier path] <|
      (Logged.quiet (readValue reader disk path)).andThen fun value =>
        (readValues rest).andThen fun values => .quiet (.ok (value :: values))

/-- Load the files of the tiers, as far as they are there, and merge them. -/
def loadTiers (directories : Directories) : Logged (Except LoadError HostParameters) :=
  let sources := directories.files.filter fun (_, path) => disk.holds path
  (readValues reader disk sources).andThen fun values =>
    .quiet do
      let config ← interpret none (Json.mergeAll values)
      return { directories, config, sources }

/-- Load what the environment asks for: a file that it names, else the tiers. -/
def load (env : Environment) (account : Option String) : Logged (Except LoadError HostParameters) :=
  match env Directories.explicitVariable with
  | some path => .quiet (loadFile reader disk path)
  | none => loadTiers reader disk (.ofEnvironment env account)

end

end HostParameters

end LayeredSettings
