import LayeredSettings.Program
import LayeredSettings.Yaml

/-! The command line program. It looks at the variables and files that a run can ask for, runs the
program on what it found, and carries out the effects. -/
namespace LayeredSettings.Main

/-- Whether an error number, which can be given as its negative, is the expected one. -/
def isCode (code expected : UInt32) : Bool := code = expected || code = 0 - expected

def ioError : IO.Error → IoError
  | .noFileOrDirectory _ _ _ => .notFound
  | .inappropriateType _ code _ => if isCode code 20 then .notDirectory else .isDirectory
  | .invalidArgument _ code details => if isCode code 36 then .nameTooLong else .other details
  | e => .other (toString e)

def probe (path : String) : IO (String × Except IoError Node) := do
  try
    return (path, .ok (.file (← IO.FS.readBinFile path)))
  catch e =>
    return (path, match ioError e with
      | .isDirectory => .ok .directory
      | cause => .error cause)

/-- The number of the account that a process runs under, in the description of the process. -/
def accountIn (status : String) : Option String :=
  (status.splitOn "\n").findSome? fun line =>
    match line.splitOn "\t" with
    | "Uid:" :: number :: _ => some number
    | _ => none

/-- The home directory of an account, in a table with the seven parts of an account on each line. -/
def homeIn (accounts number : String) : Option String :=
  (accounts.splitOn "\n").findSome? fun line =>
    match line.splitOn ":" with
    | [_, _, n, _, _, home, _] => if n = number then some home else none
    | _ => none

/-- The home directory of the account, from the system's own tables. Without these, or where the
account is kept elsewhere, none is known. -/
def accountHome : IO (Option String) := do
  let read (path : String) : IO String := do
    try
      return Text.decode (← IO.FS.readBinFile path)
    catch _ => return ""
  let number := accountIn (← read "/proc/self/status")
  return number.bind (homeIn (← read "/etc/passwd"))

def diskOf (probed : List (String × Except IoError Node)) : Disk := fun path =>
  (probed.lookup path).getD (.error .notFound)

def variableNames : List String :=
  ["HOME", Directories.explicitVariable, Directories.projectVariable, Directories.userVariable,
    LogFilter.variableName] ++ Registry.standard.names.map VariableName.ofField

/-- The paths that loading can ask for. -/
def hostPaths (i : Invocation) (s : Surroundings) : List String :=
  match i.config, s.env Directories.explicitVariable with
  | some path, _ | none, some path => [path]
  | none, none =>
    let directories := Directories.ofEnvironment s.env s.accountHome
    directories.project.toList ++ directories.files.map (·.2)

/-- The places where the properties file can be, once everything else is known. -/
def propertiesPaths (i : Invocation) (s : Surroundings) : List String :=
  match i.command, (i.host s).result with
  | .resolve request, .ok host =>
    match (request.hostRegistry host.config.parameters s.env).result with
    | .ok r =>
      match r.text "propertiesFile" with
      | .ok (some path) =>
        (request.baseDirectory.getD "." :: host.directories.project.toList).map (joinPath · path)
      | _ => []
    | .error _ => []
  | _, _ => []

def openLog (i : Invocation) : IO (Option (Except IoError IO.FS.Handle)) := do
  match LogTarget.ofText i.log with
  | .file path =>
    try
      return some (.ok (← IO.FS.Handle.mk path .append))
    catch e => return some (.error (ioError e))
  | _ => return none

def usage : String :=
  "Usage: migrate-settings [-c FILE] [-v] [-l TARGET] resolve|fields|help [OPTIONS]\n"

def run (i : Invocation) : IO UInt32 := do
  let given ← variableNames.filterMapM fun name => do
    return (← IO.getEnv name).map fun value => (name, value)
  let account ← accountHome
  let log ← openLog i
  let around (probed : List (String × Except IoError Node)) : Surroundings :=
    { env := fun name => given.lookup name
      accountHome := account
      disk := diskOf probed
      canAppend := fun _ =>
        match log with
        | some (.error cause) => .error cause
        | _ => .ok ()
      reader := Yaml.read? }
  let host ← (hostPaths i (around [])).mapM probe
  let properties ← (propertiesPaths i (around host)).mapM probe
  let effects := i.run (around (host ++ properties))
  match log, effects.appended with
  | some (.ok handle), some (_, text) => handle.putStr text
  | _, _ => pure ()
  (← IO.getStdout).putStr effects.stdout
  (← IO.getStderr).putStr effects.stderr
  return effects.exitCode.toUInt32

end LayeredSettings.Main

def main (args : List String) : IO UInt32 := do
  match LayeredSettings.Invocation.parse args with
  | .ok i => LayeredSettings.Main.run i
  | .error refusal =>
    let out ← if refusal.exitCode = 0 then IO.getStdout else IO.getStderr
    out.putStr LayeredSettings.Main.usage
    return refusal.exitCode.toUInt32
