import LayeredSettings.CommandLine
import LayeredSettings.LogFilter
import LayeredSettings.Resolution

/-! The program as a whole: what a command line does in given surroundings. -/
namespace LayeredSettings

/-- What a run of the program finds around it. -/
structure Surroundings where
  env : Environment
  /-- The home directory of the account, if it is known, for when the environment names none. -/
  accountHome : Option String
  disk : Disk
  canAppend : String → Except IoError Unit := disk.canAppend
  reader : String → Option Json

/-- What a run of the program leaves behind. -/
structure Effects where
  exitCode : Nat
  stdout : String := ""
  stderr : String := ""
  /-- A file that was opened to write at its end, and what was written. -/
  appended : Option (String × String) := none
  deriving DecidableEq, Repr

/-- Why the program ends without an answer. -/
inductive Failure where
  | logFile (path : String) (cause : IoError)
  | load (cause : LoadError)
  | run (cause : RunError)

namespace Failure

def chain : Failure → List String
  | logFile path cause => ["Failed to open log file " ++ path, cause.message]
  | load cause => cause.chain
  | run cause => cause.chain

/-- A text whose later lines are indented like the first one is. -/
def hanging (width : Nat) (text : String) : String :=
  String.ofList (text.toList.flatMap fun c =>
    if c = '\n' then '\n' :: List.replicate width ' ' else [c])

/-- A cause with its number, counted from zero, in five columns. -/
def numbered (n : Nat) (cause : String) : String :=
  let digits := toString n
  "\n" ++ String.ofList (List.replicate (5 - digits.length) ' ') ++ digits ++ ": " ++
    hanging 7 cause

def causesText : List String → String
  | [] => ""
  | [cause] => "\n\nCaused by:\n    " ++ hanging 4 cause
  | causes => "\n\nCaused by:" ++ String.join (causes.mapIdx numbered)

def text (f : Failure) : String :=
  "Error: " ++ f.chain.headD "" ++ causesText f.chain.tail ++ "\n"

end Failure

namespace Invocation

def format (i : Invocation) : OutputFormat :=
  match i.command with
  | .resolve request => request.format
  | .fields format => format

def host (i : Invocation) (s : Surroundings) : Logged (Except LoadError HostParameters) :=
  match i.config with
  | some path => .quiet (HostParameters.loadFile s.reader s.disk path)
  | none => HostParameters.load s.reader s.disk s.env s.accountHome

def loadedEvent (host : HostParameters) : Event :=
  ⟨.debug, .program, "Host parameters loaded", [("sources", toString host.sources.length)]⟩

/-- Carry out the command; yields the text to print. Only resolving reads host parameters. -/
def perform (i : Invocation) (s : Surroundings) : Logged (Except Failure String) :=
  match i.command with
  | .fields format => .quiet (.ok (Registry.standard.format format))
  | .resolve request =>
    ((i.host s).mapError .load).andThen fun host =>
      Logged.after [loadedEvent host] <|
        ((request.resolve s.disk host s.env).mapError .run).andThen fun settings =>
          .quiet (.ok (request.output settings))

/-- What a result leaves behind. A failed resolution is reported as data if the output was to be
data; any other failure is told to people. -/
def conclude (i : Invocation) : Except Failure String → Effects
  | .ok output => { exitCode := 0, stdout := output }
  | .error (.run e) =>
    match i.format with
    | .json => { exitCode := 1, stdout := e.cause.report.pretty ++ "\n" }
    | .text => { exitCode := 1, stderr := (Failure.run e).text }
  | .error failure => { exitCode := 1, stderr := failure.text }

end Invocation

def LogTarget.deliver (target : LogTarget) (log : String) (effects : Effects) : Effects :=
  match target with
  | off => effects
  | stdout => { effects with stdout := log ++ effects.stdout }
  | stderr => { effects with stderr := log ++ effects.stderr }
  | file path => { effects with appended := some (path, log) }

/-- Run an invocation. A log file is opened before anything else happens. -/
def Invocation.run (i : Invocation) (s : Surroundings) : Effects :=
  let target := LogTarget.ofText i.log
  let opened : Except Failure Unit := match target with
    | .file path => (s.canAppend path).mapError (.logFile path)
    | _ => .ok ()
  match opened with
  | .error failure => { exitCode := 1, stderr := failure.text }
  | .ok () =>
    let performed := i.perform s
    let filter := LogFilter.ofEnvironment s.env i.verbose
    let log := String.join ((performed.events.filter filter.admits).map Event.line)
    target.deliver log (i.conclude performed.result)

/-- Run the program. What a refused command line prints is not told here. -/
def runProgram (s : Surroundings) (args : List String) : Effects :=
  match Invocation.parse args with
  | .error refusal => { exitCode := refusal.exitCode }
  | .ok i => i.run s

end LayeredSettings
