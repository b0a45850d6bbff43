import LayeredSettings.CommandLine.Reading
import LayeredSettings.Request

/-! What a command line asks for. -/
namespace LayeredSettings

open CommandLine

inductive Command where
  | resolve (request : Request)
  | fields (format : OutputFormat)
  deriving DecidableEq, Repr

/-- A command, the configuration file to use in place of the tiers, and how to log. -/
structure Invocation where
  config : Option String := none
  verbose : Bool := false
  log : String := "2"
  command : Command
  deriving DecidableEq, Repr

namespace Invocation

def formatOf (given : Given) : OutputFormat :=
  ((given.lookup .format).bind readFormat?).getD .text

def requestOf (given : Given) : Request :=
  let text (flag : Flag) : Option String := given.lookup flag
  let bool (flag : Flag) : Option Bool := (text flag).bind readBool?
  { changeLogFile := text .changeLogFile
    dropFirst := bool .dropFirst
    contexts := text .contexts
    propertiesFile := text .propertiesFile
    propertiesOverride := bool .propertiesOverride
    driver := text .driver
    url := text .url
    username := text .username
    password := text .password
    promptOnNonLocalDatabase := bool .promptOnNonLocalDatabase
    assignments := given.filterMap fun (flag, value) =>
      if flag = .assignment then (readAssignment value).toOption else none
    baseDirectory := text .baseDirectory
    format := formatOf given }

/-- What stands after a command wins over what stands before it. -/
def ofGiven (before after : Given) (command : Command) : Invocation :=
  let find (flag : Flag) : Option String := (after.lookup flag).or (before.lookup flag)
  { config := find .config
    verbose := (find .verbose).isSome
    log := (find .log).getD "2"
    command }

def helpFor : List String → Refusal
  | [] => .helpShown
  | [name] => if name ∈ commandNames then .helpShown else .unknownCommand
  | _ => .unknownCommand

/-- Read a command line, without the program's name. Faults after the command are found before a
fault of the last flag in front of it. -/
def parse (args : List String) : Except Refusal Invocation := do
  let (outer, command) ← readScope .top {} args
  match command with
  | none =>
    let given ← outer.settle
    .error (if given.isEmpty then .nothingGiven else .missingCommand)
  | some ("help", rest) => .error (helpFor rest)
  | some (name, rest) =>
    let scope : Scope := if name = "resolve" then .resolve else .fields
    let (inner, _) ← readScope scope {} rest
    let after ← inner.settle
    let before ← outer.settle
    return ofGiven before after <|
      if scope = .resolve then .resolve (requestOf after) else .fields (formatOf after)

end Invocation

end LayeredSettings
