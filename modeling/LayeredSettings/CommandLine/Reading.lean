import LayeredSettings.CommandLine.Argument
import LayeredSettings.CommandLine.Flag

/-! Reading the arguments of one scope from left to right. A flag whose value is a word of its own
stays open until the next known flag or the end of the scope; only then it is checked. -/
namespace LayeredSettings.CommandLine

abbrev Given := List (Flag × String)

/-- Add a flag and its value, if the flag is new or may be repeated and the value is possible. -/
def Given.add (given : Given) (flag : Flag) (value : Option String) : Except Refusal Given :=
  match value with
  | none => .error .badValue
  | some text =>
    if !flag.isRepeatable && given.any (·.1 = flag) then .error .repeated
    else
      match flag.fault? text with
      | some refusal => .error refusal
      | none => .ok (given ++ [(flag, text)])

/-- What has been read: the flags that are checked, and the last one with the word that followed it,
if that is still open. -/
structure Reading where
  given : Given := []
  last : Option (Flag × Option String) := none

namespace Reading

def wantsValue (r : Reading) : Bool :=
  match r.last with
  | some (_, none) => true
  | _ => false

def hold (r : Reading) (word : String) : Reading :=
  { r with last := r.last.map fun (flag, _) => (flag, some word) }

def settle (r : Reading) : Except Refusal Given :=
  match r.last with
  | none => .ok r.given
  | some (flag, value) => r.given.add flag value

def meet (r : Reading) (flag : Flag) (attached : Option String) : Except Refusal Reading :=
  if flag.takesValue then do
    let given ← r.settle
    match attached with
    | none => return { given, last := some (flag, none) }
    | some value => return { given := ← given.add flag (some value) }
  else
    match attached with
    | some _ => .error .needlessValue
    | none => do
      let given ← r.settle
      match flag with
      | .help => .error .helpShown
      | .version => .error .versionShown
      | _ => return { given := ← given.add flag (some "") }

/-- Meet flags written as letters. The first that takes a value takes the letters after it, less an
equals sign in front. -/
def meetLetters (scope : Scope) (r : Reading) : List Char → Except Refusal Reading
  | [] => .ok r
  | c :: rest =>
    match scope.short? c with
    | none => .error .unexpectedArgument
    | some flag =>
      if flag.takesValue then
        r.meet flag <| match rest with
          | [] => none
          | '=' :: value => some (String.ofList value)
          | value => some (String.ofList value)
      else
        match r.meet flag none with
        | .ok next => meetLetters scope next rest
        | .error refusal => .error refusal

end Reading

def commandNames : List String := ["resolve", "fields", "help"]

/-- Why a word that is no value cannot stand here. Only before a command a word could be one. -/
def strayWord (scope : Scope) : Refusal :=
  if scope = .top then .unknownCommand else .unexpectedArgument

/-- Read the arguments of a scope. The top scope ends at the name of a command; the answer holds
that name and the arguments after it. -/
def readScope (scope : Scope) (r : Reading) :
    List String → Except Refusal (Reading × Option (String × List String))
  | [] => .ok (r, none)
  | text :: rest =>
    if scope = .top ∧ !r.wantsValue ∧ text ∈ commandNames then .ok (r, some (text, rest))
    else
      match Argument.ofText text with
      | .separator =>
        match rest with
        | [] => .ok (r, none)
        | next :: _ =>
          .error (if next ∈ commandNames then .unexpectedArgument else strayWord scope)
      | .long name attached =>
        match scope.long? name with
        | none => .error .unexpectedArgument
        | some flag =>
          match r.meet flag attached with
          | .ok r => readScope scope r rest
          | .error refusal => .error refusal
      | .letters cs =>
        match r.meetLetters scope cs with
        | .ok r => readScope scope r rest
        | .error refusal => .error refusal
      | .word =>
        if r.wantsValue then readScope scope (r.hold text) rest else .error (strayWord scope)

end LayeredSettings.CommandLine
