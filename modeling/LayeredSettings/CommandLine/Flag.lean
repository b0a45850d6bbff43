import LayeredSettings.Assignment
import LayeredSettings.Report

/-! The flags of the command line: their spellings, what follows them, and where they may stand. -/
namespace LayeredSettings.CommandLine

/-- Why a command line is not carried out. -/
inductive Refusal where
  /-- A flag that is not known here, or a word that nothing asked for. -/
  | unexpectedArgument
  | unknownCommand
  | missingCommand
  | nothingGiven
  | repeated
  | badValue
  | badAssignment
  /-- A value is attached to a flag that takes none. -/
  | needlessValue
  | helpShown
  | versionShown
  deriving DecidableEq, Repr

/-- Help and version were asked for; everything else is a misuse. -/
def Refusal.exitCode : Refusal → Nat
  | helpShown | versionShown => 0
  | _ => 2

inductive Flag where
  | config
  | verbose
  | log
  | help
  | version
  | changeLogFile
  | dropFirst
  | contexts
  | propertiesFile
  | propertiesOverride
  | driver
  | url
  | username
  | password
  | promptOnNonLocalDatabase
  | assignment
  | baseDirectory
  | format
  deriving DecidableEq, Repr

def readBool? : String → Option Bool
  | "true" => some true
  | "false" => some false
  | _ => none

def readFormat? : String → Option OutputFormat
  | "text" => some .text
  | "json" => some .json
  | _ => none

namespace Flag

def long : Flag → String
  | config => "config"
  | verbose => "verbose"
  | log => "log"
  | help => "help"
  | version => "version"
  | changeLogFile => "change-log-file"
  | dropFirst => "drop-first"
  | contexts => "contexts"
  | propertiesFile => "properties-file"
  | propertiesOverride => "properties-override"
  | driver => "driver"
  | url => "url"
  | username => "username"
  | password => "password"
  | promptOnNonLocalDatabase => "prompt-on-non-local-database"
  | assignment => "param"
  | baseDirectory => "base-dir"
  | format => "format"

def short : Flag → Option Char
  | config => some 'c'
  | verbose => some 'v'
  | log => some 'l'
  | help => some 'h'
  | version => some 'V'
  | assignment => some 'D'
  | _ => none

def takesValue : Flag → Bool
  | verbose | help | version => false
  | _ => true

def isRepeatable (flag : Flag) : Bool := flag = assignment

def fault? (flag : Flag) (value : String) : Option Refusal :=
  match flag with
  | dropFirst | propertiesOverride | promptOnNonLocalDatabase =>
    if (readBool? value).isSome then none else some .badValue
  | format => if (readFormat? value).isSome then none else some .badValue
  | baseDirectory => if value.isEmpty then some .badValue else none
  | assignment =>
    match readAssignment value with
    | .ok _ => none
    | .error _ => some .badAssignment
  | _ => none

end Flag

/-- The part of a command line that is being read: before the command, or after its name. -/
inductive Scope where
  | top
  | resolve
  | fields
  deriving DecidableEq, Repr

namespace Scope

def flags (scope : Scope) : List Flag :=
  [.config, .verbose, .log, .help] ++
  match scope with
  | top => [.version]
  | resolve => [.changeLogFile, .dropFirst, .contexts, .propertiesFile, .propertiesOverride,
      .driver, .url, .username, .password, .promptOnNonLocalDatabase, .assignment, .baseDirectory,
      .format]
  | fields => [.format]

def long? (scope : Scope) (name : String) : Option Flag := scope.flags.find? (·.long = name)

def short? (scope : Scope) (letter : Char) : Option Flag :=
  scope.flags.find? (·.short = some letter)

end Scope

end LayeredSettings.CommandLine
