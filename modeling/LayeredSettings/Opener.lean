import LayeredSettings.FileTree
import LayeredSettings.Log
import LayeredSettings.Properties.Source

/-! Where properties files are looked for. Openers are asked one after the other, and the first
that does not answer "nothing here" decides. -/
namespace LayeredSettings

open Properties (Source Stream)

/-- The answer to a request for a path: it cannot be opened, there is nothing, or a stream. -/
abbrev Answer := Except IoError (Option Stream)

/-- A single place to look, with a name for logs, or several in order. -/
inductive Opener where
  | leaf (label : String) (answer : String → Answer)
  | composite (parts : List Opener)

instance : Inhabited Opener := ⟨.composite []⟩

namespace Opener

mutual

def describe : Opener → String
  | leaf label _ => label
  | composite parts => "composite[" ++ String.intercalate ", " (describeParts parts) ++ "]"

def describeParts : List Opener → List String
  | [] => []
  | part :: rest => part.describe :: describeParts rest

end

def resolvedEvent (path : String) (part : Opener) : Event :=
  ⟨.debug, .opener, "Resolved resource", [("path", path), ("opener", part.describe)]⟩

mutual

def ask (path : String) : Opener → Logged Answer
  | leaf _ answer => ⟨[], answer path⟩
  | composite parts => askParts path parts

/-- Ask the parts in order, up to the first error or stream. -/
def askParts (path : String) : List Opener → Logged Answer
  | [] => ⟨[], .ok none⟩
  | part :: rest =>
    match ask path part with
    | ⟨events, .error e⟩ => ⟨events, .error e⟩
    | ⟨events, .ok (some stream)⟩ => ⟨events ++ [resolvedEvent path part], .ok (some stream)⟩
    | ⟨events, .ok none⟩ =>
      let later := askParts path rest
      ⟨events ++ later.events, later.result⟩

end

/-- A directory of a disk. Nothing is there when the path is missing; a directory opens, but cannot
be read. -/
def directory (disk : Disk) (base : String) : Opener :=
  .leaf ("filesystem:" ++ base) fun path =>
    match disk (joinPath base path) with
    | .ok (.file bytes) => .ok (some (.ok bytes))
    | .ok .directory => .ok (some (.error .isDirectory))
    | .error .notFound => .ok none
    | .error e => .error e

/-- Read a properties stream that is expected to be there. -/
def readProperties (stream : Option Stream) (path : String) : Except ConfigError Source :=
  match stream with
  | none => .error .emptyInput
  | some stream =>
    match Source.read stream with
    | .ok source => .ok source
    | .error cause => .error (.malformedStream path cause)

def load (opener : Opener) (path : String) : Logged (Except ConfigError Source) :=
  let asked := opener.ask path
  ⟨asked.events, match asked.result with
    | .error e => .error (.malformedStream path (.io e))
    | .ok none => .error (.missingResource path)
    | .ok (some stream) => readProperties (some stream) path⟩

end Opener

end LayeredSettings
