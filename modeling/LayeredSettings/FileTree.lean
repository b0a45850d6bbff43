import LayeredSettings.Error
import LayeredSettings.Text.Parts

/-! A file system as a finite tree, and what is found at a path. -/
namespace LayeredSettings

/-- What a path leads to. -/
inductive Node where
  | file (bytes : ByteArray)
  | directory

/-- A file system as its readers see it: what a path leads to, or why it leads nowhere. -/
abbrev Disk := String → Except IoError Node

namespace Disk

def isDirectory (disk : Disk) (path : String) : Bool :=
  match disk path with
  | .ok .directory => true
  | _ => false

def holds (disk : Disk) (path : String) : Bool :=
  match disk path with
  | .ok _ => true
  | .error _ => false

def read (disk : Disk) (path : String) : Except IoError ByteArray :=
  match disk path with
  | .ok (.file bytes) => .ok bytes
  | .ok .directory => .error .isDirectory
  | .error e => .error e

end Disk

/-- A path without slashes at its end, cut behind its last slash. -/
def splitPath (path : String) : String × String :=
  let backwards := path.toList.reverse.dropWhile (· == '/')
  let name := backwards.takeWhile (· != '/')
  (String.ofList (backwards.drop name.length).reverse, String.ofList name.reverse)

/-- Whether a file at the path can be opened to write at its end: it is there, or there is a
directory to make it in. -/
def Disk.canAppend (disk : Disk) (path : String) : Except IoError Unit :=
  match disk path with
  | .ok (.file _) => .ok ()
  | .ok .directory => .error .isDirectory
  | .error .notFound =>
    let (parent, name) := splitPath path
    if name.isEmpty then .error .notFound
    else
      match disk (if parent.isEmpty then "." else parent) with
      | .ok .directory => if path.toList.getLast? = some '/' then .error .isDirectory else .ok ()
      | .ok (.file _) => .error .notDirectory
      | .error e => .error e
  | .error e => .error e

/-- A path below a directory; an absolute path replaces the directory. -/
def joinPath (base path : String) : String :=
  if path.toList.head? = some '/' ∨ base.isEmpty then path
  else if base.toList.getLast? = some '/' then base ++ path
  else base ++ "/" ++ path

/-- A regular file, or a directory with named entries. -/
inductive FileTree where
  | file (bytes : ByteArray)
  | directory (entries : List (String × FileTree))

namespace FileTree

def empty : FileTree := .directory []

def kind : FileTree → Node
  | file bytes => .file bytes
  | directory _ => .directory

/-- Walk down the components of a path; `above` holds the directories passed, the nearest first. A
component "." stays and ".." goes up; a file has nothing below it. -/
def walk (above : List FileTree) (tree : FileTree) : List String → Except IoError FileTree
  | [] => .ok tree
  | name :: rest =>
    match tree with
    | file _ => .error .notDirectory
    | directory entries =>
      if name = "" ∨ name = "." then walk above tree rest
      else if name = ".." then
        match above with
        | [] => walk [] tree rest
        | parent :: more => walk more parent rest
      else if name.utf8ByteSize > 255 then .error .nameTooLong
      else
        match entries.lookup name with
        | some child => walk (tree :: above) child rest
        | none => .error .notFound

/-- Follow a path from the root, or from the working directory if the path does not start with a
slash. -/
def follow (root : FileTree) (working : List String) (path : String) : Except IoError FileTree :=
  let names := Text.parts '/' path
  walk [] root (if path.toList.head? = some '/' then names else working ++ names)

/-- The longest path that is followed at all, in bytes. -/
def longestPath : Nat := 4095

/-- What paths lead to in a file system with the given root and working directory. -/
def find (root : FileTree) (working : List String) : Disk := fun path =>
  if '\x00' ∈ path.toList then .error .nulInPath
  else if path.isEmpty then .error .notFound
  else if path.utf8ByteSize > longestPath then .error .nameTooLong
  else (follow root working path).map kind

def entries : FileTree → List (String × FileTree)
  | file _ => []
  | directory entries => entries

/-- The tree with a leaf at the end of a path, directories made on the way. Making a directory that
is there already changes nothing. -/
def put (tree : FileTree) (names : List String) (leaf : FileTree) : FileTree :=
  match names with
  | [] =>
    match leaf, tree with
    | directory [], directory entries => directory entries
    | _, _ => leaf
  | name :: rest =>
    let child := (tree.entries.lookup name).getD empty
    directory ((name, put child rest leaf) :: tree.entries.filter (·.1 ≠ name))

def components (path : String) : List String :=
  (Text.parts '/' path).filter fun name => name ≠ "" ∧ name ≠ "."

end FileTree

end LayeredSettings
