/-! The lines of a properties text. A natural line ends at a line feed, a carriage return, or the
two together. A logical line is an entry: it goes on to the next natural line as long as it ends in
an odd number of backslashes; blank lines and comments are dropped. -/
namespace LayeredSettings.Properties

/-- Space, tab and form feed separate words; line ends do not count. -/
def isBlank (c : Char) : Bool := c == ' ' || c == '\t' || c == '\x0c'

def dropBlanks (cs : List Char) : List Char := cs.dropWhile isBlank

def dropFinalReturn (line : List Char) : List Char :=
  if line.getLast? = some '\r' then line.dropLast else line

/-- The natural lines of a text, without their ends. -/
def naturalLines (text : List Char) : List (List Char) :=
  (text.splitOn '\n').flatMap fun line => (dropFinalReturn line).splitOn '\r'

def trailingBackslashes (cs : List Char) : Nat := (cs.reverse.takeWhile (· == '\\')).length

/-- Whether a line goes on: its last backslash is not itself escaped. -/
def continues (cs : List Char) : Bool := trailingBackslashes cs % 2 == 1

/-- Nothing but blanks, or a comment. -/
def isIgnored (body : List Char) : Bool :=
  match body with
  | [] => true
  | c :: _ => c == '#' || c == '!'

/-- An entry's text, and the number of the natural line that it starts on, counted from one. -/
structure LogicalLine where
  text : List Char
  number : Nat
  deriving DecidableEq, Repr

/-- Take in natural line `n`: it goes on with the pending entry, or starts one unless it is to be
ignored. -/
def takeLine (pending : Option LogicalLine) (n : Nat) (raw : List Char) : Option LogicalLine :=
  match pending with
  | some entry => some { entry with text := entry.text ++ dropBlanks raw }
  | none => if isIgnored (dropBlanks raw) then none else some ⟨dropBlanks raw, n⟩

/-- Collect entries from the natural lines numbered from `n`. A pending entry has lost its last
backslash already. -/
def collect (pending : Option LogicalLine) (n : Nat) : List (List Char) → List LogicalLine
  | [] => pending.toList
  | raw :: rest =>
    match takeLine pending n raw with
    | none => collect none (n + 1) rest
    | some entry =>
      if continues entry.text then
        collect (some { entry with text := entry.text.dropLast }) (n + 1) rest
      else entry :: collect none (n + 1) rest

def logicalLines (text : List Char) : List LogicalLine := collect none 1 (naturalLines text)

example : logicalLines "# c\na=1,\\\r\n  2\n".toList = [⟨"a=1,2".toList, 2⟩] := by decide +kernel

end LayeredSettings.Properties
