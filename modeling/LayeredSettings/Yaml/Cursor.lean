/-! A place in a YAML text, and the folding of lines into spaces. A malformed text has no reading,
so readers answer `none` for it. -/
namespace LayeredSettings.Yaml

def isBreak (c : Char) : Bool :=
  c == '\n' || c == '\r' || c == '\u0085' || c == '\u2028' || c == '\u2029'

def isBlank (c : Char) : Bool := c == ' ' || c == '\t'

/-- Letters, digits, hyphen and underscore, ASCII only. -/
def isNameChar (c : Char) : Bool := c.isAlphanum || c == '-' || c == '_'

def endsWord : List Char → Bool
  | [] => true
  | c :: _ => isBlank c || isBreak c

def endsLine : List Char → Bool
  | [] => true
  | c :: _ => isBreak c

/-- The unread text and where it starts: characters, lines and columns from zero. -/
structure Cursor where
  rest : List Char
  index : Nat := 0
  line : Nat := 0
  column : Nat := 0

namespace Cursor

def advance (c : Cursor) (n : Nat) : Cursor :=
  { c with rest := c.rest.drop n, index := c.index + n, column := c.column + n }

/-- Pass the longest run of characters with a property that no line end has. -/
def takeWhile (c : Cursor) (p : Char → Bool) : List Char × Cursor :=
  let taken := c.rest.takeWhile p
  (taken, c.advance taken.length)

def dropWhile (c : Cursor) (p : Char → Bool) : Cursor := (c.takeWhile p).2

/-- Pass a line end, if one comes next, and tell what it stands for: a line feed, or itself for the
two separators of Unicode. -/
def passBreak (c : Cursor) : List Char × Cursor :=
  let next (text : List Char) (rest : List Char) (n : Nat) : List Char × Cursor :=
    (text, { rest, index := c.index + n, line := c.line + 1, column := 0 })
  match c.rest with
  | '\r' :: '\n' :: rest => next ['\n'] rest 2
  | b :: rest =>
    if b == '\u2028' || b == '\u2029' then next [b] rest 1
    else if isBreak b then next ['\n'] rest 1
    else ([], c)
  | [] => ([], c)

/-- Whether a line starts here with three dashes or three points that stand alone. -/
def atDocumentMark (c : Cursor) : Bool :=
  c.column == 0 &&
    match c.rest with
    | '-' :: '-' :: '-' :: rest => endsWord rest
    | '.' :: '.' :: '.' :: rest => endsWord rest
    | _ => false

end Cursor

/-- What lies between two words of a scalar: blanks within a line, or line ends. -/
structure Gap where
  blanks : List Char := []
  breaks : List (List Char) := []

namespace Gap

/-- Line ends as text: a single line feed folds to a space, further ones stay. -/
def foldBreaks (first : List Char) (others : List (List Char)) : List Char :=
  if first = ['\n'] then if others.flatten.isEmpty then [' '] else others.flatten
  else first ++ others.flatten

def text (g : Gap) : List Char :=
  match g.breaks with
  | [] => g.blanks
  | first :: others => foldBreaks first others

end Gap

/-- Pass blanks and line ends. A tab left of column `tabsFrom` on a later line is malformed. -/
def readGap (tabsFrom : Nat) : Nat → Gap → Cursor → Option (Gap × Cursor)
  | 0, g, c => some (g, c)
  | fuel + 1, g, c =>
    match c.rest with
    | [] => some (g, c)
    | b :: _ =>
      if isBlank b then
        if g.breaks.isEmpty then
          readGap tabsFrom fuel { g with blanks := g.blanks ++ [b] } (c.advance 1)
        else if b == '\t' && c.column < tabsFrom then none
        else readGap tabsFrom fuel g (c.advance 1)
      else if isBreak b then
        let (text, c) := c.passBreak
        readGap tabsFrom fuel { g with breaks := g.breaks ++ [text] } c
      else some (g, c)

end LayeredSettings.Yaml
