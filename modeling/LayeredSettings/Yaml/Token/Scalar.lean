import LayeredSettings.Yaml.Cursor
import LayeredSettings.Yaml.Token

/-! Reading scalars: plain ones, quoted ones, and blocks that keep or fold their lines. -/
namespace LayeredSettings.Yaml

/-- The next word of a plain scalar: up to a blank, a colon that ends a key, or a sign of the
surrounding flow collection. In a flow collection a colon right before another sign is malformed. -/
def plainWord (inFlow : Bool) : List Char → Option (List Char)
  | [] => some []
  | c :: rest =>
    if isBlank c || isBreak c then some []
    else if inFlow && c == ':' && rest.head?.any (",?[]\x7b\x7d".toList.contains ·) then none
    else if c == ':' && endsWord rest then some []
    else if inFlow && ",[]\x7b\x7d".toList.contains c then some []
    else (plainWord inFlow rest).map (c :: ·)

/-- A plain scalar that has been read: its text, whether line ends follow it, and the place behind
them. -/
structure PlainScalar where
  text : List Char
  endsAfterBreak : Bool
  cursor : Cursor

/-- Read words of a plain scalar whose later lines reach column `indent` at least. -/
def readPlainWords (inFlow : Bool) (indent : Nat) :
    Nat → List Char → Gap → Cursor → Option PlainScalar
  | 0, text, gap, c => some ⟨text, !gap.breaks.isEmpty, c⟩
  | fuel + 1, text, gap, c =>
    if c.atDocumentMark || c.rest.head? == some '#' then some ⟨text, !gap.breaks.isEmpty, c⟩
    else
      match plainWord inFlow c.rest with
      | none => none
      | some word =>
        let c := c.advance word.length
        let (text, gap) := if word.isEmpty then (text, gap) else (text ++ gap.text ++ word, {})
        if c.rest.isEmpty || !endsWord c.rest then some ⟨text, !gap.breaks.isEmpty, c⟩
        else
          match readGap indent (c.rest.length + 1) gap c with
          | none => none
          | some (gap, c) =>
            if !inFlow && c.column < indent then some ⟨text, !gap.breaks.isEmpty, c⟩
            else readPlainWords inFlow indent fuel text gap c

def readPlain (inFlow : Bool) (indent : Nat) (c : Cursor) : Option PlainScalar :=
  readPlainWords inFlow indent (c.rest.length + 1) [] {} c

def hexNumber? (ds : List Char) : Option Nat :=
  ds.foldl (fun n d => do
    let n ← n
    if d.isDigit then some (n * 16 + (d.toNat - 48))
    else if 'a' ≤ d ∧ d ≤ 'f' then some (n * 16 + (d.toNat - 87))
    else if 'A' ≤ d ∧ d ≤ 'F' then some (n * 16 + (d.toNat - 55))
    else none) (some 0)

def letterEscape? : Char → Option Char
  | '0' => some '\x00'
  | 'a' => some '\x07'
  | 'b' => some '\x08'
  | 't' => some '\t'
  | '\t' => some '\t'
  | 'n' => some '\n'
  | 'v' => some '\x0b'
  | 'f' => some '\x0c'
  | 'r' => some '\r'
  | 'e' => some '\x1b'
  | ' ' => some ' '
  | '"' => some '"'
  | '/' => some '/'
  | '\\' => some '\\'
  | 'N' => some '\u0085'
  | '_' => some '\u00a0'
  | 'L' => some '\u2028'
  | 'P' => some '\u2029'
  | _ => none

def codeEscapeLength? : Char → Option Nat
  | 'x' => some 2
  | 'u' => some 4
  | 'U' => some 8
  | _ => none

inductive QuotedPiece where
  /-- A character, spelled with so many characters. -/
  | char (c : Char) (length : Nat)
  /-- A backslash before a line end: the line goes on with no space between. -/
  | joinedLine
  /-- A blank, a line end, the closing quote, or the end of the text. -/
  | stop

def quotedPiece (single : Bool) : List Char → Option QuotedPiece
  | [] => some .stop
  | c :: rest =>
    if isBlank c || isBreak c then some .stop
    else if single then
      match c, rest with
      | '\'', '\'' :: _ => some (.char '\'' 2)
      | '\'', _ => some .stop
      | _, _ => some (.char c 1)
    else if c == '"' then some .stop
    else if c != '\\' then some (.char c 1)
    else
      match rest with
      | [] => none
      | e :: more =>
        if isBreak e then some .joinedLine
        else
          match letterEscape? e, codeEscapeLength? e with
          | some d, _ => some (.char d 2)
          | none, some n => do
            let ds := more.take n
            let code ← hexNumber? ds
            if ds.length = n ∧ code ≤ 0x10FFFF ∧ ¬ (0xD800 ≤ code ∧ code ≤ 0xDFFF) then
              some (.char (Char.ofNat code) (2 + n))
            else none
          | none, none => none

/-- Read a word of a quoted scalar; the answer tells whether it ended by joining the next line. -/
def readQuotedWord (single : Bool) :
    Nat → List Char → Cursor → Option (List Char × Bool × Cursor)
  | 0, text, c => some (text, false, c)
  | fuel + 1, text, c =>
    match quotedPiece single c.rest with
    | none => none
    | some .stop => some (text, false, c)
    | some .joinedLine => some (text, true, (c.advance 1).passBreak.2)
    | some (.char d n) => readQuotedWord single fuel (text ++ [d]) (c.advance n)

def readQuotedWords (single : Bool) : Nat → List Char → Cursor → Option (List Char × Cursor)
  | 0, _, _ => none
  | fuel + 1, text, c =>
    if c.atDocumentMark || c.rest.isEmpty then none
    else do
      let (text, joined, c) ← readQuotedWord single (c.rest.length + 1) text c
      if c.rest.head? = some (if single then '\'' else '"') then some (text, c.advance 1)
      else
        let start : Gap := if joined then { breaks := [[]] } else {}
        let (gap, c) ← readGap 0 (c.rest.length + 1) start c
        readQuotedWords single fuel (text ++ gap.text) c

def readQuoted (single : Bool) (c : Cursor) : Option (List Char × Cursor) :=
  readQuotedWords single (c.rest.length + 1) [] (c.advance 1)

/-- What happens to the line ends at the end of a block: all go, one stays, or all stay. -/
inductive Chomping where
  | strip
  | clip
  | keep
  deriving DecidableEq

/-- The signs after the bar or angle bracket: chomping and an indentation, in either order. -/
def blockHeader (cs : List Char) : Option (Chomping × Nat × List Char) :=
  let sign? : Char → Option Chomping := fun
    | '+' => some .keep
    | '-' => some .strip
    | _ => none
  let digit? (c : Char) : Option Nat := if c.isDigit then some (c.toNat - 48) else none
  match cs with
  | [] => some (.clip, 0, [])
  | a :: rest =>
    match sign? a, digit? a with
    | some chomping, _ =>
      match rest with
      | b :: more =>
        match digit? b with
        | some 0 => none
        | some n => some (chomping, n, more)
        | none => some (chomping, 0, rest)
      | [] => some (chomping, 0, rest)
    | none, some 0 => none
    | none, some n =>
      match rest with
      | b :: more =>
        match sign? b with
        | some chomping => some (chomping, n, more)
        | none => some (.clip, n, rest)
      | [] => some (.clip, n, rest)
    | none, none => some (.clip, 0, cs)

/-- Pass indentation and empty lines of a block. An indentation of zero is not known yet: then all
spaces count, and the answer tells the deepest column seen. -/
def readBlockBreaks (indent : Nat) :
    Nat → List (List Char) → Nat → Cursor → Option (List (List Char) × Nat × Cursor)
  | 0, breaks, deepest, c => some (breaks, deepest, c)
  | fuel + 1, breaks, deepest, c =>
    let spaces := (c.rest.takeWhile (· == ' ')).length
    let c := c.advance (if indent = 0 then spaces else min spaces (indent - c.column))
    let deepest := max deepest c.column
    if (indent = 0 || c.column < indent) && c.rest.head? == some '\t' then none
    else if endsLine c.rest && !c.rest.isEmpty then
      let (text, c) := c.passBreak
      readBlockBreaks indent fuel (breaks ++ [text]) deepest c
    else some (breaks, deepest, c)

/-- Read the lines of a block that is indented to column `indent`. The gap before a line is the end
of the last line and the empty lines between. -/
def readBlockLines (folded : Bool) (indent : Nat) :
    Nat → List Char → List Char → List (List Char) → Bool → Cursor →
      Option (List Char × List Char × List (List Char) × Cursor)
  | 0, text, lineEnd, empties, _, c => some (text, lineEnd, empties, c)
  | fuel + 1, text, lineEnd, empties, wasBlank, c =>
    if c.column ≠ indent || c.rest.isEmpty then some (text, lineEnd, empties, c)
    else do
      let startsBlank := c.rest.head?.any isBlank
      let joint :=
        if folded && lineEnd == ['\n'] && !wasBlank && !startsBlank then
          if empties.flatten.isEmpty then [' '] else empties.flatten
        else lineEnd ++ empties.flatten
      let (line, c) := c.takeWhile (!isBreak ·)
      let (lineEnd, c) := c.passBreak
      let (empties, _, c) ← readBlockBreaks indent (c.rest.length + 1) [] 0 c
      readBlockLines folded indent fuel (text ++ joint ++ line) lineEnd empties startsBlank c

/-- Read a block scalar from its bar or angle bracket on, inside a block at column `outer`. -/
def readBlock (folded : Bool) (outer : Int) (c : Cursor) : Option (List Char × Cursor) := do
  let c := c.advance 1
  let (chomping, increment, rest) ← blockHeader c.rest
  let c := (c.advance (c.rest.length - rest.length)).dropWhile isBlank
  let c := if c.rest.head? = some '#' then c.dropWhile (!isBreak ·) else c
  if !endsLine c.rest then none
  else
    let c := c.passBreak.2
    let indent :=
      if increment = 0 then 0 else if outer ≥ 0 then outer.toNat + increment else increment
    let (empties, deepest, c) ← readBlockBreaks indent (c.rest.length + 1) [] 0 c
    let indent := if indent = 0 then max (max deepest (outer + 1).toNat) 1 else indent
    let (text, lineEnd, empties, c) ←
      readBlockLines folded indent (c.rest.length + 1) [] [] empties false c
    let text := if chomping = .strip then text else text ++ lineEnd
    some (if chomping = .keep then text ++ empties.flatten else text, c)

end LayeredSettings.Yaml
