import LayeredSettings.Yaml.Token.Scalar

/-! A YAML text as its tokens. Whether a word is a key shows only at the colon after it, so the
place of a word that may be one is kept, and the tokens that announce the key are put in front of it
later. -/
namespace LayeredSettings.Yaml

/-- A word that may turn out to be a key: where it starts, and before which token the key would be
announced. It has to be one if the block's indentation asks for a key there. -/
structure PendingKey where
  required : Bool
  token : Nat
  index : Nat
  line : Nat
  column : Nat

/-- The text that is left, the tokens so far, and the collections that are open. -/
structure Scanner where
  cursor : Cursor
  tokens : Array Token := #[]
  /-- The column of the innermost open block, or minus one. -/
  indent : Int := -1
  indents : List Int := []
  flowDepth : Nat := 0
  keyAllowed : Bool := true
  /-- A pending key for the block and for each open flow collection, the innermost first. -/
  keys : List (Option PendingKey) := [none]

namespace Scanner

def push (s : Scanner) (t : Token) : Scanner := { s with tokens := s.tokens.push t }

def insertAt (s : Scanner) (position : Nat) (t : Token) : Scanner :=
  { s with tokens :=
      (s.tokens.extract 0 position).push t ++ s.tokens.extract position s.tokens.size }

def inFlow (s : Scanner) : Bool := s.flowDepth > 0

/-- Pass blanks, comments and line ends. At the start of a line of a block a tab is no blank. -/
def passSpace : Nat → Scanner → Scanner
  | 0, s => s
  | fuel + 1, s =>
    let tabs := s.inFlow || !s.keyAllowed
    let c := s.cursor.dropWhile fun b => b == ' ' || (tabs && b == '\t')
    let c := if c.rest.head? = some '#' then c.dropWhile (!isBreak ·) else c
    if c.rest.head?.any isBreak then
      passSpace fuel { s with cursor := c.passBreak.2, keyAllowed := s.keyAllowed || !s.inFlow }
    else { s with cursor := c }

/-- Give up pending keys that can be none any more: a key stands on one line and has at most 1024
characters. -/
def dropStaleKeys (s : Scanner) : Option Scanner := do
  let isStale (k : PendingKey) : Bool :=
    k.line < s.cursor.line || k.index + 1024 < s.cursor.index
  if s.keys.any fun k => k.any fun k => isStale k && k.required then none
  else some { s with keys := s.keys.map fun k => k.filter (!isStale ·) }

/-- Close blocks that reach further right than a column. -/
def closeBlocks (column : Int) : Nat → Scanner → Scanner
  | 0, s => s
  | fuel + 1, s =>
    if !s.inFlow && s.indent > column then
      closeBlocks column fuel { s.push .blockEnd with
        indent := s.indents.headD (-1), indents := s.indents.tail }
    else s

def unroll (s : Scanner) (column : Int) : Scanner := closeBlocks column (s.indents.length + 1) s

/-- Open a block at a column, unless one is open there. -/
def openBlock (s : Scanner) (column : Nat) (position : Option Nat) (t : Token) : Scanner :=
  if !s.inFlow && s.indent < column then
    let s := { s with indent := column, indents := s.indent :: s.indents }
    match position with
    | some p => s.insertAt p t
    | none => s.push t
  else s

def dropKey (s : Scanner) : Option Scanner :=
  match s.keys with
  | some k :: rest => if k.required then none else some { s with keys := none :: rest }
  | _ => some s

def notePossibleKey (s : Scanner) : Option Scanner :=
  if s.keyAllowed then do
    let key : PendingKey := {
      required := !s.inFlow && s.indent == s.cursor.column
      token := s.tokens.size
      index := s.cursor.index
      line := s.cursor.line
      column := s.cursor.column }
    let s ← s.dropKey
    return { s with keys := some key :: s.keys.tail }
  else some s

def sign (s : Scanner) (length : Nat) (t : Token) (keyAllowed : Bool) : Scanner :=
  { s.push t with cursor := s.cursor.advance length, keyAllowed }

def readName (c : Cursor) : Option (String × Cursor) :=
  let (name, c) := c.takeWhile isNameChar
  if name.isEmpty then none else some (String.ofList name, c)

/-- The handle of a tag: an exclamation mark, or a name between two. On a `%TAG` line a name has to
be closed. -/
def readTagHandle (closed : Bool) (c : Cursor) : Option (List Char × Cursor) :=
  match c.rest with
  | '!' :: _ =>
    let (name, c) := (c.advance 1).takeWhile isNameChar
    if c.rest.head? = some '!' then some ('!' :: name ++ ['!'], c.advance 1)
    else if closed && !name.isEmpty then none
    else some ('!' :: name, c)
  | _ => none

def isUriChar (brackets : Bool) (c : Char) : Bool :=
  isNameChar c || ";/?:@&=+$.!~*'()".toList.contains c || (brackets && ",[]".toList.contains c)

def octet? : List Char → Option (Nat × List Char)
  | '%' :: a :: b :: rest => (hexNumber? [a, b]).map fun n => (n, rest)
  | _ => none

def readOctets : Nat → Nat → List Char → Option (Nat × List Char)
  | 0, code, cs => some (code, cs)
  | n + 1, code, cs => do
    let (octet, cs) ← octet? cs
    if octet / 64 = 2 then readOctets n (code * 64 + octet % 64) cs else none

def escapedUriChar? (cs : List Char) : Option (Char × List Char) := do
  let (octet, rest) ← octet? cs
  let (code, rest) ←
    if octet < 0x80 then some (octet, rest)
    else if octet / 32 = 6 then readOctets 1 (octet % 32) rest
    else if octet / 16 = 14 then readOctets 2 (octet % 16) rest
    else if octet / 8 = 30 then readOctets 3 (octet % 8) rest
    else none
  return (Char.ofNat code, rest)

def readUri (brackets : Bool) : Nat → List Char → Cursor → Option (List Char × Cursor)
  | 0, text, c => some (text, c)
  | fuel + 1, text, c =>
    match c.rest with
    | '%' :: _ => do
      let (d, rest) ← escapedUriChar? c.rest
      readUri brackets fuel (text ++ [d]) (c.advance (c.rest.length - rest.length))
    | d :: _ =>
      if isUriChar brackets d then readUri brackets fuel (text ++ [d]) (c.advance 1)
      else some (text, c)
    | [] => some (text, c)

/-- A tag, from its exclamation mark on: in angle brackets, with a named handle, or local. -/
def readTag (inFlow : Bool) (c : Cursor) : Option (Token × Cursor) := do
  let (handle, suffix, c) ← match c.rest with
    | '!' :: '<' :: _ => do
      let c := c.advance 2
      let (uri, c) ← readUri true (c.rest.length + 1) [] c
      if uri.isEmpty || c.rest.head? ≠ some '>' then none
      else some ([], uri, c.advance 1)
    | _ => do
      let (handle, c) ← readTagHandle false c
      if handle.length > 1 && handle.getLast? == some '!' then
        let (uri, c) ← readUri false (c.rest.length + 1) [] c
        if uri.isEmpty then none else some (handle, uri, c)
      else
        let (uri, c) ← readUri false (c.rest.length + 1) handle.tail c
        if uri.isEmpty then some ([], ['!'], c) else some (['!'], uri, c)
  if endsWord c.rest || (inFlow && c.rest.head? == some ',') then
    some (.tag (String.ofList handle) (String.ofList suffix), c)
  else none

def readVersionNumber (c : Cursor) : Option (Nat × Cursor) :=
  let (ds, c) := c.takeWhile Char.isDigit
  if ds.isEmpty || ds.length > 9 then none
  else some (ds.foldl (fun n d => n * 10 + (d.toNat - 48)) 0, c)

def readDirective (c : Cursor) : Option (Token × Cursor) := do
  let (name, c) ← readName (c.advance 1)
  if !endsWord c.rest then none
  else
    let (token, c) ← match name with
      | "YAML" => do
        let (major, c) ← readVersionNumber (c.dropWhile isBlank)
        if c.rest.head? ≠ some '.' then none
        else
          let (minor, c) ← readVersionNumber (c.advance 1)
          some (Token.version major minor, c)
      | "TAG" => do
        let (handle, c) ← readTagHandle true (c.dropWhile isBlank)
        if !c.rest.head?.any isBlank then none
        else
          let c := c.dropWhile isBlank
          let (expansion, c) ← readUri true (c.rest.length + 1) [] c
          if expansion.isEmpty || !endsWord c.rest then none
          else some (.tagHandle (String.ofList handle) (String.ofList expansion), c)
      | _ => none
    let c := c.dropWhile isBlank
    let c := if c.rest.head? = some '#' then c.dropWhile (!isBreak ·) else c
    if endsLine c.rest then some (token, c.passBreak.2) else none

/-- An anchor or alias: a name after its sign, with nothing stuck to it. -/
def readAnchor (c : Cursor) : Option (String × Cursor) := do
  let (name, c) ← readName (c.advance 1)
  if endsWord c.rest || c.rest.head?.any ("?:,]\x7d%@`".toList.contains ·) then some (name, c)
  else none

/-- The colon after a key, which may have been passed already as a pending one. -/
def readColon (s : Scanner) : Option Scanner :=
  match s.keys with
  | some k :: rest =>
    let s := (s.insertAt k.token .key).openBlock k.column (some k.token) .blockMappingStart
    some ({ s with keys := none :: rest }.sign 1 .value false)
  | _ =>
    if !s.inFlow && !s.keyAllowed then none
    else some ((s.openBlock s.cursor.column none .blockMappingStart).sign 1 .value (!s.inFlow))

def startsPlain (inFlow : Bool) : List Char → Bool
  | [] => false
  | c :: rest =>
    let alone := endsWord rest
    if isBlank c || isBreak c then false
    else if c == '-' then !(rest.head?.any isBlank)
    else if c == '?' || c == ':' then !inFlow && !alone
    else !(",[]\x7b\x7d#&*!|>'\"%@`".toList.contains c)

/-- A scalar, anchor, alias or tag: a word that may be, or start, a key. -/
def readWord (s : Scanner) (c : Char) : Option Scanner := do
  let s ← s.notePossibleKey
  let s := { s with keyAllowed := false }
  match c with
  | '*' =>
    let (name, after) ← readAnchor s.cursor
    return { s.push (.alias name) with cursor := after }
  | '&' =>
    let (name, after) ← readAnchor s.cursor
    return { s.push (.anchor name) with cursor := after }
  | '!' =>
    let (token, after) ← readTag s.inFlow s.cursor
    return { s.push token with cursor := after }
  | '\'' =>
    let (text, after) ← readQuoted true s.cursor
    return { s.push (.scalar (String.ofList text) false) with cursor := after }
  | '"' =>
    let (text, after) ← readQuoted false s.cursor
    return { s.push (.scalar (String.ofList text) false) with cursor := after }
  | _ =>
    let scalar ← readPlain s.inFlow (s.indent + 1).toNat s.cursor
    return { s.push (.scalar (String.ofList scalar.text) true) with
      cursor := scalar.cursor, keyAllowed := scalar.endsAfterBreak }

def leaveBlocks (s : Scanner) : Option Scanner := do
  let s ← (s.unroll (-1)).dropKey
  return { s with keyAllowed := false }

/-- Read the token that starts at the cursor, which is not at the end of the text. -/
def readToken (s : Scanner) (c : Char) : Option Scanner :=
  let after := s.cursor.rest.tail
  if s.cursor.column = 0 && c == '%' then do
    let s ← s.leaveBlocks
    let (token, cursor) ← readDirective s.cursor
    return { s.push token with cursor }
  else if s.cursor.atDocumentMark then do
    let s ← s.leaveBlocks
    return s.sign 3 (if c == '-' then .documentStart else .documentEnd) false
  else if c == '[' || c == '{' then do
    let s ← s.notePossibleKey
    let s := { s with keys := none :: s.keys, flowDepth := s.flowDepth + 1 }
    return s.sign 1 (if c == '[' then .flowSequenceStart else .flowMappingStart) true
  else if c == ']' || c == '}' then do
    let s ← s.dropKey
    let s := if s.inFlow then { s with keys := s.keys.tail, flowDepth := s.flowDepth - 1 } else s
    return s.sign 1 (if c == ']' then .flowSequenceEnd else .flowMappingEnd) false
  else if c == ',' then do
    let s ← s.dropKey
    return s.sign 1 .flowEntry true
  else if c == '-' && endsWord after then
    if !s.inFlow && !s.keyAllowed then none
    else do
      let s ← (s.openBlock s.cursor.column none .blockSequenceStart).dropKey
      return s.sign 1 .blockEntry true
  else if c == '?' && (s.inFlow || endsWord after) then
    if !s.inFlow && !s.keyAllowed then none
    else do
      let s ← (s.openBlock s.cursor.column none .blockMappingStart).dropKey
      return s.sign 1 .key (!s.inFlow)
  else if c == ':' && (s.inFlow || endsWord after) then s.readColon
  else if "*&!'\"".toList.contains c then s.readWord c
  else if (c == '|' || c == '>') && !s.inFlow then do
    let s ← s.dropKey
    let (text, cursor) ← readBlock (c == '>') s.indent s.cursor
    return { s.push (.scalar (String.ofList text) false) with cursor, keyAllowed := true }
  else if startsPlain s.inFlow s.cursor.rest then s.readWord c
  else none

def readTokens : Nat → Scanner → Option (Array Token)
  | 0, _ => none
  | fuel + 1, s => do
    let s ← (s.passSpace (s.cursor.rest.length + 1)).dropStaleKeys
    let s := s.unroll s.cursor.column
    match s.cursor.rest with
    | [] =>
      let s ← (s.unroll (-1)).dropKey
      return s.tokens
    | c :: _ => readTokens fuel (← s.readToken c)

end Scanner

def isAllowed (c : Char) : Bool :=
  let n := c.toNat
  n == 0x9 || n == 0xA || n == 0xD || (0x20 ≤ n && n ≤ 0x7E) || n == 0x85 ||
    (0xA0 ≤ n && n ≤ 0xFFFD && n != 0xFEFF) || 0x10000 ≤ n

/-- The tokens of a text, which may start with a byte order mark. -/
def tokens? (text : List Char) : Option (List Token) :=
  let body := match text with
    | '\uFEFF' :: rest => rest
    | _ => text
  if body.all isAllowed then
    (Scanner.readTokens (body.length + 2) { cursor := { rest := body } }).map Array.toList
  else none

end LayeredSettings.Yaml
