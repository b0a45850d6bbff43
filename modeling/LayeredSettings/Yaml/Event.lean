import LayeredSettings.Yaml.Token

/-! The nodes of a YAML document in reading order: scalars, the starts and ends of collections, and
references to earlier nodes. -/
namespace LayeredSettings.Yaml

inductive Event where
  /-- A reference to the node of an anchor. -/
  | alias (id : Nat)
  | scalar (tag : Option String) (text : String) (plain : Bool)
  | sequenceStart (tag : Option String)
  | sequenceEnd
  | mappingStart (tag : Option String)
  | mappingEnd
  deriving DecidableEq, Repr

/-- A document: its events, and at which event the node of each anchor starts. A document without
content has no events. -/
structure Document where
  events : List Event := []
  anchors : List (Nat × Nat) := []

structure Parser where
  tokens : List Token
  handles : List (String × String) := [("!", "!"), ("!!", "tag:yaml.org,2002:")]
  /-- The anchor that each name stands for at this place. -/
  names : List (String × Nat) := []
  anchors : List (Nat × Nat) := []
  events : Array Event := #[]

namespace Parser

def push (p : Parser) (e : Event) : Parser := { p with events := p.events.push e }

def pass (p : Parser) : Parser := { p with tokens := p.tokens.tail }

def pushEmpty (p : Parser) : Parser := p.push (.scalar none "" true)

/-- Name the node that comes next. Anchors are numbered by how many names there are before, so a
name that is given again may share its number with a later name. -/
def nameNext (p : Parser) (name : String) : Parser :=
  let id := p.names.length
  { p with
    names := (name, id) :: p.names.filter (·.1 ≠ name)
    anchors := (id, p.events.size) :: p.anchors }

structure Properties where
  anchor : Option String := none
  tag : Option (String × String) := none

def readProperties (p : Parser) : Properties × Parser :=
  match p.tokens with
  | .anchor name :: .tag h s :: rest => (⟨some name, some (h, s)⟩, { p with tokens := rest })
  | .tag h s :: .anchor name :: rest => (⟨some name, some (h, s)⟩, { p with tokens := rest })
  | .anchor name :: rest => (⟨some name, none⟩, { p with tokens := rest })
  | .tag h s :: rest => (⟨none, some (h, s)⟩, { p with tokens := rest })
  | _ => ({}, p)

/-- The full name of a tag; a handle has to be known. -/
def resolveTag (p : Parser) : Option (String × String) → Option (Option String)
  | none => some none
  | some (handle, suffix) =>
    if handle.isEmpty then some (some suffix)
    else (p.handles.lookup handle).map fun expansion => some (expansion ++ suffix)

def lacksContent (signs : List Token) (p : Parser) : Bool :=
  match p.tokens with
  | [] => false
  | t :: _ => signs.contains t

mutual

/-- Read a node. Collections of a block are read where a block may stand; a sequence that is not
indented further than its key, where that may be. -/
def readNode : Nat → (block unindented : Bool) → Parser → Option Parser
  | 0, _, _, _ => none
  | fuel + 1, block, unindented, p =>
    match p.tokens with
    | .alias name :: rest => (p.names.lookup name).map fun id =>
        { p with tokens := rest }.push (.alias id)
    | _ => do
      let (props, p) := p.readProperties
      let tag ← p.resolveTag props.tag
      let p := match props.anchor with
        | some name => p.nameNext name
        | none => p
      match p.tokens with
      | .scalar text plain :: rest =>
        let tag := if tag = some "!" then none else tag
        some ({ p with tokens := rest }.push (.scalar tag text plain))
      | .flowSequenceStart :: rest =>
        readFlowSequence fuel true ({ p with tokens := rest }.push (.sequenceStart tag))
      | .flowMappingStart :: rest =>
        readFlowMapping fuel true ({ p with tokens := rest }.push (.mappingStart tag))
      | t :: rest =>
        if t = .blockEntry ∧ unindented then
          readUnindented fuel (p.push (.sequenceStart tag))
        else if t = .blockSequenceStart ∧ block then
          readBlockSequence fuel ({ p with tokens := rest }.push (.sequenceStart tag))
        else if t = .blockMappingStart ∧ block then
          readBlockMapping fuel ({ p with tokens := rest }.push (.mappingStart tag))
        else if props.anchor.isSome ∨ props.tag.isSome then some (p.push (.scalar tag "" true))
        else none
      | [] =>
        if props.anchor.isSome ∨ props.tag.isSome then some (p.push (.scalar tag "" true))
        else none

def readBlockSequence : Nat → Parser → Option Parser
  | 0, _ => none
  | fuel + 1, p =>
    match p.tokens with
    | .blockEntry :: rest => do
      let p := { p with tokens := rest }
      let p ← if p.lacksContent [.blockEntry, .blockEnd] then some p.pushEmpty
        else readNode fuel true false p
      readBlockSequence fuel p
    | .blockEnd :: rest => some ({ p with tokens := rest }.push .sequenceEnd)
    | _ => none

/-- Entries of a sequence that has no indentation of its own: it ends where no entry follows. -/
def readUnindented : Nat → Parser → Option Parser
  | 0, _ => none
  | fuel + 1, p =>
    match p.tokens with
    | .blockEntry :: rest => do
      let p := { p with tokens := rest }
      let p ← if p.lacksContent [.blockEntry, .key, .value, .blockEnd] then some p.pushEmpty
        else readNode fuel true false p
      readUnindented fuel p
    | _ => some (p.push .sequenceEnd)

def readBlockMapping : Nat → Parser → Option Parser
  | 0, _ => none
  | fuel + 1, p =>
    match p.tokens with
    | .key :: rest => do
      let p := { p with tokens := rest }
      let p ← if p.lacksContent [.key, .value, .blockEnd] then some p.pushEmpty
        else readNode fuel true true p
      match p.tokens with
      | .value :: rest => do
        let p := { p with tokens := rest }
        let p ← if p.lacksContent [.key, .value, .blockEnd] then some p.pushEmpty
          else readNode fuel true true p
        readBlockMapping fuel p
      | _ => readBlockMapping fuel p.pushEmpty
    | .blockEnd :: rest => some ({ p with tokens := rest }.push .mappingEnd)
    | _ => none

/-- Entries of a flow sequence, up to its end. An entry may be a single pair. -/
def readFlowSequence : Nat → (first : Bool) → Parser → Option Parser
  | 0, _, _ => none
  | fuel + 1, first, p =>
    match p.tokens with
    | .flowSequenceEnd :: rest => some ({ p with tokens := rest }.push .sequenceEnd)
    | _ => do
      let p ← if first then some p
        else if p.tokens.head? = some .flowEntry then some p.pass else none
      match p.tokens with
      | .flowSequenceEnd :: rest => some ({ p with tokens := rest }.push .sequenceEnd)
      | .key :: rest => do
        let p := { p with tokens := rest }.push (.mappingStart none)
        let p ← if p.lacksContent [.value, .flowEntry, .flowSequenceEnd] then some p.pass.pushEmpty
          else readNode fuel false false p
        let p ← match p.tokens with
          | .value :: rest =>
            let p := { p with tokens := rest }
            if p.lacksContent [.flowEntry, .flowSequenceEnd] then some p.pushEmpty
            else readNode fuel false false p
          | _ => some p.pushEmpty
        readFlowSequence fuel false (p.push .mappingEnd)
      | _ => do
        let p ← readNode fuel false false p
        readFlowSequence fuel false p

/-- Pairs of a flow mapping, up to its end. A key may lack a value. -/
def readFlowMapping : Nat → (first : Bool) → Parser → Option Parser
  | 0, _, _ => none
  | fuel + 1, first, p =>
    match p.tokens with
    | .flowMappingEnd :: rest => some ({ p with tokens := rest }.push .mappingEnd)
    | _ => do
      let p ← if first then some p
        else if p.tokens.head? = some .flowEntry then some p.pass else none
      match p.tokens with
      | .flowMappingEnd :: rest => some ({ p with tokens := rest }.push .mappingEnd)
      | .key :: rest => do
        let p := { p with tokens := rest }
        let p ← if p.lacksContent [.value, .flowEntry, .flowMappingEnd] then some p.pushEmpty
          else readNode fuel false false p
        match p.tokens with
        | .value :: rest => do
          let p := { p with tokens := rest }
          let p ← if p.lacksContent [.flowEntry, .flowMappingEnd] then some p.pushEmpty
            else readNode fuel false false p
          readFlowMapping fuel false p
        | _ => readFlowMapping fuel false p.pushEmpty
      | _ => do
        let p ← readNode fuel false false p
        readFlowMapping fuel false p.pushEmpty

end

/-- The lines before a document that starts with three dashes. -/
def readDirectives (versionSeen : Bool) (handles : List (String × String)) :
    List Token → Option (List (String × String) × List Token)
  | .version major minor :: rest =>
    if versionSeen || major != 1 || (minor != 1 && minor != 2) then none
    else readDirectives true handles rest
  | .tagHandle handle expansion :: rest =>
    if (handles.lookup handle).isSome then none
    else readDirectives versionSeen ((handle, expansion) :: handles) rest
  | rest => some (handles, rest)

def readContent (fuel : Nat) (p : Parser) : Option Parser :=
  match p.tokens with
  | [] | .version .. :: _ | .tagHandle .. :: _ | .documentStart :: _ | .documentEnd :: _ =>
    some p.pushEmpty
  | _ => readNode fuel true false p

end Parser

/-- The document that tokens spell. There may be no more than one. -/
def Document.ofTokens? (tokens : List Token) : Option Document := do
  let fuel := 4 * tokens.length + 8
  let p : Parser := { tokens }
  let p ← match tokens with
    | [] => some p
    | .version .. :: _ | .tagHandle .. :: _ | .documentStart :: _ => do
      let (handles, rest) ← Parser.readDirectives false [] tokens
      match rest with
      | .documentStart :: rest =>
        Parser.readContent fuel { p with tokens := rest, handles := handles ++ p.handles }
      | _ => none
    | _ => Parser.readNode fuel true false p
  if p.tokens.all (· == .documentEnd) then
    some { events := p.events.toList, anchors := p.anchors }
  else none

end LayeredSettings.Yaml
