import LayeredSettings.Yaml.Event
import LayeredSettings.Yaml.Scalar
import LayeredSettings.Yaml.Token.Scan

/-! Reading a YAML text as a value. Keys are taken as their text, of a repeated key the last
counts, and references are followed; how deep a document nests and how often it refers is
bounded. -/
namespace LayeredSettings.Yaml

/-- How many collections may stand inside each other. -/
def deepest : Nat := 128

def Document.target? (d : Document) (id : Nat) : Option (List Event) :=
  (d.anchors.lookup id).map d.events.drop

/-- Count one more reference; there may be a hundred for each event. -/
def Document.countReference (d : Document) (count : Nat) : Option Nat :=
  if count + 1 ≤ 100 * d.events.length then some (count + 1) else none

def isOwnTag (tag : Option String) : Bool := (tag.bind (·.toList.head?)) == some '!'

/-- The text of a key, which is a scalar or refers to one. -/
def Document.readKey (d : Document) (count : Nat) : Event → Option (String × Nat)
  | .scalar _ text _ => some (text, count)
  | .alias id => do
    let count ← d.countReference count
    match ← d.target? id with
    | .scalar _ text _ :: _ => some (text, count)
    | _ => none
  | _ => none

mutual

/-- Read the node that starts at the first event; the answer holds the events after it and how many
references were followed so far. -/
def Document.readNode (d : Document) : Nat → (depth count : Nat) → List Event →
    Option (Json × List Event × Nat)
  | 0, _, _, _ => none
  | fuel + 1, depth, count, events =>
    match events with
    | .alias id :: rest => do
      let count ← d.countReference count
      let (value, _, count) ← d.readNode fuel depth count (← d.target? id)
      return (value, rest, count)
    | .scalar tag text plain :: rest => do
      return (← scalarValue? tag text plain, rest, count)
    | .sequenceStart tag :: rest =>
      if isOwnTag tag || depth = 0 then none
      else do
        let (items, rest, count) ← d.readItems fuel (depth - 1) count [] rest
        return (.array items, rest, count)
    | .mappingStart tag :: rest =>
      if isOwnTag tag || depth = 0 then none
      else do
        let (members, rest, count) ← d.readMembers fuel (depth - 1) count [] rest
        return (Json.ofMembers members, rest, count)
    | _ => none

/-- Read nodes up to the end of a sequence; `items` holds those before, backwards. -/
def Document.readItems (d : Document) : Nat → (depth count : Nat) → List Json → List Event →
    Option (List Json × List Event × Nat)
  | 0, _, _, _, _ => none
  | fuel + 1, depth, count, items, events =>
    match events with
    | .sequenceEnd :: rest => some (items.reverse, rest, count)
    | _ => do
      let (value, rest, count) ← d.readNode fuel depth count events
      d.readItems fuel depth count (value :: items) rest

/-- Read keys and nodes up to the end of a mapping; `members` holds those before, backwards. -/
def Document.readMembers (d : Document) : Nat → (depth count : Nat) →
    List (String × Json) → List Event → Option (List (String × Json) × List Event × Nat)
  | 0, _, _, _, _ => none
  | fuel + 1, depth, count, members, events =>
    match events with
    | [] => none
    | .mappingEnd :: rest => some (members.reverse, rest, count)
    | key :: rest => do
      let (key, count) ← d.readKey count key
      let (value, rest, count) ← d.readNode fuel depth count rest
      d.readMembers fuel depth count ((key, value) :: members) rest

end

/-- The value of a document; one without content stands for null. -/
def Document.value? (d : Document) : Option Json :=
  if d.events.isEmpty then some .null
  else
    let n := d.events.length
    (d.readNode ((100 * n + 2) * (n + 1)) deepest 0 d.events).map (·.1)

/-- Read a text; `none` if it is not a single well-formed document with a value. -/
def read? (text : String) : Option Json := do
  let document ← Document.ofTokens? (← tokens? text.toList)
  document.value?

end LayeredSettings.Yaml
