import LayeredSettings.Decimal.Text
import LayeredSettings.Dictionary

/-! The values of a configuration file or a parameter map: null, booleans, numbers, strings, lists
and objects. -/
namespace LayeredSettings

inductive Number where
  | integer (n : Int)
  | double (x : Double)
  deriving DecidableEq, Repr

namespace Number

/-- Whole numbers in decimal, doubles with at least one digit after the point. -/
def text : Number → String
  | integer n => toString n
  | double x => x.text

end Number

/-- A value. The members of an object that was read stand in the order of their keys, each key
once (`Json.Ordered`). -/
inductive Json where
  | null
  | bool (b : Bool)
  | number (n : Number)
  | string (s : String)
  | array (items : List Json)
  | object (members : List (String × Json))
  deriving Repr, Inhabited

namespace Json

mutual

/-- In every object of the value the keys strictly increase. -/
def Ordered : Json → Prop
  | .array items => OrderedItems items
  | .object members => KeysIncrease members ∧ OrderedMembers members
  | _ => True

def OrderedItems : List Json → Prop
  | [] => True
  | item :: rest => item.Ordered ∧ OrderedItems rest

def OrderedMembers : List (String × Json) → Prop
  | [] => True
  | (_, value) :: rest => value.Ordered ∧ OrderedMembers rest

end

/-- An object with the given members, in key order; of two members with one key the last stays. -/
def ofMembers (members : List (String × Json)) : Json := .object (Dictionary.ofList members).entries

end Json

end LayeredSettings
