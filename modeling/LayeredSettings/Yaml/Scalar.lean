import LayeredSettings.Json

/-! What a scalar of a YAML document stands for. A plain scalar is null, a boolean, a number or a
text, by its spelling. -/
namespace LayeredSettings.Yaml

def nullSpellings : List String := ["null", "Null", "NULL", "~"]

def parseBool? (s : String) : Option Bool :=
  if ["true", "True", "TRUE"].contains s then some true
  else if ["false", "False", "FALSE"].contains s then some false
  else none

def digitValue? (c : Char) : Option Nat :=
  if c.isDigit then some (c.toNat - 48)
  else if 'a' ≤ c ∧ c ≤ 'z' then some (c.toNat - 87)
  else if 'A' ≤ c ∧ c ≤ 'Z' then some (c.toNat - 55)
  else none

def parseDigits? (base : Nat) (ds : List Char) : Option Nat :=
  if ds.isEmpty then none
  else ds.foldl (fun n d => do
    let n ← n
    let v ← digitValue? d
    if v < base then some (n * base + v) else none) (some 0)

/-- Digits after an optional mark for the base: `0x`, `0o` or `0b`. -/
def parseBased? : List Char → Option Nat
  | '0' :: 'x' :: ds => parseDigits? 16 ds
  | '0' :: 'o' :: ds => parseDigits? 8 ds
  | '0' :: 'b' :: ds => parseDigits? 2 ds
  | ds => parseDigits? 10 ds

/-- Decimal digits with a zero in front of others: a text, not a number. -/
def isZeroPadded (cs : List Char) : Bool :=
  let ds := match cs with
    | '-' :: ds => ds
    | '+' :: ds => ds
    | ds => ds
  match ds with
  | '0' :: d :: more => (d :: more).all Char.isDigit
  | _ => false

def parseInt? (cs : List Char) : Option Int :=
  if isZeroPadded cs then none
  else
    match cs with
    | '-' :: ds => (parseBased? ds).map fun n => -(n : Int)
    | '+' :: ds => (parseBased? ds).map fun n => (n : Int)
    | ds => (parseBased? ds).map fun n => (n : Int)

def splitSign : List Char → Bool × List Char
  | '-' :: rest => (true, rest)
  | '+' :: rest => (false, rest)
  | rest => (false, rest)

/-- A decimal number: digits around an optional point, at least one of them, and an optional
exponent; `none` also when it is too large. -/
def parseDecimal? (cs : List Char) : Option Double := do
  let (negative, cs) := splitSign cs
  let whole := cs.takeWhile Char.isDigit
  let cs := cs.drop whole.length
  let (fraction, cs) := match cs with
    | '.' :: rest =>
      let fraction := rest.takeWhile Char.isDigit
      (fraction, rest.drop fraction.length)
    | rest => ([], rest)
  let coefficient ← parseDigits? 10 (whole ++ fraction)
  let exponent : Int ← match cs with
    | [] => some 0
    | e :: rest =>
      if e == 'e' || e == 'E' then
        let (down, ds) := splitSign rest
        (parseDigits? 10 ds).map fun n => if down then -(n : Int) else n
      else none
  Double.ofDecimal negative coefficient (exponent - fraction.length)

/-- A number with a point or exponent, or infinity or not-a-number; the latter two have no value
and stand for null. -/
def parseFloat? (cs : List Char) : Option Json :=
  let s := String.ofList cs
  let unsigned : Option (List Char) := match cs with
    | '+' :: '+' :: _ | '+' :: '-' :: _ => none
    | '+' :: rest => some rest
    | _ => some cs
  match unsigned with
  | none => none
  | some body =>
    if [".inf", ".Inf", ".INF"].contains (String.ofList body) ||
        ["-.inf", "-.Inf", "-.INF", ".nan", ".NaN", ".NAN"].contains s then some .null
    else (parseDecimal? body).map fun x => .number (.double x)

/-- A whole number as a value; one that needs more than 64 bits cannot be represented. -/
def integerValue? (n : Int) : Option Json :=
  if -(twoPow 63 : Int) ≤ n ∧ n < twoPow 64 then some (.number (.integer n)) else none

/-- Whether a whole number is read as one at all. Beyond 128 bits it is not. -/
def isInteger (n : Int) : Bool := -(twoPow 127 : Int) ≤ n && n < twoPow 128

/-- The value of a plain scalar without a tag; `none` when it is a number without a
representation. -/
def plainValue? (s : String) : Option Json :=
  if s.isEmpty || nullSpellings.contains s then some .null
  else
    match parseBool? s with
    | some b => some (.bool b)
    | none =>
      match (parseInt? s.toList).filter isInteger with
      | some n => integerValue? n
      | none =>
        if isZeroPadded s.toList then some (.string s)
        else some ((parseFloat? s.toList).getD (.string s))

/-- The value of a scalar. A tag of the core schema asks for a kind; a tag of one's own means
nothing here; a scalar that is not plain is a text. -/
def scalarValue? (tag : Option String) (text : String) (plain : Bool) : Option Json :=
  match tag with
  | none => if plain then plainValue? text else some (.string text)
  | some "tag:yaml.org,2002:bool" => (parseBool? text).map .bool
  | some "tag:yaml.org,2002:int" =>
    match (parseInt? text.toList).filter isInteger with
    | some n => integerValue? n
    | none => none
  | some "tag:yaml.org,2002:float" => parseFloat? text.toList
  | some "tag:yaml.org,2002:null" => if nullSpellings.contains text then some .null else none
  | some other => if other.toList.head? = some '!' then none else some (.string text)

example : parseInt? "-0x1F".toList = some (-31) := by decide +kernel
example : parseInt? "017".toList = none := by decide +kernel
example : parseDecimal? "+.5e1".toList = some ⟨0x4014000000000000⟩ := by decide +kernel

end LayeredSettings.Yaml
