import LayeredSettings.Json

/-! Values as JSON text, one member a line, two spaces deeper on each level. -/
namespace LayeredSettings.Json

def fourHex (n : Nat) : List Char :=
  let ds := Nat.toDigits 16 n
  List.replicate (4 - ds.length) '0' ++ ds

def escapedChar (c : Char) : List Char :=
  match c with
  | '"' => ['\\', '"']
  | '\\' => ['\\', '\\']
  | '\x08' => ['\\', 'b']
  | '\x0c' => ['\\', 'f']
  | '\n' => ['\\', 'n']
  | '\r' => ['\\', 'r']
  | '\t' => ['\\', 't']
  | _ => if c.toNat < 0x20 then '\\' :: 'u' :: fourHex c.toNat else [c]

def escaped (s : String) : String := String.ofList ('"' :: s.toList.flatMap escapedChar ++ ['"'])

def indentation (depth : Nat) : String := String.ofList (List.replicate (2 * depth) ' ')

mutual

/-- The value as text whose later lines are indented for the given depth. -/
def prettyAt (depth : Nat) : Json → String
  | .null => "null"
  | .bool b => if b then "true" else "false"
  | .number n => n.text
  | .string s => escaped s
  | .array [] => "[]"
  | .array (item :: rest) =>
    "[\n" ++ indentation (depth + 1) ++ prettyAt (depth + 1) item ++ prettyItems depth rest ++
      "\n" ++ indentation depth ++ "]"
  | .object [] => "\x7b\x7d"
  | .object ((key, value) :: rest) =>
    "\x7b\n" ++ indentation (depth + 1) ++ escaped key ++ ": " ++ prettyAt (depth + 1) value ++
      prettyMembers depth rest ++ "\n" ++ indentation depth ++ "\x7d"

def prettyItems (depth : Nat) : List Json → String
  | [] => ""
  | item :: rest =>
    ",\n" ++ indentation (depth + 1) ++ prettyAt (depth + 1) item ++ prettyItems depth rest

def prettyMembers (depth : Nat) : List (String × Json) → String
  | [] => ""
  | (key, value) :: rest =>
    ",\n" ++ indentation (depth + 1) ++ escaped key ++ ": " ++ prettyAt (depth + 1) value ++
      prettyMembers depth rest

end

/-- The value as JSON text over several lines, without a final line end. -/
def pretty (value : Json) : String := prettyAt 0 value

end LayeredSettings.Json
