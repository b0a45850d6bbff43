import LayeredSettings.Text.HiddenTable

/-! A text in double quotes, on one line, with every character that would not show spelled as an
escape. -/
namespace LayeredSettings.Text

def isHidden (c : Char) : Bool :=
  let n := c.toNat
  if 0x20 ≤ n && n ≤ 0x7E then false
  else hiddenRanges.any fun (first, last, step) => first ≤ n && n ≤ last && (n - first) % step == 0

def hexDigits (n : Nat) : List Char := Nat.toDigits 16 n

def quotedChar (c : Char) : List Char :=
  match c with
  | '"' => ['\\', '"']
  | '\\' => ['\\', '\\']
  | '\x00' => ['\\', '0']
  | '\t' => ['\\', 't']
  | '\n' => ['\\', 'n']
  | '\r' => ['\\', 'r']
  | _ => if isHidden c then '\\' :: 'u' :: '{' :: hexDigits c.toNat ++ ['}'] else [c]

/-- The text in double quotes, with escapes. -/
def quoted (s : String) : String := String.ofList ('"' :: s.toList.flatMap quotedChar ++ ['"'])

example : quoted "a\"b" = "\"a\\\"b\"" := by decide +kernel
example : quoted "\u200b" = "\"\\u\x7b200b\x7d\"" := by decide +kernel

end LayeredSettings.Text
