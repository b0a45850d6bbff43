/-! Escapes in a properties text: a backslash spells a control character by its letter, a UTF-16
unit by `u` and four hexadecimal digits, and any other character by itself. -/
namespace LayeredSettings.Properties

def hexValue? (c : Char) : Option Nat :=
  if '0' ≤ c ∧ c ≤ '9' then some (c.toNat - '0'.toNat)
  else if 'a' ≤ c ∧ c ≤ 'f' then some (c.toNat - 'a'.toNat + 10)
  else if 'A' ≤ c ∧ c ≤ 'F' then some (c.toNat - 'A'.toNat + 10)
  else none

/-- The unit that four characters name: four digits, or a plus sign and three. -/
def unit? (a b c d : Char) : Option Nat := do
  let high ← if a = '+' then some 0 else hexValue? a
  return ((high * 16 + (← hexValue? b)) * 16 + (← hexValue? c)) * 16 + (← hexValue? d)

def isHighSurrogate (unit : Nat) : Bool := 0xD800 ≤ unit && unit ≤ 0xDBFF

def isLowSurrogate (unit : Nat) : Bool := 0xDC00 ≤ unit && unit ≤ 0xDFFF

def pairedChar (high low : Nat) : Char :=
  Char.ofNat (0x10000 + (high - 0xD800) * 0x400 + (low - 0xDC00))

/-- Replace every escape by what it spells; `none` if a `\u` escape names no character. A backslash
at the very end spells nothing. -/
def unescape : List Char → Option (List Char)
  | [] => some []
  | '\\' :: 'u' :: a :: b :: c :: d :: rest =>
    match unit? a b c d with
    | none => none
    | some unit =>
      if isHighSurrogate unit then
        match rest with
        | '\\' :: 'u' :: e :: f :: g :: h :: rest =>
          match unit? e f g h with
          | some low =>
            if isLowSurrogate low then (unescape rest).map (pairedChar unit low :: ·) else none
          | none => none
        | _ => none
      else if isLowSurrogate unit then none
      else (unescape rest).map (Char.ofNat unit :: ·)
  | '\\' :: 'u' :: _ => none
  | '\\' :: 't' :: rest => (unescape rest).map ('\t' :: ·)
  | '\\' :: 'n' :: rest => (unescape rest).map ('\n' :: ·)
  | '\\' :: 'r' :: rest => (unescape rest).map ('\r' :: ·)
  | '\\' :: 'f' :: rest => (unescape rest).map ('\x0c' :: ·)
  | '\\' :: c :: rest => (unescape rest).map (c :: ·)
  | ['\\'] => some []
  | c :: rest => (unescape rest).map (c :: ·)

example : unescape "a\\=b\\u00e9\\uD83D\\uDE00".toList = some "a=bé😀".toList := by decide +kernel
example : unescape "\\uD83Dz".toList = none := by decide +kernel

end LayeredSettings.Properties
