import LayeredSettings.Text.LetterTable

/-! Letters and digits of every script, their case, and their upper-case forms. -/
namespace LayeredSettings.Text

def inRanges (table : List (Nat × Nat × Nat)) (n : Nat) : Bool :=
  table.any fun (first, last, step) => first ≤ n && n ≤ last && (n - first) % step == 0

def isAlphanumeric (c : Char) : Bool :=
  if c.toNat < 0x80 then c.isAlphanum else inRanges alphanumericRanges c.toNat

def isLowercase (c : Char) : Bool :=
  if c.toNat < 0x80 then c.isLower else inRanges lowercaseRanges c.toNat

def isUppercase (c : Char) : Bool :=
  if c.toNat < 0x80 then c.isUpper else inRanges uppercaseRanges c.toNat

/-- The full upper-case form of a letter; anything without one stays as it is. -/
def uppercase (c : Char) : List Char :=
  if c.toNat < 0x80 then [c.toUpper]
  else
    match uppercaseExpansions.lookup c.toNat with
    | some form => form.map Char.ofNat
    | none =>
      match uppercaseRuns.find? fun (first, last, step, _) =>
          first ≤ c.toNat && c.toNat ≤ last && (c.toNat - first) % step == 0 with
      | some (_, _, _, shift) => [Char.ofNat (c.toNat + shift).toNat]
      | none => [c]

example : uppercase 'ß' = ['S', 'S'] := by decide +kernel
example : uppercase 'é' = ['É'] := by decide +kernel
example : isUppercase 'É' = true ∧ isLowercase 'É' = false := by decide +kernel

end LayeredSettings.Text
