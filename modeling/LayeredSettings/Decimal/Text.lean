import LayeredSettings.Decimal.Shortest

/-! How a double is written out. Numbers that are neither too small nor too large are written in
place with at least one digit after the point, the others as `d.ddde+N`. -/
namespace LayeredSettings

namespace Decimal

def digits (d : Decimal) : List Char := Nat.toDigits 10 d.coefficient

def lead (d : Decimal) : Int := d.exponent + d.digits.length - 1

def plain (d : Decimal) : List Char :=
  let ds := d.digits
  if d.exponent ≥ 0 then ds ++ List.replicate d.exponent.toNat '0' ++ ['.', '0']
  else
    let places := (-d.exponent).toNat
    if places < ds.length then
      ds.take (ds.length - places) ++ '.' :: ds.drop (ds.length - places)
    else '0' :: '.' :: List.replicate (places - ds.length) '0' ++ ds

/-- One digit, the point and the others if there are any, and a signed exponent. -/
def scientific (d : Decimal) : List Char :=
  let mantissa := match d.digits with
    | first :: second :: more => first :: '.' :: second :: more
    | few => few
  let sign := if d.lead < 0 then '-' else '+'
  mantissa ++ 'e' :: sign :: Nat.toDigits 10 d.lead.natAbs

/-- Zero is written in place, and a number whose first digit counts `10 ^ -5` to `10 ^ 15`. -/
def isPlain (d : Decimal) : Bool := d.coefficient = 0 || (-5 ≤ d.lead && d.lead ≤ 15)

end Decimal

/-- The written form of a finite double; the sign of zero is kept. -/
def Double.text (x : Double) : String :=
  let d := x.shortest
  let body := if d.isPlain then d.plain else d.scientific
  String.ofList (if x.negative then '-' :: body else body)

example : Double.text ⟨0x3EE4F8B588E368F1⟩ = "0.00001" := by decide +kernel
example : Double.text ⟨0x4341C37937E08000⟩ = "1e+16" := by decide +kernel
example : Double.text ⟨0x8000000000000000⟩ = "-0.0" := by decide +kernel

end LayeredSettings
