/-! Binary floating-point numbers of 64 bits, and the one nearest to a decimal number. All
arithmetic is exact on natural numbers. -/
namespace LayeredSettings

def twoPow (n : Nat) : Nat := Nat.pow 2 n

def tenPow (n : Nat) : Nat := Nat.pow 10 n

/-- A number in the 64-bit format of IEEE 754, by its bits. -/
structure Double where
  bits : UInt64
  deriving DecidableEq, Repr

namespace Double

def negative (d : Double) : Bool := d.bits.toNat ≥ twoPow 63

def magnitudeBits (d : Double) : Nat := d.bits.toNat % twoPow 63

/-- A finite number is `significand * 2 ^ scale` up to its sign. -/
def significand (d : Double) : Nat :=
  let fraction := d.magnitudeBits % twoPow 52
  if d.magnitudeBits / twoPow 52 = 0 then fraction else fraction + twoPow 52

def scale (d : Double) : Int := (max 1 (d.magnitudeBits / twoPow 52) : Nat) - 1075

/-- The quotient rounded to the nearest whole number, a half to the even one. -/
def roundedQuotient (num den : Nat) : Nat :=
  let q := num / den
  let twice := 2 * (num % den)
  if twice < den then q else if twice > den then q + 1 else q + q % 2

def scaledDown (num den : Nat) (e : Int) : Nat × Nat :=
  if e ≥ 0 then (num, den * twoPow e.toNat) else (num * twoPow (-e).toNat, den)

/-- The bits of the double nearest to a positive fraction; `none` past the largest one. -/
def nearestBits (num den : Nat) : Option Nat :=
  let guess : Int := (num.log2 : Int) - den.log2 - 53
  let (n, d) := scaledDown num den guess
  let scale := max (-1074) (if n / d < twoPow 53 then guess else guess + 1)
  let (n, d) := scaledDown num den scale
  let m := roundedQuotient n d
  let bits := if m < twoPow 52 then m else (scale + 1075).toNat * twoPow 52 + (m - twoPow 52)
  if bits < 2047 * twoPow 52 then some bits else none

/-- The double nearest to `coefficient * 10 ^ exponent` with the given sign; `none` when it is too
large. -/
def ofDecimal (negative : Bool) (coefficient : Nat) (exponent : Int) : Option Double :=
  let signBit := if negative then twoPow 63 else 0
  let length : Int := (Nat.toDigits 10 coefficient).length
  let magnitude :=
    if coefficient = 0 ∨ length + exponent < -330 then some 0
    else if length + exponent > 310 then none
    else if exponent ≥ 0 then nearestBits (coefficient * tenPow exponent.toNat) 1
    else nearestBits coefficient (tenPow (-exponent).toNat)
  magnitude.map fun bits => ⟨UInt64.ofNat (signBit + bits)⟩

example : ofDecimal false 1 0 = some ⟨0x3FF0000000000000⟩ := by decide +kernel
example : ofDecimal false 5 (-324) = some ⟨1⟩ := by decide +kernel
example : ofDecimal true 0 0 = some ⟨0x8000000000000000⟩ := by decide +kernel
example : ofDecimal false 1 309 = none := by decide +kernel

end Double

end LayeredSettings
