import LayeredSettings.Decimal.Double

/-! The fewest decimal digits that read back as a given double. -/
namespace LayeredSettings

structure Decimal where
  coefficient : Nat
  exponent : Int
  deriving DecidableEq, Repr

namespace Decimal

def stripZeros : Nat → Decimal → Decimal
  | 0, d => d
  | fuel + 1, d =>
    if d.coefficient ≠ 0 ∧ d.coefficient % 10 = 0 then
      stripZeros fuel ⟨d.coefficient / 10, d.exponent + 1⟩
    else d

end Decimal

namespace Double

def perTenPower (num den : Nat) (e : Int) : Nat × Nat :=
  if e ≥ 0 then (num, den * tenPow e.toNat) else (num * tenPow (-e).toNat, den)

def leadingExponent (num den : Nat) : Int :=
  let guess : Int := ((num.log2 : Int) - den.log2) * 30103 / 100000
  let reaches (e : Int) : Bool := let (n, d) := perTenPower num den e; n ≥ d
  if reaches (guess + 1) then guess + 1 else if reaches guess then guess else guess - 1

/-- Whether `c`, counted in the unit of the fraction `n / d`, lies between `low / d` and `high / d`,
the ends included on demand. -/
def within (c low high d : Nat) (closed : Bool) : Bool :=
  if closed then low ≤ c * d && c * d ≤ high else low < c * d && c * d < high

/-- Try grids of 1, 2, … digits; on each, only the two neighbours of the value can be the answer,
the even one if both are equally near. -/
def shortestFrom (quarters low high den : Nat) (closed : Bool) (lead : Int) :
    Nat → Nat → Decimal
  | 0, _ => ⟨0, 0⟩
  | fuel + 1, digits =>
    let e := lead - digits + 1
    let (v, d) := perTenPower quarters den e
    let (l, _) := perTenPower low den e
    let (h, _) := perTenPower high den e
    let below := v / d
    let lowFits := within below l h d closed
    let highFits := within (below + 1) l h d closed
    let twice := 2 * (v % d)
    let pickBelow := twice < d || (twice == d && below % 2 == 0)
    if lowFits && (!highFits || pickBelow) then Decimal.stripZeros 20 ⟨below, e⟩
    else if highFits then Decimal.stripZeros 20 ⟨below + 1, e⟩
    else shortestFrom quarters low high den closed lead fuel (digits + 1)

/-- The fewest digits that read back as the magnitude of a finite double, and of those the nearest
ones. Counted in quarters of its last binary place, the value is `4 m` and the numbers that round
to it reach from `4 m - 2` (`4 m - 1` just above a power of two) to `4 m + 2`. -/
def shortest (x : Double) : Decimal :=
  let m := x.significand
  if m = 0 then ⟨0, 0⟩
  else
    let belowGap := if m = twoPow 52 ∧ x.scale > -1074 then 1 else 2
    let unit := x.scale - 2
    let up := if unit ≥ 0 then twoPow unit.toNat else 1
    let den := if unit ≥ 0 then 1 else twoPow (-unit).toNat
    let value := 4 * m * up
    shortestFrom value ((4 * m - belowGap) * up) ((4 * m + 2) * up) den (m % 2 == 0)
      (leadingExponent value den) 17 1

example : shortest ⟨0x3FB999999999999A⟩ = ⟨1, -1⟩ := by decide +kernel
example : shortest ⟨1⟩ = ⟨5, -324⟩ := by decide +kernel
example : shortest ⟨0x7FEFFFFFFFFFFFFF⟩ = ⟨17976931348623157, 292⟩ := by decide +kernel

end Double

end LayeredSettings
