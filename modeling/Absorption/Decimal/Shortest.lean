import Absorption.Decimal.Rounding

set_option autoImplicit false

/-!
The fewest decimal digits that read back as a given binary64 number.
-/

namespace Absorption.Decimal

/-- The numbers that round to one binary64 number, in units of a quarter of its last place: all of
`(4 * mantissa - below, 4 * mantissa + 2)`, and the two ends if the mantissa is even. The unit is
`unit.numerator / unit.denominator`. -/
structure Basin where
  mantissa : Nat
  below : Nat
  unit : Fraction

/-- The gap below a power of two is half the gap above it, except among the smallest numbers. -/
def Basin.of (mantissa : Nat) (exponent : Int) : Basin where
  mantissa := mantissa
  below := if mantissa = Nat.pow 2 52 ∧ -1074 < exponent then 1 else 2
  unit := Fraction.scaled 1 2 (exponent - 2)

/-- Whether the decimal rounds to the binary number. -/
def Basin.holds (b : Basin) (d : Decimal) : Bool :=
  let x := Fraction.scaled d.significand 10 d.scale
  let point := x.numerator * b.unit.denominator
  let low := (4 * b.mantissa - b.below) * b.unit.numerator * x.denominator
  let high := (4 * b.mantissa + 2) * b.unit.numerator * x.denominator
  if b.mantissa % 2 = 0 then low ≤ point ∧ point ≤ high else low < point ∧ point < high

/-- The centre of the basin, the binary number itself. -/
def Basin.center (b : Basin) : Fraction :=
  ⟨4 * b.mantissa * b.unit.numerator, b.unit.denominator⟩

/-- The nearer of the two neighbours of the centre on the grid of `count` digits, or the other one,
if it is in the basin. -/
def Basin.onGrid (b : Basin) (order : Int) (count : Nat) : Option Decimal :=
  let scale := order - (count - 1 : Nat)
  let x := b.center
  let near := x.roundAt scale
  let whole : Nat :=
    if 0 ≤ scale then x.numerator / (x.denominator * Nat.pow 10 scale.toNat)
    else x.numerator * Nat.pow 10 (-scale).toNat / x.denominator
  let far := if near = whole then whole + 1 else whole
  if b.holds ⟨near, scale⟩ then some ⟨near, scale⟩
  else if b.holds ⟨far, scale⟩ then some ⟨far, scale⟩
  else none

/-- The first grid, from `count` digits on, with a point in the basin. Seventeen digits always tell
two binary64 numbers apart, so the search needs no more than `left` further grids. -/
def Basin.search (b : Basin) (order : Int) : (left count : Nat) → Decimal
  | 0, count => b.center.significant count
  | left + 1, count =>
    match b.onGrid order count with
    | some d => d
    | none => b.search order left (count + 1)

/-- The shortest decimal that rounds to the positive number `mantissa * 2 ^ exponent`, the nearest
one if several are as short. -/
def shortest (mantissa : Nat) (exponent : Int) : Decimal :=
  let b := Basin.of mantissa exponent
  (b.search b.center.order 16 1).trim

end Absorption.Decimal
