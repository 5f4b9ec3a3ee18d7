import Absorption.Text.Digits

set_option autoImplicit false

/-!
The exact value of a binary64 number, and the rounding of fractions to decimal grids. A half goes to
the even neighbour.
-/

namespace Absorption

/-- The number `significand * 10 ^ scale`. -/
structure Decimal where
  significand : Nat
  scale : Int
  deriving DecidableEq

namespace Decimal

/-- A binary64 number as what it stands for. A finite one is `mantissa * 2 ^ exponent`. -/
inductive Binary where
  | nan
  | infinite (negative : Bool)
  | finite (negative : Bool) (mantissa : Nat) (exponent : Int)
  deriving DecidableEq

/-- The fields of the 64-bit pattern: sign, eleven bits of exponent, fifty-two of fraction. -/
def Binary.ofBits (bits : Nat) : Binary :=
  let negative := decide (bits / Nat.pow 2 63 % 2 = 1)
  let exponent : Nat := bits / Nat.pow 2 52 % Nat.pow 2 11
  let fraction : Nat := bits % Nat.pow 2 52
  if exponent = 2047 then
    if fraction = 0 then .infinite negative else .nan
  else if exponent = 0 then .finite negative fraction (-1074)
  else .finite negative (Nat.pow 2 52 + fraction) ((exponent : Int) - 1075)

def Binary.ofFloat (x : Float) : Binary := .ofBits x.toBits.toNat

/-- A non-negative fraction, not reduced. -/
structure Fraction where
  numerator : Nat
  denominator : Nat

/-- `mantissa * base ^ exponent` as a fraction. -/
def Fraction.scaled (mantissa base : Nat) (exponent : Int) : Fraction :=
  if 0 ≤ exponent then ⟨mantissa * base.pow exponent.toNat, 1⟩
  else ⟨mantissa, base.pow (-exponent).toNat⟩

/-- The quotient rounded to the nearest number, a half to the even one. -/
def roundDiv (numerator denominator : Nat) : Nat :=
  let q := numerator / denominator
  let r := numerator % denominator
  if 2 * r < denominator then q
  else if denominator < 2 * r then q + 1
  else q + q % 2

/-- A rounded quotient is at most half a unit away. -/
theorem roundDiv_near (numerator denominator : Nat) (h : 0 < denominator) :
    2 * numerator ≤ (2 * roundDiv numerator denominator + 1) * denominator ∧
      2 * (roundDiv numerator denominator * denominator) ≤ 2 * numerator + denominator := by
  have hq := Nat.div_add_mod numerator denominator
  have hr := Nat.mod_lt numerator h
  generalize hqd : numerator / denominator = q at hq
  generalize hrd : numerator % denominator = r at hq hr
  have hmul : denominator * q = q * denominator := Nat.mul_comm _ _
  simp only [roundDiv, hqd, hrd]
  split
  · constructor <;> rw [← hq] <;> simp only [Nat.add_mul, Nat.mul_add, Nat.mul_assoc] <;> omega
  · split
    · constructor <;> rw [← hq] <;> simp only [Nat.add_mul, Nat.mul_add, Nat.mul_assoc] <;> omega
    · have htie : 2 * r = denominator := by omega
      rcases Nat.mod_two_eq_zero_or_one q with hp | hp <;> rw [hp] <;>
        constructor <;> rw [← hq] <;> simp only [Nat.add_mul, Nat.mul_add, Nat.mul_assoc] <;> omega

/-- The exponent `e` with `10 ^ e ≤ x < 10 ^ (e + 1)` for a positive fraction `x`. -/
def Fraction.order (x : Fraction) : Int :=
  let e : Int := (Text.digits x.numerator).length - (Text.digits x.denominator).length
  let reached : Bool :=
    if 0 ≤ e then x.denominator * Nat.pow 10 e.toNat ≤ x.numerator
    else x.denominator ≤ x.numerator * Nat.pow 10 (-e).toNat
  if reached then e else e - 1

/-- `x / 10 ^ scale` rounded to a whole number. -/
def Fraction.roundAt (x : Fraction) (scale : Int) : Nat :=
  if 0 ≤ scale then roundDiv x.numerator (x.denominator * Nat.pow 10 scale.toNat)
  else roundDiv (x.numerator * Nat.pow 10 (-scale).toNat) x.denominator

/-- A positive fraction rounded to `count` significant digits. The significand has exactly that
many digits, also where rounding carries into the next power of ten. -/
def Fraction.significant (x : Fraction) (count : Nat) : Decimal :=
  let scale := x.order - (count - 1 : Nat)
  let s := x.roundAt scale
  if s < Nat.pow 10 count then ⟨s, scale⟩ else ⟨s / 10, scale + 1⟩

/-- The same number without trailing zeros in the significand; `fuel` bounds how many are cut. -/
def trimFrom : (fuel : Nat) → Decimal → Decimal
  | 0, d => d
  | fuel + 1, d =>
    if d.significand ≠ 0 ∧ d.significand % 10 = 0 then
      trimFrom fuel ⟨d.significand / 10, d.scale + 1⟩
    else d

/-- The same number without trailing zeros in the significand. -/
def trim (d : Decimal) : Decimal := trimFrom (Text.digits d.significand).length d

end Decimal
end Absorption
