set_option autoImplicit false

/-!
The numbers of a lookup table. Everything that is computed from a table is written over `Scalar`,
so that the same definitions run on binary64 numbers and can be read in exact arithmetic. A range
of such numbers has both ends.
-/

namespace Absorption

/-- Numbers with the four operations, comparisons and a logarithm. A comparison may be false both
ways, as it is for a number that is not a number; nothing here assumes an order. -/
class Scalar (α : Type) extends Zero α, One α, Add α, Sub α, Mul α, Div α, LE α, LT α where
  decLE : DecidableLE α
  decLT : DecidableLT α
  /-- The logarithm in which pressures are interpolated. -/
  log : α → α
  /-- The Boltzmann constant in J/K. -/
  boltzmann : α
  /-- A number above all others, if the numbers have one. -/
  infinity? : Option α

attribute [reducible, instance] Scalar.decLE Scalar.decLT

namespace Scalar

variable {α : Type} [Scalar α]

/-- One half, as a quotient so that it needs no constant of its own. -/
def half : α := 1 / (1 + 1)

/-- Equality as the comparisons see it: zero equals minus zero and nothing equals a number that is
not a number. -/
def same (a b : α) : Bool := decide (a ≤ b) && decide (b ≤ a)

/-- The distance of two numbers, `b - a` or its negative. -/
def distance (a b : α) : α :=
  let d := a - b
  if d < 0 then 0 - d else d

/-- The larger of a number and zero. A number that compares with nothing is kept. -/
def atLeastZero (a : α) : α := if a < 0 then 0 else a

end Scalar

instance : Scalar Float where
  zero := 0.0
  one := 1.0
  decLE := inferInstance
  decLT := inferInstance
  log := Float.log
  boltzmann := 1.380649e-23
  infinity? := some (1.0 / 0.0)

/-- A range from a lower to an upper end. -/
structure Bounds (α : Type) where
  lower : α
  upper : α

/-- Whether a number lies between the ends or on one. A number that compares with nothing does
not. -/
def Bounds.contains {α : Type} [Scalar α] (b : Bounds α) (x : α) : Bool :=
  decide (b.lower ≤ x) && decide (x ≤ b.upper)

end Absorption
