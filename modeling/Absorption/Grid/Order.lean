import Absorption.Tensor.Basic

set_option autoImplicit false

/-!
Strict order of grids and the range they cover. Order is judged by the differences of neighbours,
so a grid with a number that compares with nothing is neither increasing nor decreasing.
-/

namespace Absorption.Grid

variable {α : Type}

/-- Whether a relation holds between all neighbours of a list. -/
def chained (r : α → α → Bool) : List α → Bool
  | [] => true
  | [_] => true
  | a :: b :: rest => r a b && chained r (b :: rest)

variable [Scalar α]

def isIncreasing (grid : List α) : Bool := chained (fun a b => decide (0 < b - a)) grid

def isDecreasing (grid : List α) : Bool := chained (fun a b => decide (b - a < 0)) grid

/-- Whether an array increases along its last axis. -/
def increases (t : Tensor α) : Outcome α Bool := do
  return (← t.lines).all isIncreasing

/-- Whether an array decreases along its last axis. -/
def decreases (t : Tensor α) : Outcome α Bool := do
  return (← t.lines).all isDecreasing

/-- The range of an increasing grid and half a bin more at each end. The bin at an end is the
distance of its two outermost points; a single point has none. -/
def ascendingRange : List α → Outcome α (Bounds α)
  | [] => fail .outOfBounds
  | [a] => .ok ⟨a, a⟩
  | a :: b :: rest =>
    match (a :: b :: rest).reverse with
    | z :: y :: _ =>
      .ok ⟨a - Scalar.half * (b - a), z + Scalar.half * (z - y)⟩
    | _ => fail .outOfBounds

/-- The range that a grid of either direction covers, with half a bin more at each end. -/
def extendedRange (grid : List α) : Outcome α (Bounds α) :=
  match grid.head?, grid.getLast? with
  | some first, some last => ascendingRange (if last < first then grid.reverse else grid)
  | _, _ => fail .outOfBounds

end Absorption.Grid
