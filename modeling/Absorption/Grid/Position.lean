import Absorption.Failure.Basic

set_option autoImplicit false

/-!
Positions in a grid for polynomial interpolation: the points that take part, and their Lagrange
weights. For order `n` the `n + 1` points nearest to the target take part. An even number of
points brackets the target, an odd number is centred on the nearest point, and at the ends of the
grid the points are shifted inwards.
-/

namespace Absorption

/-- The indices of neighbouring points of a grid, in ascending order, and their weights. -/
structure Position (α : Type) where
  indices : List Nat
  weights : List α

namespace Position

/-- The order of interpolation: one less than the number of points. -/
def order {α : Type} (p : Position α) : Int := p.indices.length - 1

end Position

namespace Grid

variable {α : Type} [Scalar α]

/-- Whether a point of the grid is not above the target. A target that compares with nothing is
above all points. -/
def notAbove (point target : α) : Bool :=
  decide (point ≤ target) || !decide (target ≤ target)

/-- Halving search in `[low, high)` for the first point above the target; `fuel` bounds the number
of halvings. -/
def firstAbove (grid : List α) (target : α) : (fuel low high : Nat) → Nat
  | 0, low, _ => low
  | fuel + 1, low, high =>
    if low < high then
      let middle := low + (high - low) / 2
      match grid[middle]? with
      | some point =>
        if notAbove point target then firstAbove grid target fuel (middle + 1) high
        else firstAbove grid target fuel low middle
      | none => low
    else low

/-- The number of points of an ascending grid that are not above the target. -/
def countNotAbove (grid : List α) (target : α) : Nat :=
  firstAbove grid target grid.length 0 grid.length

/-- The nearest integer to `i` between zero and `high`. -/
def clamp (i : Int) (high : Nat) : Nat := min i.toNat high

/-- The last point of an ascending grid that is not above the target, but never the last of all:
the lower end of the interval around the target. -/
def interval (grid : List α) (target : α) : Nat :=
  clamp ((countNotAbove grid target : Int) - 1) (grid.length - 2)

/-- The nearer of the two points around the target, the lower one if they are equally near. -/
def nearest (grid : List α) (target : α) (i : Nat) : Nat :=
  match grid[i]?, grid[i + 1]? with
  | some a, some b => if target - a ≤ b - target then i else i + 1
  | _, _ => i

/-- The first of the `count` points of an ascending grid that take part. -/
def firstPoint (grid : List α) (target : α) (count : Nat) : Nat :=
  let i := interval grid target
  let start : Int :=
    if count % 2 = 0 then (i : Int) - ((count / 2 : Nat) - 1)
    else (nearest grid target i : Int) - (count / 2 : Nat)
  clamp start (grid.length - count)

/-- The weight of the node with index `j`: the polynomial that is one there and zero at the other
nodes, at the target. -/
def lagrangeWeight (nodes : List α) (target : α) (node : α) (j : Nat) : α :=
  nodes.zipIdx.foldl
    (fun w other =>
      if other.2 = j then w else w * ((target - other.1) / (node - other.1))) 1

/-- The Lagrange weights of all nodes. -/
def lagrangeWeights (nodes : List α) (target : α) : List α :=
  nodes.zipIdx.map fun node => lagrangeWeight nodes target node.1 node.2

@[simp] theorem length_lagrangeWeights (nodes : List α) (target : α) :
    (lagrangeWeights nodes target).length = nodes.length := by
  simp [lagrangeWeights]

/-- The points of a grid of either direction that take part. A descending grid is searched from
its end. -/
def stencil (grid : List α) (target : α) (count : Nat) : List Nat :=
  match grid.head?, grid.getLast? with
  | some first, some last =>
    if first < last then
      List.range' (firstPoint grid target count) count
    else
      List.range' (grid.length - count - firstPoint grid.reverse target count) count
  | _, _ => []

@[simp] theorem length_stencil (grid : List α) (target : α) (count : Nat) (h : grid ≠ []) :
    (stencil grid target count).length = count := by
  cases grid with
  | nil => exact absurd rfl h
  | cons a grid =>
    simp only [stencil, List.head?_cons, List.getLast?_cons]
    split <;> simp

/-- The position of a target in a strictly ordered grid, for interpolation of the given order.
The axis is named if the grid has too few points. -/
def position (grid : List α) (target : α) (order : Int) (axis : String) :
    Outcome α (Position α) :=
  if order < 0 ∨ grid.length < order + 1 then
    refuse (.insufficientGrid axis grid.length order)
  else if grid.length = 1 then .ok ⟨[0], [1]⟩
  else
    let indices := stencil grid target (order.toNat + 1)
    .ok ⟨indices, lagrangeWeights (indices.filterMap (grid[·]?)) target⟩

/-- The products of two lists of weights, a row for each weight of the first. -/
def weightProducts (rows columns : List α) : List (List α) :=
  rows.map fun a => columns.map fun b => a * b

end Grid
end Absorption
