import Absorption.Grid.Order
import Absorption.Grid.Position
import Absorption.Grid.Search
import Absorption.Tensor.Part

set_option autoImplicit false

/-!
Grids as arrays of any number of axes. Along one axis the points are numbers; with more axes they
are arrays, which serve as long as each holds a single number. A search by halves wants a single
axis.
-/

namespace Absorption.Grid

variable {α : Type} [Scalar α]

/-- The range that a grid covers, with half a bin more at each end. -/
def rangeOf (grid : Tensor α) : Outcome α (Bounds α) := do
  extendedRange (← grid.points)

@[simp] theorem rangeOf_ofList (grid : List α) :
    rangeOf (Tensor.ofList grid) = extendedRange grid := by
  simp [rangeOf, bind, Except.bind]

/-- The position of a target in a grid, for interpolation of the given order. A grid of one point
needs no search. -/
def positionIn (grid : Tensor α) (target : α) (order : Int) (axis : String) :
    Outcome α (Position α) :=
  match grid.shape with
  | [] => fail .wrongKind
  | [_] => position grid.toList target order axis
  | n :: _ =>
    if order < 0 ∨ n < order + 1 then refuse (.insufficientGrid axis n order)
    else if n = 1 then .ok ⟨[0], [1]⟩
    else fail .malformed

@[simp] theorem positionIn_ofList (grid : List α) (target : α) (order : Int) (axis : String) :
    positionIn (Tensor.ofList grid) target order axis = position grid target order axis := rfl

/-- The index in `old` of each point of `new`. Points are compared only if there are some. -/
def locateIn (old new : Tensor α) (tolerance : α) : Outcome α (List Nat) :=
  match old.shape, new.shape with
  | m :: oldFurther, n :: newFurther =>
    if n = 0 then .ok []
    else if volume newFurther ≠ 1 then fail (if m = 0 then .wrongKind else .malformed)
    else if m = 0 ∨ volume oldFurther = 1 then locate old.toList new.toList tolerance
    else fail .malformed
  | _, _ => fail .wrongKind

@[simp] theorem locateIn_ofList (old new : List α) (tolerance : α) :
    locateIn (Tensor.ofList old) (Tensor.ofList new) tolerance = locate old new tolerance := by
  cases new <;> simp [locateIn, volume, locate, locateFrom]

/-- The Lagrange weights of nodes. A single node has the weight one, whatever it is. -/
def weightsOf (nodes : Tensor α) (target : α) : Outcome α (List α) := do
  let count ← nodes.length
  if count = 1 then return [1]
  else return lagrangeWeights (← nodes.points) target

end Absorption.Grid
