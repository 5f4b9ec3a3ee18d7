import Absorption.Tensor.Basic
import Absorption.Value

set_option autoImplicit false

/-!
Arrays of numbers from nested lists. All lists at one depth must have the same shape.
-/

namespace Absorption

namespace Value

/-- The depth and sizes of nested lists, if all lists at one depth agree. -/
def nestedShape? : Value → Option (List Nat)
  | .list vs => shapeOfAll vs
  | _ => some []
where
  shapeOfAll : List Value → Option (List Nat)
    | [] => some [0]
    | v :: vs => match nestedShape? v, shapeOfAll vs with
      | some s, some (n :: t) => if n = 0 ∨ s = t then some ((n + 1) :: s) else none
      | _, _ => none

/-- The leaves of nested lists in order. -/
def leaves : Value → List Value
  | .list vs => leavesOfAll vs
  | v => [v]
where
  leavesOfAll : List Value → List Value
    | [] => []
    | v :: vs => leaves v ++ leavesOfAll vs

end Value

namespace Tensor

/-- A number of an array: a text must be the name of a number that is not finite, and a value that
is missing is not a number. -/
def numberOf : Value → Except Fault Float
  | .null => .ok (0.0 / 0.0)
  | .bool b => .ok (if b then 1.0 else 0.0)
  | .int n => match Decimal.ofInt? n with
    | some x => .ok x
    | none => .error .tooLarge
  | .float x => .ok x
  | .text "nan" => .ok (0.0 / 0.0)
  | .text "inf" => .ok (1.0 / 0.0)
  | .text "-inf" => .ok (-1.0 / 0.0)
  | .text _ => .error .malformed
  | .list _ => .error .malformed
  | .moment _ | .map _ => .error .wrongKind

/-- The most axes that an array may have. -/
def axisLimit : Nat := 64

/-- The array that nested lists of numbers stand for. A number alone has no axes. The shape is
judged before the numbers. -/
def ofValue (v : Value) : Except Fault (Tensor Float) :=
  match v.nestedShape? with
  | none => .error .malformed
  | some shape =>
    if axisLimit < shape.length then .error .malformed
    else do
      let xs ← v.leaves.mapM numberOf
      if h : xs.length = volume shape then return ⟨shape, xs.toArray, by simpa using h⟩
      else .error .malformed

/-- The elements cut at each index of the first axis and below, as nested lists. -/
def nest (leaf : Float → Value) : (shape : List Nat) → List Float → Value
  | [], xs => match xs with
    | x :: _ => leaf x
    | [] => .null
  | n :: shape, xs => .list ((chunks (volume shape) n xs).map (nest leaf shape))

/-- An array as nested lists, with each number written by `leaf`. -/
def toValue (leaf : Float → Value) (t : Tensor Float) : Value := nest leaf t.shape t.toList

end Tensor
end Absorption
