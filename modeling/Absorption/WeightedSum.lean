import Absorption.Tensor.Part

set_option autoImplicit false

/-!
Weighted sums of entries along one or two axes of a block. The sums run over the chosen rows, and
for each row over the chosen columns.
-/

namespace Absorption

variable {α ι : Type} [Scalar α]

/-- The sum of the products of weights and entries, from left to right. -/
def weightedSum (weights entries : List α) : α :=
  (weights.zip entries).foldl (fun acc p => acc + p.1 * p.2) 0

/-- The weighted sum of the entries at some rows. -/
def sumRows (weights : List α) (rows : List ι) (read : ι → Outcome α α) : Outcome α α := do
  let entries ← rows.mapM read
  return weightedSum weights entries

/-- The weighted sum of the entries at some rows and columns, with a row of weights for each
row. -/
def sumGrid (weights : List (List α)) (rows columns : List ι) (read : ι → ι → Outcome α α) :
    Outcome α α := do
  let entries ← rows.mapM fun r => columns.mapM fun c => read r c
  return weightedSum weights.flatten entries.flatten

namespace Tensor

/-- Every weight has an index. -/
def enough (weights : Nat) (indices : List Int) : Outcome α Unit :=
  if indices.length < weights then fail .outOfBounds else .ok ()

/-- The number at a position of a block. -/
def valueAt (block : Tensor α) (position : List Int) : Outcome α α := do
  return (← block.entry position).value

/-- The weighted sum over rows of a block, one for each entry of the second axis. -/
def weightRows (weights : List α) (rows : List Int) (block : Tensor α) : Outcome α (List α) :=
  match block.shape with
  | _ :: width :: _ => do
    let sums ← (List.range width).mapM fun f =>
      sumRows weights (rows.take weights.length) fun r => block.valueAt [r, Int.ofNat f]
    enough weights.length rows
    return sums
  | _ => fail .outOfBounds

/-- The weighted sum over rows and columns of a block, one for each entry of the third axis. -/
def weightGrid (weights : List (List α)) (rows columns : List Int) (block : Tensor α) :
    Outcome α (List α) :=
  match block.shape with
  | _ :: _ :: width :: _ => do
    let count := (weights.head?.map List.length).getD 0
    let sums ← (List.range width).mapM fun f =>
      sumGrid weights (rows.take weights.length) (columns.take count) fun r c =>
        block.valueAt [r, c, Int.ofNat f]
    enough weights.length rows
    enough count columns
    return sums
  | _ => fail .outOfBounds

end Tensor
end Absorption
