import Absorption.Table.Basic

set_option autoImplicit false

/-!
Where the species of a table lie on the expanded species axis.
-/

namespace Absorption

/-- The places of one species on the expanded axis. -/
structure Block where
  offset : Nat
  length : Nat
  deriving DecidableEq, Repr

/-- The first place behind the block. -/
def Block.stop (b : Block) : Nat := b.offset + b.length

/-- For each species whether it is nonlinear, and its block. -/
structure Layout where
  nonlinear : List Bool
  blocks : List Block
  deriving DecidableEq, Repr

/-- Blocks one behind the other from `offset` on: `humidities` places for a nonlinear species and
one for any other. -/
def blocksFrom (humidities : Nat) : (offset : Nat) → List Bool → List Block
  | _, [] => []
  | offset, isNonlinear :: rest =>
    let length := if isNonlinear then humidities else 1
    ⟨offset, length⟩ :: blocksFrom humidities (offset + length) rest

@[simp] theorem length_blocksFrom (humidities offset : Nat) (mask : List Bool) :
    (blocksFrom humidities offset mask).length = mask.length := by
  induction mask generalizing offset with
  | nil => rfl
  | cons b mask ih => simp [blocksFrom, ih]

namespace Table

variable {α : Type}

/-- For each species whether it is nonlinear. Negative indices count from the last species. -/
def mask (t : Table α) : Outcome α (List Bool) := do
  let marked ← t.nonlinear.mapM fun i => orFail .outOfBounds (Tensor.wrap? t.species.length i)
  return (List.range t.species.length).map marked.contains

/-- The layout of the expanded species axis. -/
def layout (t : Table α) : Outcome α Layout := do
  let humidities ← t.humidityPerturbations.length
  let mask ← t.mask
  return ⟨mask, blocksFrom humidities 0 mask⟩

end Table
end Absorption
