import Absorption.Proofs.Outcome
import Absorption.Proofs.Tensor
import Absorption.Grid.Nested

set_option autoImplicit false

/-!
What a grid position consists of (`position_eq_ok`): neighbouring points of the grid, one more than
the order, with one weight each.
-/

namespace Absorption

namespace Grid

theorem length_filterMap_range' {α : Type} {grid : List α} {first count : Nat}
    (inside : first + count ≤ grid.length) :
    ((List.range' first count).filterMap (grid[·]?)).length = count := by
  induction count generalizing first with
  | zero => rfl
  | succ count ih =>
      rw [List.range'_succ, List.filterMap_cons_some (List.getElem?_eq_getElem (by omega)),
        List.length_cons, ih (by omega)]

variable {α : Type} [Scalar α] {grid : List α} {target : α}

theorem clamp_le (i : Int) (high : Nat) : clamp i high ≤ high := Nat.min_le_right _ _

/-- The points that take part follow each other and lie in the grid. -/
theorem stencil_eq_range' (target : α) {count : Nat} (nonempty : grid ≠ [])
    (enough : count ≤ grid.length) :
    ∃ first, first + count ≤ grid.length ∧ stencil grid target count = List.range' first count := by
  obtain ⟨first, rest, rfl⟩ := List.exists_cons_of_ne_nil nonempty
  have last := List.getLast?_eq_getLast_of_ne_nil nonempty
  simp only [stencil, List.head?_cons, last]
  split
  · have bound : firstPoint (first :: rest) target count ≤ (first :: rest).length - count :=
      clamp_le _ _
    exact ⟨_, by omega, rfl⟩
  · exact ⟨_, by omega, rfl⟩

/-- A single point is the only one that can take part. -/
theorem stencil_singleton (a target : α) : stencil [a] target 1 = [0] := by
  obtain ⟨first, inside, points⟩ :=
    stencil_eq_range' target (List.cons_ne_nil a []) (Nat.le_refl 1)
  rw [points, show first = 0 by simpa using inside]
  rfl

/-- A position is found if the grid has more points than the order: at the points that are to take
part, with their Lagrange weights. A grid of one point is no exception, as its weight is an empty
product. -/
theorem position_eq_ok {order : Int} {axis : String} {p : Position α} :
    position grid target order axis = .ok p ↔ (0 ≤ order ∧ order < grid.length) ∧
      p = ⟨stencil grid target (order.toNat + 1), lagrangeWeights
        ((stencil grid target (order.toNat + 1)).filterMap (grid[·]?)) target⟩ := by
  rw [position]
  split
  · next missed =>
      simp only [refuse_ne_ok, false_iff, not_and]
      omega
  · next enough =>
      have bounds : 0 ≤ order ∧ order < grid.length := by omega
      rw [and_iff_right bounds]
      split
      · next single =>
          obtain ⟨a, rfl⟩ := List.length_eq_one_iff.mp single
          have lowest : order.toNat + 1 = 1 := by
            simp only [List.length_singleton] at bounds
            omega
          rw [lowest, stencil_singleton, Except.ok.injEq, eq_comm]
          rfl
      · rw [Except.ok.injEq, eq_comm]

theorem exists_position (target : α) {order : Int} (axis : String) (lower : 0 ≤ order)
    (upper : order < grid.length) : ∃ p, position grid target order axis = .ok p ∧
      p.indices = stencil grid target (order.toNat + 1) :=
  ⟨_, position_eq_ok.mpr ⟨⟨lower, upper⟩, rfl⟩, rfl⟩

section Found

variable {order : Int} {axis : String} {p : Position α}
  (found : position grid target order axis = .ok p)
include found

theorem indices_eq_stencil : p.indices = stencil grid target (order.toNat + 1) := by
  rw [(position_eq_ok.mp found).2]

theorem weights_eq_lagrangeWeights :
    p.weights = lagrangeWeights (p.indices.filterMap (grid[·]?)) target := by
  rw [(position_eq_ok.mp found).2]

theorem length_indices : (p.indices.length : Int) = order + 1 := by
  obtain ⟨lower, upper⟩ := (position_eq_ok.mp found).1
  have nonempty : grid ≠ [] := List.ne_nil_of_length_pos (by omega)
  rw [indices_eq_stencil found, length_stencil _ _ _ nonempty]
  omega

/-- The points follow each other and lie in the grid. -/
theorem indices_eq_range' : ∃ first, first + p.indices.length ≤ grid.length ∧
    p.indices = List.range' first p.indices.length := by
  obtain ⟨lower, upper⟩ := (position_eq_ok.mp found).1
  have nonempty : grid ≠ [] := List.ne_nil_of_length_pos (by omega)
  rw [indices_eq_stencil found, length_stencil _ _ _ nonempty]
  exact stencil_eq_range' target nonempty (by omega)

theorem lt_of_mem_indices {i : Nat} (member : i ∈ p.indices) : i < grid.length := by
  obtain ⟨first, inside, points⟩ := indices_eq_range' found
  rw [points, List.mem_range'_1] at member
  omega

theorem length_weights : p.weights.length = p.indices.length := by
  obtain ⟨first, inside, points⟩ := indices_eq_range' found
  rw [weights_eq_lagrangeWeights found, length_lagrangeWeights, points,
    length_filterMap_range' inside, List.length_range']

end Found

theorem positionIn_of_isVector {grid : Tensor α} (h : grid.IsVector) (order : Int) (axis : String) :
    positionIn grid target order axis = position grid.toList target order axis := by
  rw [h.eq_ofList, positionIn_ofList, Tensor.toList_ofList]

end Grid
end Absorption
