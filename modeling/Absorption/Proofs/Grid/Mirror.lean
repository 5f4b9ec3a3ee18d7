import Absorption.Proofs.Grid.Stencil

set_option autoImplicit false

/-!
Grids that run the other way. A grid covers the same range in both directions
(`extendedRange_reverse`), and the same points take part, with the same weights: a position in the
reversed grid is the mirrored position (`position_reverse`).
-/

namespace Absorption

/-- The position of the same points, with the same weights, in a grid of `n` points that runs the
other way. -/
def Position.mirrored {α : Type} (n : Nat) (p : Position α) : Position α where
  indices := (p.indices.map (n - 1 - ·)).reverse
  weights := p.weights.reverse

namespace Grid

theorem mirror_range' {first count n : Nat} (inside : first + count ≤ n) :
    ((List.range' first count).map (n - 1 - ·)).reverse =
      List.range' (n - count - first) count := by
  apply List.ext_getElem
  · simp
  · intro k bound _
    have bound' : k < count := by simpa using bound
    simp only [List.getElem_reverse, List.getElem_map, List.getElem_range', List.length_map,
      List.length_range']
    omega

/-- Mirrored indices in a reversed list lead to the same elements, in the other order. -/
theorem filterMap_mirror {α : Type} {grid : List α} {indices : List Nat}
    (inside : ∀ i ∈ indices, i < grid.length) :
    (indices.map (grid.length - 1 - ·)).reverse.filterMap (grid.reverse[·]?) =
      (indices.filterMap (grid[·]?)).reverse := by
  rw [List.filterMap_reverse, List.filterMap_map]
  congr 1
  refine List.filterMap_congr fun i member => ?_
  have bound := inside i member
  rw [Function.comp_apply, List.getElem?_reverse (by omega)]
  congr 1
  omega

variable {α : Type} [Exact α] {grid : List α}

theorem extendedRange_of_rising (rising : grid.Pairwise (· < ·)) :
    extendedRange grid = ascendingRange grid := by
  rw [extendedRange]
  cases grid with
  | nil => rfl
  | cons a rest =>
      have last := List.getLast?_eq_getLast_of_ne_nil (List.cons_ne_nil a rest)
      rw [List.head?_cons, last]
      refine congrArg ascendingRange (if_neg (not_lt.mpr ?_))
      exact le_of_index_le rising (Nat.zero_le _) rfl (List.getLast?_eq_getElem? ▸ last)

theorem extendedRange_of_falling (falling : grid.Pairwise (fun a b => b < a)) :
    extendedRange grid = ascendingRange grid.reverse := by
  rw [extendedRange]
  cases grid with
  | nil => rfl
  | cons a rest =>
      cases rest with
      | nil => exact congrArg ascendingRange (if_neg (lt_irrefl a))
      | cons b rest =>
          have last := List.getLast?_eq_getLast_of_ne_nil (List.cons_ne_nil a (b :: rest))
          rw [List.head?_cons, last]
          refine congrArg ascendingRange (if_pos ?_)
          rw [List.getLast_cons_cons]
          exact List.rel_of_pairwise_cons falling (List.getLast_mem _)

/-- A grid covers the same range in both directions. -/
theorem extendedRange_reverse
    (strict : grid.Pairwise (· < ·) ∨ grid.Pairwise (fun a b => b < a)) :
    extendedRange grid.reverse = extendedRange grid := by
  rcases strict with rising | falling
  · rw [extendedRange_of_rising rising,
      extendedRange_of_falling (List.pairwise_reverse.mpr rising), List.reverse_reverse]
  · rw [extendedRange_of_falling falling,
      extendedRange_of_rising (List.pairwise_reverse.mpr falling)]

/-- The product over all other nodes can be taken in the other order. -/
theorem lagrangeWeight_reverse {nodes : List α} (target node : α) {j : Nat}
    (inside : j < nodes.length) : lagrangeWeight nodes.reverse target node j =
      lagrangeWeight nodes target node (nodes.length - 1 - j) := by
  rw [lagrangeWeight_eq_prod, lagrangeWeight_eq_prod, List.length_reverse]
  refine Finset.prod_nbij' (nodes.length - 1 - ·) (nodes.length - 1 - ·) ?_ ?_ ?_ ?_ ?_
  all_goals
    intro k member
    rw [Finset.mem_erase, Finset.mem_range] at member
  · rw [Finset.mem_erase, Finset.mem_range]
    omega
  · rw [Finset.mem_erase, Finset.mem_range]
    omega
  · omega
  · omega
  · rw [List.getD_eq_getElem?_getD, List.getD_eq_getElem?_getD, List.getElem?_reverse member.2]

theorem lagrangeWeights_reverse (nodes : List α) (target : α) :
    lagrangeWeights nodes.reverse target = (lagrangeWeights nodes target).reverse := by
  apply List.ext_getElem
  · simp
  · intro k bound _
    have inside : k < nodes.length := by simpa using bound
    simp only [lagrangeWeights, List.getElem_map, List.getElem_zipIdx, List.getElem_reverse,
      List.length_map, List.length_zipIdx, Nat.zero_add]
    exact lagrangeWeight_reverse target _ inside

/-- The same points of a grid take part in both directions. -/
theorem stencil_reverse (strict : grid.Pairwise (· < ·) ∨ grid.Pairwise (fun a b => b < a))
    (several : 2 ≤ grid.length) (target : α) {count : Nat} (enough : count ≤ grid.length) :
    stencil grid.reverse target count =
      ((stencil grid target count).map (grid.length - 1 - ·)).reverse := by
  have several' : 2 ≤ grid.reverse.length := by rwa [List.length_reverse]
  rcases strict with rising | falling
  · have bound : firstPoint grid target count ≤ grid.length - count := clamp_le _ _
    rw [stencil_of_rising rising several, mirror_range' (by omega),
      stencil_of_falling (List.pairwise_reverse.mpr rising) several', List.length_reverse,
      List.reverse_reverse]
  · have bound : firstPoint grid.reverse target count ≤ grid.reverse.length - count :=
      clamp_le _ _
    rw [List.length_reverse] at bound
    rw [stencil_of_falling falling several, mirror_range' (by omega),
      stencil_of_rising (List.pairwise_reverse.mpr falling) several']
    congr 1
    omega

/-- A position in a reversed grid is the mirrored one, and refused where that is. -/
theorem position_reverse (strict : grid.Pairwise (· < ·) ∨ grid.Pairwise (fun a b => b < a))
    (target : α) (order : Int) (axis : String) : position grid.reverse target order axis =
      (position grid target order axis).map (Position.mirrored grid.length) := by
  rw [position, position, List.length_reverse]
  split
  · rfl
  · next enough =>
      split
      · next single =>
          rw [single]
          rfl
      · have several : 2 ≤ grid.length := by omega
        have count : order.toNat + 1 ≤ grid.length := by omega
        obtain ⟨first, inside, points⟩ :=
          stencil_eq_range' target (List.ne_nil_of_length_pos (by omega)) count
        have within : ∀ i ∈ stencil grid target (order.toNat + 1), i < grid.length := by
          intro i member
          rw [points, List.mem_range'_1] at member
          omega
        simp only [stencil_reverse strict several target count, filterMap_mirror within,
          lagrangeWeights_reverse]
        rfl

end Grid
end Absorption
