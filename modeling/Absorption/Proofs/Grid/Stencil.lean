import Mathlib.Algebra.Order.Group.Pointwise.Interval
import Absorption.Proofs.Grid.Reproduction

set_option autoImplicit false

/-!
Which points of a grid take part. A search by halves finds where the points go above the target
(`parts_firstAbove`), so the interval that is taken has the target in it, or is the one at the end
that the target lies beyond (`interval_spec`). The nearer of its ends is the nearest point of all
(`nearest_le`), and always takes part (`exists_nearest_mem_stencil`). So a position at a point of
the grid gives just what stands there (`position_node`).
-/

namespace Absorption.Grid

variable {α : Type} [Exact α] {grid : List α} {target : α}

/-- The points before `low` are not above the target, those from `high` on are. -/
structure Parts (target : α) (grid : List α) (low high : Nat) : Prop where
  below : ∀ i a, i < low → grid[i]? = some a → a ≤ target
  above : ∀ i a, high ≤ i → grid[i]? = some a → target < a

theorem le_of_index_le (rising : grid.Pairwise (· < ·)) {i j : Nat} {a b : α} (order : i ≤ j)
    (first : grid[i]? = some a) (second : grid[j]? = some b) : a ≤ b := by
  obtain ⟨inside, rfl⟩ := List.getElem?_eq_some_iff.mp first
  obtain ⟨inside', rfl⟩ := List.getElem?_eq_some_iff.mp second
  rcases Nat.lt_or_eq_of_le order with further | rfl
  · exact le_of_lt (List.pairwise_iff_getElem.mp rising i j inside inside' further)
  · exact le_refl _

theorem notAbove_iff {point : α} : notAbove point target = true ↔ point ≤ target := by
  simp [notAbove]

/-- Each halving keeps to the part of the grid in which the points go above the target. -/
theorem parts_firstAbove (rising : grid.Pairwise (· < ·)) {fuel low high : Nat}
    (ordered : low ≤ high) (inside : high ≤ grid.length) (enough : high - low ≤ fuel)
    (parts : Parts target grid low high) :
    Parts target grid (firstAbove grid target fuel low high)
      (firstAbove grid target fuel low high) ∧ firstAbove grid target fuel low high ≤ high := by
  induction fuel generalizing low high with
  | zero =>
      obtain rfl : low = high := by omega
      exact ⟨parts, ordered⟩
  | succ fuel ih =>
      rw [firstAbove]
      by_cases left : low < high
      · have middle : low + (high - low) / 2 < grid.length := by omega
        have point := List.getElem?_eq_getElem middle
        simp only [left, point, ↓reduceIte]
        split
        · next low' =>
            refine ih (by omega) inside (by omega) ⟨?_, parts.above⟩
            intro i a before here
            exact le_trans (le_of_index_le rising (by omega) here point) (notAbove_iff.mp low')
        · next high' =>
            rw [notAbove_iff, not_le] at high'
            have after (i : Nat) (a : α) (beyond : low + (high - low) / 2 ≤ i)
                (here : grid[i]? = some a) : target < a :=
              lt_of_lt_of_le high' (le_of_index_le rising beyond point here)
            obtain ⟨found, bound⟩ := ih (show low ≤ low + (high - low) / 2 by omega) (by omega)
              (by omega) ⟨parts.below, after⟩
            exact ⟨found, by omega⟩
      · obtain rfl : low = high := by omega
        simp only [left, ↓reduceIte]
        exact ⟨parts, ordered⟩

theorem parts_countNotAbove (rising : grid.Pairwise (· < ·)) (target : α) :
    Parts target grid (countNotAbove grid target) (countNotAbove grid target) ∧
      countNotAbove grid target ≤ grid.length := by
  refine parts_firstAbove rising (Nat.zero_le _) (Nat.le_refl _) (Nat.sub_le _ _) ⟨?_, ?_⟩
  · intro i a before _
    omega
  · intro i a beyond here
    rw [List.getElem?_eq_none beyond] at here
    cases here

/-- The interval around the target starts at the last point that is not above it, but lies between
the first two points or the last two if the target lies beyond them. -/
theorem interval_spec (rising : grid.Pairwise (· < ·)) (several : 2 ≤ grid.length) (target : α) :
    interval grid target + 1 < grid.length ∧
    (∀ a, 0 < interval grid target → grid[interval grid target]? = some a → a ≤ target) ∧
    ∀ b, interval grid target + 2 < grid.length → grid[interval grid target + 1]? = some b →
      target < b := by
  obtain ⟨parts, _⟩ := parts_countNotAbove rising target
  have start : interval grid target =
      min (countNotAbove grid target - 1) (grid.length - 2) := by
    rw [interval, clamp]
    omega
  refine ⟨by omega, ?_, ?_⟩
  · intro a later here
    exact parts.below _ a (by omega) here
  · intro b earlier here
    exact parts.above _ b (by omega) here

/-- A point before the interval is no nearer than its lower end, one behind it no nearer than its
upper end. -/
theorem ends_le (rising : grid.Pairwise (· < ·)) (several : 2 ≤ grid.length) (target : α)
    {a b x : α} (first : grid[interval grid target]? = some a)
    (second : grid[interval grid target + 1]? = some b) (member : x ∈ grid) :
    |target - a| ≤ |target - x| ∨ |target - b| ≤ |target - x| := by
  obtain ⟨_, low, high⟩ := interval_spec rising several target
  obtain ⟨j, point⟩ := List.getElem?_of_mem member
  have inside := (List.getElem?_eq_some_iff.mp point).1
  rcases Nat.lt_or_ge j (interval grid target) with before | behind
  · have order := le_of_index_le rising (Nat.le_of_lt before) point first
    have reached := low a (by omega) first
    exact .inl (Set.abs_sub_right_of_mem_uIcc (Set.mem_uIcc.mpr (.inl ⟨order, reached⟩)))
  · rcases Nat.eq_or_lt_of_le behind with rfl | after
    · rw [first, Option.some.injEq] at point
      exact .inl (le_of_eq (by rw [point]))
    · rcases Nat.eq_or_lt_of_le (Nat.succ_le_of_lt after) with rfl | further
      · rw [second, Option.some.injEq] at point
        exact .inr (le_of_eq (by rw [point]))
      · have order := le_of_index_le rising (Nat.le_of_lt further) second point
        have missed := le_of_lt (high b (by omega) second)
        exact .inr (Set.abs_sub_right_of_mem_uIcc (Set.mem_uIcc.mpr (.inr ⟨missed, order⟩)))

/-- The lower of two points is at most as far from the target as the upper exactly if the target is
at most as far above the one as it is below the other. -/
theorem nearer_iff {a b : α} (below : a < b) :
    target - a ≤ b - target ↔ |target - a| ≤ |target - b| := by
  rw [← sq_le_sq]
  constructor
  · intro near
    nlinarith
  · intro near
    nlinarith

/-- The end of the interval that is taken is no farther from the target than any other point. -/
theorem nearest_le (rising : grid.Pairwise (· < ·)) (several : 2 ≤ grid.length) (target : α) :
    ∃ c, grid[nearest grid target (interval grid target)]? = some c ∧
      ∀ x ∈ grid, |target - c| ≤ |target - x| := by
  obtain ⟨inside, _, _⟩ := interval_spec rising several target
  have first := List.getElem?_eq_getElem (Nat.lt_of_succ_lt inside)
  have second := List.getElem?_eq_getElem inside
  have below := List.pairwise_iff_getElem.mp rising _ _ (Nat.lt_of_succ_lt inside) inside
    (Nat.lt_succ_self _)
  have ends (x : α) := ends_le rising several target (x := x) first second
  simp only [nearest, first, second]
  split
  · next near =>
      rw [nearer_iff below] at near
      exact ⟨_, first, fun x member => (ends x member).elim id (le_trans near)⟩
  · next far =>
      rw [nearer_iff below, not_le] at far
      exact ⟨_, second, fun x member => (ends x member).elim (le_trans (le_of_lt far)) id⟩

/-- The nearest point is among those that take part. -/
theorem nearest_between (several : 2 ≤ grid.length) (target : α) {count : Nat} (some : 1 ≤ count)
    (enough : count ≤ grid.length) :
    firstPoint grid target count ≤ nearest grid target (interval grid target) ∧
      nearest grid target (interval grid target) < firstPoint grid target count + count := by
  have inside : interval grid target ≤ grid.length - 2 := clamp_le _ _
  have ends : nearest grid target (interval grid target) = interval grid target ∨
      nearest grid target (interval grid target) = interval grid target + 1 := by
    rw [nearest]
    split
    · split
      · exact .inl rfl
      · exact .inr rfl
    · exact .inl rfl
  rw [firstPoint]
  simp only [clamp]
  split <;> omega

theorem stencil_eq_ite (several : 2 ≤ grid.length) (target : α) (count : Nat) :
    stencil grid target count =
      if grid[0] < grid[grid.length - 1] then List.range' (firstPoint grid target count) count
      else List.range' (grid.length - count - firstPoint grid.reverse target count) count := by
  rw [stencil, List.head?_eq_getElem?, List.getLast?_eq_getElem?,
    List.getElem?_eq_getElem (show 0 < grid.length by omega),
    List.getElem?_eq_getElem (show grid.length - 1 < grid.length by omega)]

theorem stencil_of_rising (rising : grid.Pairwise (· < ·)) (several : 2 ≤ grid.length) (target : α)
    (count : Nat) :
    stencil grid target count = List.range' (firstPoint grid target count) count := by
  have ends := List.pairwise_iff_getElem.mp rising 0 (grid.length - 1) (by omega) (by omega)
    (by omega)
  rw [stencil_eq_ite several]
  exact if_pos ends

theorem stencil_of_falling (falling : grid.Pairwise (fun a b => b < a)) (several : 2 ≤ grid.length)
    (target : α) (count : Nat) : stencil grid target count =
      List.range' (grid.length - count - firstPoint grid.reverse target count) count := by
  have ends := List.pairwise_iff_getElem.mp falling 0 (grid.length - 1) (by omega) (by omega)
    (by omega)
  rw [stencil_eq_ite several]
  exact if_neg (lt_asymm ends)

/-- Whichever way a grid runs, a point that no other is nearer than takes part. -/
theorem exists_nearest_mem_stencil
    (strict : grid.Pairwise (· < ·) ∨ grid.Pairwise (fun a b => b < a)) (target : α) {count : Nat}
    (some : 1 ≤ count) (enough : count ≤ grid.length) :
    ∃ i ∈ stencil grid target count, ∃ c, grid[i]? = .some c ∧
      ∀ x ∈ grid, |target - c| ≤ |target - x| := by
  rcases Nat.lt_or_eq_of_le (Nat.le_trans some enough) with several | single
  · rcases strict with rising | falling
    · obtain ⟨c, here, near⟩ := nearest_le rising several target
      obtain ⟨lower, upper⟩ := nearest_between several target some enough
      refine ⟨_, ?_, c, here, near⟩
      rw [stencil_of_rising rising several, List.mem_range'_1]
      exact ⟨lower, upper⟩
    · have several' : 2 ≤ grid.reverse.length := by rwa [List.length_reverse]
      obtain ⟨c, here, near⟩ := nearest_le (List.pairwise_reverse.mpr falling) several' target
      obtain ⟨lower, upper⟩ := nearest_between several' target some
        (show count ≤ grid.reverse.length by rwa [List.length_reverse])
      have inside := (List.getElem?_eq_some_iff.mp here).1
      have last : firstPoint grid.reverse target count ≤ grid.reverse.length - count :=
        clamp_le _ _
      rw [List.getElem?_reverse (by rwa [List.length_reverse] at inside)] at here
      refine ⟨_, ?_, c, here, fun x member => near x (List.mem_reverse.mpr member)⟩
      rw [stencil_of_falling falling several, List.mem_range'_1]
      rw [List.length_reverse] at inside last
      omega
  · obtain ⟨a, rfl⟩ := List.length_eq_one_iff.mp single.symm
    obtain rfl : count = 1 := Nat.le_antisymm enough some
    refine ⟨0, by rw [stencil_singleton]; exact List.mem_singleton_self 0, a, rfl, ?_⟩
    intro x member
    rw [List.mem_singleton.mp member]

section Node

variable {k : Nat} {order : Int} {axis : String} {p : Position α}
  (found : position grid target order axis = .ok p)
include found

/-- A position takes in the point that the target is at. -/
theorem mem_indices_of_point
    (strict : grid.Pairwise (· < ·) ∨ grid.Pairwise (fun a b => b < a))
    (point : grid[k]? = some target) : k ∈ p.indices := by
  have distinct : grid.Nodup := strict.elim (.imp ne_of_lt) (.imp ne_of_gt)
  obtain ⟨lower, upper⟩ := (position_eq_ok.mp found).1
  obtain ⟨i, takesPart, c, here, near⟩ := exists_nearest_mem_stencil strict target
    (Nat.le_add_left 1 order.toNat) (show order.toNat + 1 ≤ grid.length by omega)
  have none := near target (List.mem_of_getElem? point)
  rw [sub_self, abs_zero, abs_nonpos_iff, sub_eq_zero] at none
  have bound := (List.getElem?_eq_some_iff.mp point).1
  rw [indices_eq_stencil found,
    (List.getElem?_inj bound distinct).mp (point.trans (none ▸ here).symm)]
  exact takesPart

/-- The polynomial through all terms that take part is reproduced. At a node it is one term. -/
theorem total_of_mem_indices (distinct : grid.Nodup) (point : grid[k]? = some target)
    (member : k ∈ p.indices) (term : Nat → α) : p.total term = term k := by
  have lower := (position_eq_ok.mp found).1.1
  have count := length_indices found
  have injective : Set.InjOn (grid.getD · 0) (p.indices.toFinset : Set Nat) := by
    intro i inside j inside' same
    exact (List.getD_inj (lt_of_mem_indices found (List.mem_toFinset.mp inside))
      (lt_of_mem_indices found (List.mem_toFinset.mp inside')) distinct).mp same
  have degree : (Lagrange.interpolate p.indices.toFinset (grid.getD · 0) term).natDegree ≤
      p.indices.toFinset.card - 1 :=
    Polynomial.natDegree_le_of_degree_le (Lagrange.degree_interpolate_le term injective)
  have bound : ((Lagrange.interpolate p.indices.toFinset (grid.getD · 0) term).natDegree : Int) ≤
      order := by
    have card := List.toFinset_card_le p.indices
    omega
  have through {i : Nat} {a : α} (here : grid[i]? = some a) (takesPart : i ∈ p.indices) :
      (Lagrange.interpolate p.indices.toFinset (grid.getD · 0) term).eval a = term i := by
    have value : grid.getD i 0 = a := by rw [List.getD_eq_getElem?_getD, here, Option.getD_some]
    rw [← value]
    exact Lagrange.eval_interpolate_at_node term injective (List.mem_toFinset.mpr takesPart)
  rw [position_reproduces distinct found bound fun i a here takesPart =>
    (through here takesPart).symm]
  exact through point member

/-- At a point of the grid a position takes that point for the sum. -/
theorem position_node (strict : grid.Pairwise (· < ·) ∨ grid.Pairwise (fun a b => b < a))
    (point : grid[k]? = some target) : k ∈ p.indices ∧ ∀ term, p.total term = term k := by
  have member := mem_indices_of_point found strict point
  have distinct : grid.Nodup := strict.elim (.imp ne_of_lt) (.imp ne_of_gt)
  exact ⟨member, total_of_mem_indices found distinct point member⟩

end Node

end Absorption.Grid
