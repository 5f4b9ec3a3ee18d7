import Mathlib.Data.List.Sort
import Absorption.Proofs.Grid.Stencil

set_option autoImplicit false

/-!
The choice of a stencil, told by the points of the grid in ascending order. The points that take
part stand evenly around the interval of the target, or around the nearer end of it, as far as the
grid allows (`Centred`). Both directions of a grid make the same choice (`position_choice`).
-/

namespace Absorption.Grid

/-- The member of `[0, high]` that is nearest to a number. -/
def NearestMember (k high : Nat) (wanted : Int) : Prop :=
  k ≤ high ∧ ∀ j ≤ high, ((k : Int) - wanted).natAbs ≤ ((j : Int) - wanted).natAbs

theorem nearestMember_clamp (wanted : Int) (high : Nat) :
    NearestMember (clamp wanted high) high wanted := by
  refine ⟨clamp_le _ _, ?_⟩
  intro j inside
  rw [clamp]
  omega

theorem NearestMember.eq_clamp {k high : Nat} {wanted : Int}
    (near : NearestMember k high wanted) : k = clamp wanted high := by
  obtain ⟨inside, least⟩ := near
  have bound := least (clamp wanted high) (clamp_le _ _)
  rw [clamp] at bound ⊢
  omega

section Window

variable {α : Type} {grid : List α} {c : α}

/-- A point of the grid is among those that take part. -/
def TakesPart (grid : List α) (indices : List Nat) (c : α) : Prop :=
  ∃ j ∈ indices, grid[j]? = some c

theorem takesPart_range' (distinct : grid.Nodup) {q : Nat} (here : grid[q]? = some c)
    (first count : Nat) :
    TakesPart grid (List.range' first count) c ↔ first ≤ q ∧ q < first + count := by
  rw [← List.mem_range'_1]
  constructor
  · rintro ⟨j, member, here'⟩
    have bound := (List.getElem?_eq_some_iff.mp here).1
    rwa [(List.getElem?_inj bound distinct).mp (here.trans here'.symm)]
  · intro member
    exact ⟨q, member, here⟩

/-- Mirrored indices of the reversed grid are indices of the same points. -/
theorem takesPart_reverse {first count : Nat} (inside : first + count ≤ grid.length) :
    TakesPart grid.reverse (List.range' first count) c ↔
      TakesPart grid (List.range' (grid.length - count - first) count) c := by
  constructor
  · rintro ⟨j, member, here⟩
    rw [List.mem_range'_1] at member
    rw [List.getElem?_reverse (by omega)] at here
    exact ⟨grid.length - 1 - j, List.mem_range'_1.mpr (by omega), here⟩
  · rintro ⟨j, member, here⟩
    rw [List.mem_range'_1] at member
    refine ⟨grid.length - 1 - j, List.mem_range'_1.mpr (by omega), ?_⟩
    rw [List.getElem?_reverse (by omega), ← here]
    congr 1
    omega

end Window

variable {α : Type} [Exact α] {grid : List α} {target : α}

/-- The points of a grid in ascending order. -/
def ascending (grid : List α) : List α := grid.mergeSort fun a b => decide (a ≤ b)

/-- Counted in ascending order, `i` is the last point that is not above the target, cut to the lower
ends of the intervals; `a` and `b` are the ends of the interval there. -/
structure Bracket (grid : List α) (target : α) (i : Nat) (a b : α) : Prop where
  last : (i : Int) =
    max 0 (min ((grid.countP fun c => decide (c ≤ target) : Int) - 1) (grid.length - 2))
  lower : (ascending grid)[i]? = some a
  upper : (ascending grid)[i + 1]? = some b
  around : a ≤ target ∧ target < b ∨ i = 0 ∧ target < a ∨ i + 2 = grid.length ∧ b ≤ target

/-- Counted in ascending order, the points that take part are the `count` points from `start` on. An
even number of them stands around the bracket, an odd number around its nearer end, unless the grid
ends before. -/
structure Centred (grid : List α) (target : α) (count : Nat) (indices : List Nat) (i : Nat)
    (a b : α) (start : Nat) : Prop where
  window : ∀ (q : Nat) (c : α), (ascending grid)[q]? = some c →
    (TakesPart grid indices c ↔ start ≤ q ∧ q < start + count)
  even : count % 2 = 0 →
    NearestMember start (grid.length - count) ((i : Int) + 1 - (count / 2 : Nat))
  odd : count % 2 = 1 → NearestMember start (grid.length - count)
    ((if |target - a| ≤ |target - b| then (i : Int) else i + 1) - ((count - 1) / 2 : Nat))

theorem ascending_of_rising (rising : grid.Pairwise (· < ·)) : ascending grid = grid :=
  List.mergeSort_of_pairwise (rising.imp fun below => decide_eq_true (le_of_lt below))

theorem ascending_of_falling (falling : grid.Pairwise (fun a b => b < a)) :
    ascending grid = grid.reverse := by
  have sorted : (ascending grid).Pairwise (fun a b => decide (a ≤ b) = true) :=
    List.pairwise_mergeSort (by simpa using fun a b c => le_trans) (by simpa using le_total) grid
  refine List.Perm.eq_of_pairwise (fun a b _ _ => le_antisymm)
    (sorted.imp of_decide_eq_true) ?_ ?_
  · exact List.pairwise_reverse.mpr (falling.imp le_of_lt)
  · exact (List.mergeSort_perm grid _).trans (List.reverse_perm grid).symm

/-- The search by halves counts the points that are not above the target. -/
theorem countNotAbove_eq_countP (rising : grid.Pairwise (· < ·)) (target : α) :
    countNotAbove grid target = grid.countP fun c => decide (c ≤ target) := by
  obtain ⟨parts, inside⟩ := parts_countNotAbove rising target
  have before : (grid.take (countNotAbove grid target)).countP (fun c => decide (c ≤ target)) =
      countNotAbove grid target := by
    rw [List.countP_eq_length.mpr, List.length_take_of_le inside]
    intro c member
    obtain ⟨k, bound, rfl⟩ := List.getElem_of_mem member
    rw [List.length_take_of_le inside] at bound
    rw [List.getElem_take]
    exact decide_eq_true (parts.below k _ bound (List.getElem?_eq_getElem _))
  have behind : (grid.drop (countNotAbove grid target)).countP (fun c => decide (c ≤ target)) =
      0 := by
    rw [List.countP_eq_zero]
    intro c member
    obtain ⟨k, bound, rfl⟩ := List.getElem_of_mem member
    rw [List.getElem_drop, decide_eq_true_eq, not_le]
    exact parts.above _ _ (Nat.le_add_right _ k) (List.getElem?_eq_getElem _)
  calc countNotAbove grid target
      = (grid.take (countNotAbove grid target)).countP (fun c => decide (c ≤ target)) +
          (grid.drop (countNotAbove grid target)).countP (fun c => decide (c ≤ target)) := by
        rw [before, behind, Nat.add_zero]
    _ = grid.countP fun c => decide (c ≤ target) := by
        rw [← List.countP_append, List.take_append_drop]

section Rising

variable (rising : grid.Pairwise (· < ·))
include rising

/-- The interval that is taken is the bracket of the target. -/
theorem bracket_interval (several : 2 ≤ grid.length) (target : α) :
    ∃ a b, Bracket grid target (interval grid target) a b ∧ a < b := by
  obtain ⟨inside, low, high⟩ := interval_spec rising several target
  have first := List.getElem?_eq_getElem (Nat.lt_of_succ_lt inside)
  have second := List.getElem?_eq_getElem inside
  refine ⟨grid[interval grid target], grid[interval grid target + 1], ⟨?_, ?_, ?_, ?_⟩,
    List.pairwise_iff_getElem.mp rising _ _ _ inside (Nat.lt_succ_self _)⟩
  · rw [interval, clamp, countNotAbove_eq_countP rising]
    omega
  · rw [ascending_of_rising rising]
    exact first
  · rw [ascending_of_rising rising]
    exact second
  · rcases lt_or_ge target grid[interval grid target] with below | reached
    · refine .inr (.inl ⟨?_, below⟩)
      by_contra later
      exact not_le.mpr below (low _ (Nat.pos_of_ne_zero later) first)
    · rcases lt_or_ge target grid[interval grid target + 1] with missed | behind
      · exact .inl ⟨reached, missed⟩
      · refine .inr (.inr ⟨?_, behind⟩)
        by_contra earlier
        exact not_lt.mpr behind (high _ (by omega) second)

/-- The points that take part from a grid that increases are centred as far as it allows. -/
theorem centred_firstPoint (target : α) (count : Nat) {a b : α} (below : a < b)
    (bracket : Bracket grid target (interval grid target) a b) :
    Centred grid target count (List.range' (firstPoint grid target count) count)
      (interval grid target) a b (firstPoint grid target count) := by
  have first := bracket.lower
  have second := bracket.upper
  rw [ascending_of_rising rising] at first second
  refine ⟨?_, ?_, ?_⟩
  · intro q c here
    rw [ascending_of_rising rising] at here
    exact takesPart_range' (rising.imp ne_of_lt) here _ _
  · intro even
    have wanted : (interval grid target : Int) - ((count / 2 : Nat) - 1) =
        interval grid target + 1 - (count / 2 : Nat) := by omega
    simp only [firstPoint, even, ↓reduceIte, wanted]
    exact nearestMember_clamp _ _
  · intro odd
    have chosen : (nearest grid target (interval grid target) : Int) =
        if |target - a| ≤ |target - b| then (interval grid target : Int)
        else interval grid target + 1 := by
      simp only [nearest, first, second, nearer_iff below]
      split <;> rfl
    have wanted : count / 2 = (count - 1) / 2 := by omega
    simp only [firstPoint, odd, Nat.one_ne_zero, ↓reduceIte, chosen, wanted]
    exact nearestMember_clamp _ _

end Rising

/-- A stencil of a grid of several points is centred, whichever way the grid runs. -/
theorem exists_centred (strict : grid.Pairwise (· < ·) ∨ grid.Pairwise (fun a b => b < a))
    (several : 2 ≤ grid.length) (target : α) {count : Nat} (enough : count ≤ grid.length) :
    ∃ i a b start, Bracket grid target i a b ∧
      Centred grid target count (stencil grid target count) i a b start := by
  rcases strict with rising | falling
  · obtain ⟨a, b, bracket, below⟩ := bracket_interval rising several target
    rw [stencil_of_rising rising several]
    exact ⟨_, a, b, _, bracket, centred_firstPoint rising target count below bracket⟩
  · -- The reversed grid has the same points in ascending order, so its bracket and window serve.
    have rising := List.pairwise_reverse.mpr falling
    have several' : 2 ≤ grid.reverse.length := by rwa [List.length_reverse]
    have points : ascending grid = ascending grid.reverse := by
      rw [ascending_of_falling falling, ascending_of_rising rising]
    obtain ⟨a, b, bracket, below⟩ := bracket_interval rising several' target
    obtain ⟨window, even, odd⟩ := centred_firstPoint rising target count below bracket
    obtain ⟨last, lower, upper, around⟩ := bracket
    have inside : firstPoint grid.reverse target count + count ≤ grid.length := by
      have bound : firstPoint grid.reverse target count ≤ grid.reverse.length - count :=
        clamp_le _ _
      rw [List.length_reverse] at bound
      omega
    rw [List.countP_reverse, List.length_reverse] at last
    rw [List.length_reverse] at around even odd
    refine ⟨_, a, b, _, ⟨last, points ▸ lower, points ▸ upper, around⟩, ?_, even, odd⟩
    intro q c here
    rw [stencil_of_falling falling several, ← takesPart_reverse inside]
    exact window q c (points ▸ here)

/-- Of an even number of points both ends of the bracket take part. -/
theorem Centred.ends {count i start : Nat} {indices : List Nat} {a b : α}
    (centred : Centred grid target count indices i a b start) (bracket : Bracket grid target i a b)
    (even : count % 2 = 0) (some : 1 ≤ count) (enough : count ≤ grid.length) :
    TakesPart grid indices a ∧ TakesPart grid indices b := by
  have first := (centred.even even).eq_clamp
  have inside := (List.getElem?_eq_some_iff.mp bracket.upper).1
  rw [ascending, List.length_mergeSort] at inside
  rw [clamp] at first
  exact ⟨(centred.window i a bracket.lower).mpr (by omega),
    (centred.window (i + 1) b bracket.upper).mpr (by omega)⟩

/-- A position is refused exactly if the grid has too few points for the order. Otherwise
neighbouring points take part, one more than the order, the nearest point among them; and the points
are centred on the target as far as the grid allows. -/
theorem position_choice (strict : grid.Pairwise (· < ·) ∨ grid.Pairwise (fun a b => b < a))
    (target : α) (order : Int) (axis : String) :
    (position grid target order axis = refuse (.insufficientGrid axis grid.length order) ↔
      order < 0 ∨ grid.length ≤ order) ∧
    (0 ≤ order → order < grid.length → ∃ p first, position grid target order axis = .ok p ∧
      first + (order.toNat + 1) ≤ grid.length ∧ p.indices = List.range' first (order.toNat + 1) ∧
      (∃ c, TakesPart grid p.indices c ∧ ∀ x ∈ grid, |target - c| ≤ |target - x|) ∧
      (2 ≤ grid.length → ∃ i a b start, Bracket grid target i a b ∧
        Centred grid target (order.toNat + 1) p.indices i a b start ∧
        ((order.toNat + 1) % 2 = 0 →
          TakesPart grid p.indices a ∧ TakesPart grid p.indices b))) := by
  constructor
  · constructor
    · intro refused
      by_contra admitted
      obtain ⟨p, found, _⟩ := exists_position target axis (show 0 ≤ order by omega)
        (show order < grid.length by omega)
      rw [refused] at found
      simp at found
    · intro missed
      rw [position, if_pos (by omega)]
  · intro lower upper
    have some : 1 ≤ order.toNat + 1 := Nat.le_add_left 1 _
    have enough : order.toNat + 1 ≤ grid.length := by omega
    have nonempty := List.ne_nil_of_length_pos (Nat.lt_of_lt_of_le some enough)
    obtain ⟨p, found, chosen⟩ := exists_position target axis lower upper
    obtain ⟨first, inside, points⟩ := stencil_eq_range' target nonempty enough
    obtain ⟨j, member, c, here, near⟩ := exists_nearest_mem_stencil strict target some enough
    rw [← chosen] at points member
    refine ⟨p, first, found, inside, points, ⟨c, ⟨j, member, here⟩, near⟩, ?_⟩
    intro several
    obtain ⟨i, a, b, start, bracket, centred⟩ := exists_centred strict several target enough
    rw [← chosen] at centred
    exact ⟨i, a, b, start, bracket, centred,
      fun even => centred.ends bracket even some enough⟩

/-- Three points of a grid that decreases, for a target midway between two of them. -/
theorem position_choice_sample : ∃ p i a b start,
    ([8, 4, 2, 1] : List ℚ).Pairwise (fun a b => b < a) ∧
    position [8, 4, 2, 1] (3 : ℚ) 2 "grid" = .ok p ∧ p.indices = [1, 2, 3] ∧
    Bracket [8, 4, 2, 1] (3 : ℚ) i a b ∧
    Centred [8, 4, 2, 1] (3 : ℚ) 3 p.indices i a b start := by
  have falling : ([8, 4, 2, 1] : List ℚ).Pairwise (fun a b => b < a) := by decide +kernel
  have indices : (position [8, 4, 2, 1] (3 : ℚ) 2 "grid").toOption.map (·.indices) =
      some [1, 2, 3] := by decide +kernel
  obtain ⟨_, succeeds⟩ := position_choice (.inr falling) 3 2 "grid"
  obtain ⟨p, _, found, _, _, _, centred⟩ := succeeds (by decide) (by decide)
  obtain ⟨i, a, b, start, bracket, centred, _⟩ := centred (by decide)
  rw [found] at indices
  exact ⟨p, i, a, b, start, falling, found, Option.some.inj indices, bracket, centred⟩

end Absorption.Grid
