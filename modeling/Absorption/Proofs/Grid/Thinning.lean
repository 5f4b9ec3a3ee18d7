import Absorption.Proofs.Numbers
import Absorption.Proofs.Grid.Scan

set_option autoImplicit false

/-!
The search in a part of a grid. Points that do not go down are each found at the first point of the
whole grid that is near, wherever the search for it started (`Scan.foremost`). So some of these
points, sought among those that were found, are found again (`Scan.thin`).
-/

namespace Absorption.Grid

variable {α : Type} [Scalar α] {tolerance : α} {grid thinned : List α}

/-- The index of the first point that is near enough. -/
structure Foremost (tolerance : α) (grid : List α) (x : α) (j : Nat) : Prop where
  near : ∃ a, grid[j]? = some a ∧ ¬ tolerance < Scalar.distance x a
  far : ∀ k b, k < j → grid[k]? = some b → tolerance < Scalar.distance x b

/-- What is passed on the way to a point that is near stays too far from all points above. -/
theorem far_of_passed [RoundedScalar α] {x y a b : α} (finite : Scalar.IsFinite x)
    (finite' : Scalar.IsFinite y) (rises : x ≤ y) (below : b ≤ a)
    (near : ¬ tolerance < Scalar.distance x a) (far : tolerance < Scalar.distance x b) :
    tolerance < Scalar.distance y b := by
  obtain ⟨number, _⟩ := OrderedScalar.le_self below
  obtain ⟨first, _⟩ := OrderedScalar.le_self rises
  by_cases above : x < b
  · -- Then the point beyond it is farther still, and was not near.
    have beyond : x < a := OrderedScalar.lt_of_lt_of_le above below
    have farther := RoundedScalar.sub_le_sub_left RoundedScalar.finite_zero
      (RoundedScalar.sub_le_sub_left finite below)
    rw [OrderedScalar.distance_of_lt above] at far
    rw [OrderedScalar.distance_of_lt beyond] at near
    exact absurd (OrderedScalar.lt_of_lt_of_le far farther) near
  · have under : b ≤ y := OrderedScalar.le_trans (OrderedScalar.le_of_not_lt number first above)
      rises
    have above' : ¬ y < b := fun less => (OrderedScalar.lt_iff.mp less).2 under
    rw [OrderedScalar.distance_of_not_lt above] at far
    rw [OrderedScalar.distance_of_not_lt above']
    exact OrderedScalar.lt_of_lt_of_le far
      (RoundedScalar.sub_le_sub_right finite finite' number rises)

/-- No point before the first that is near one is near a greater one. -/
theorem Foremost.far_of_le [RoundedScalar α] {x y : α} {j : Nat}
    (first : Foremost tolerance grid x j) (sorted : grid.Pairwise (· ≤ ·))
    (finite : Scalar.IsFinite x) (finite' : Scalar.IsFinite y) (rises : x ≤ y) (k : Nat) (b : α)
    (below : k < j) (value : grid[k]? = some b) : tolerance < Scalar.distance y b := by
  obtain ⟨a, here, near⟩ := first.near
  obtain ⟨inside, rfl⟩ := List.getElem?_eq_some_iff.mp here
  obtain ⟨inside', rfl⟩ := List.getElem?_eq_some_iff.mp value
  exact far_of_passed finite finite' rises
    (List.pairwise_iff_getElem.mp sorted k j inside' inside below) near (first.far k _ below value)

/-- No search for points that do not go down skips one that is near. -/
theorem Scan.foremost [RoundedScalar α] {start : Nat} {new : List α} {found : List Nat}
    (scan : Scan tolerance grid start new found) (sorted : grid.Pairwise (· ≤ ·))
    (rising : new.Pairwise (· ≤ ·)) (finite : ∀ x ∈ new, Scalar.IsFinite x)
    (passed : ∀ x ∈ new, ∀ k b, k < start → grid[k]? = some b → tolerance < Scalar.distance x b) :
    List.Forall₂ (Foremost tolerance grid) new found := by
  induction scan with
  | nil => exact .nil
  | @cons start j x a new rest forward skipped here near further ih =>
      have first : Foremost tolerance grid x j := by
        refine ⟨⟨a, here, near⟩, ?_⟩
        intro k b below value
        by_cases early : k < start
        · exact passed x (.head _) k b early value
        · exact skipped k b (by omega) below value
      have finite' (y : α) (member : y ∈ new) := finite y (.tail _ member)
      refine .cons first (ih rising.of_cons finite' fun y member => ?_)
      exact first.far_of_le sorted (finite x (.head _)) (finite' y member)
        (List.rel_of_pairwise_cons rising member)

/-- The first points that are near are what a search finds, if they ascend. -/
theorem scan_of_foremost {start : Nat} {new : List α} {found : List Nat}
    (each : List.Forall₂ (Foremost tolerance grid) new found) (ascending : found.Pairwise (· ≤ ·))
    (lower : ∀ j ∈ found, start ≤ j) : Scan tolerance grid start new found := by
  induction each generalizing start with
  | nil => exact .nil start
  | @cons x j new rest first _ ih =>
      obtain ⟨a, here, near⟩ := first.near
      refine .cons (lower j (.head _)) ?_ here near (ih ascending.of_cons ?_)
      · intro k b _ below value
        exact first.far k b below value
      · intro i later
        exact List.rel_of_pairwise_cons ascending later

/-- Among points of the grid, in their order, a point is found where it was. -/
theorem Foremost.thin {x : α} {j k : Nat} {found : List Nat} (first : Foremost tolerance grid x j)
    (strict : found.Pairwise (· < ·))
    (points : ∀ l i : Nat, found[l]? = some i → thinned[l]? = grid[i]?)
    (index : found[k]? = some j) : Foremost tolerance thinned x k := by
  obtain ⟨a, here, near⟩ := first.near
  refine ⟨⟨a, by rw [points k j index, here], near⟩, ?_⟩
  intro l b below value
  obtain ⟨upper, rfl⟩ := List.getElem?_eq_some_iff.mp index
  have inside : l < found.length := by omega
  have value' := points l found[l] (List.getElem?_eq_getElem inside)
  rw [value] at value'
  exact first.far found[l] b (List.pairwise_iff_getElem.mp strict l k inside upper below)
    value'.symm

theorem exists_sublist_of_forall₂ {β γ : Type} {R : β → γ → Prop} {xs xs' : List β} {ys : List γ}
    (related : List.Forall₂ R xs ys) (part : xs'.Sublist xs) :
    ∃ ys', List.Forall₂ R xs' ys' ∧ ys'.Sublist ys := by
  induction part generalizing ys with
  | slnil => exact ⟨[], .nil, List.nil_sublist ys⟩
  | cons x _ ih =>
      cases related with
      | cons _ rest =>
          obtain ⟨ys', kept, part⟩ := ih rest
          exact ⟨ys', kept, part.cons _⟩
  | cons_cons x _ ih =>
      cases related with
      | cons first rest =>
          obtain ⟨ys', kept, part⟩ := ih rest
          exact ⟨_, .cons first kept, part.cons_cons _⟩

/-- Some of the points that were sought are found in the grid and among those that were found, at
the same points. -/
theorem Scan.thin [RoundedScalar α] {new new' : List α} {found : List Nat}
    (scan : Scan tolerance grid 0 new found) (increasing : grid.Pairwise (· < ·))
    (rising : new.Pairwise (· < ·)) (finite : ∀ x ∈ new, Scalar.IsFinite x) (distinct : found.Nodup)
    (points : ∀ l i : Nat, found[l]? = some i → thinned[l]? = grid[i]?) (part : new'.Sublist new) :
    ∃ own whole, Scan tolerance thinned 0 new' own ∧ Scan tolerance grid 0 new' whole ∧
      List.Forall₂ (fun k j => found[k]? = some j) own whole := by
  have strict := scan.strict_of_nodup distinct
  have first := scan.foremost (increasing.imp fun below => (OrderedScalar.lt_iff.mp below).1)
    (rising.imp fun below => (OrderedScalar.lt_iff.mp below).1) finite
    (fun _ _ k _ below _ => absurd below (Nat.not_lt_zero k))
  have both : List.Forall₂ (fun x p => Foremost tolerance thinned x p.2 ∧
      Foremost tolerance grid x p.1) new found.zipIdx := by
    rw [List.forall₂_iff_get] at first ⊢
    refine ⟨by rw [List.length_zipIdx, first.1], ?_⟩
    intro k inside inside'
    have whole := first.2 k inside (first.1 ▸ inside)
    rw [List.get_eq_getElem, List.get_eq_getElem] at whole ⊢
    rw [List.getElem_zipIdx, Nat.zero_add]
    exact ⟨whole.thin strict points (List.getElem?_eq_getElem _), whole⟩
  obtain ⟨ps, kept, some⟩ := exists_sublist_of_forall₂ both part
  have places : (ps.map (·.2)).Sublist (List.range' 0 found.length) := by
    rw [← List.zipIdx_map_snd]
    exact some.map _
  have indices : (ps.map (·.1)).Sublist found := by
    have all := some.map (·.1)
    rwa [List.zipIdx_map_fst] at all
  refine ⟨ps.map (·.2), ps.map (·.1), ?_, ?_, ?_⟩
  · refine scan_of_foremost ?_ ?_ (fun _ _ => Nat.zero_le _)
    · exact List.forall₂_map_right_iff.mpr (kept.imp fun _ _ both => both.1)
    · exact (List.Pairwise.sublist places List.pairwise_lt_range').imp Nat.le_of_lt
  · refine scan_of_foremost ?_ ?_ (fun _ _ => Nat.zero_le _)
    · exact List.forall₂_map_right_iff.mpr (kept.imp fun _ _ both => both.2)
    · exact (strict.sublist indices).imp Nat.le_of_lt
  · rw [List.forall₂_map_left_iff, List.forall₂_map_right_iff, List.forall₂_same]
    intro p member
    exact List.mk_mem_zipIdx_iff_getElem?.mp (some.subset member)

end Absorption.Grid
