import Absorption.Proofs.Grid.Congruence
import Absorption.Proofs.Table.Composition

set_option autoImplicit false

/-!
Adaptation of a table to all that it holds. A grid that is sought in itself finds each point no
later than at its own place, and all of them there exactly if neighbours are farther apart than the
tolerance (`Scan.eq_range_iff`). Only then the table comes back (`VectorGrids.adapt_self`).
-/

namespace Absorption

namespace Grid

variable {α : Type} [Scalar α] {tolerance : α} {grid : List α}

/-- Neighbours that differ by more than the tolerance. -/
def Spaced (tolerance : α) (grid : List α) : Prop :=
  ∀ (k : Nat) x y, grid[k]? = some x → grid[k + 1]? = some y → tolerance < y - x

/-- A search for the points of a grid in itself, which passes none of them. -/
theorem exists_scan_self (near : ∀ x ∈ grid, ¬ tolerance < Scalar.distance x x) {start first : Nat}
    (reached : start ≤ first) : ∃ found, Scan tolerance grid start (grid.drop first) found ∧
      ∀ k j : Nat, found[k]? = some j → j ≤ first + k := by
  induction suffix : grid.drop first generalizing start first with
  | nil => exact ⟨[], .nil start, by simp⟩
  | cons x rest ih =>
      have here : grid[first]? = some x := by
        rw [← Nat.add_zero first, ← List.getElem?_drop, suffix]
        rfl
      have inside := (List.getElem?_eq_some_iff.mp here).1
      have next : grid.drop (first + 1) = rest := by
        rw [← List.drop_drop, suffix]
        rfl
      obtain ⟨j, forward, _, skipped, close⟩ := seek_drop tolerance x grid start
      have stopped : j ≤ first := by
        by_contra passed
        exact near x (List.mem_of_getElem? here) (skipped first x reached (by omega) here)
      have value := List.getElem?_eq_getElem (l := grid) (i := j) (by omega)
      obtain ⟨found, further, bound⟩ := ih (show j ≤ first + 1 by omega) next
      refine ⟨j :: found, .cons forward skipped value (close _ value) further, ?_⟩
      intro k i index
      cases k with
      | zero =>
          rw [List.getElem?_cons_zero, Option.some.injEq] at index
          omega
      | succ k =>
          have later := bound k i index
          omega

theorem exists_scan_whole (near : ∀ x ∈ grid, ¬ tolerance < Scalar.distance x x) :
    ∃ found, Scan tolerance grid 0 grid found ∧ ∀ k j : Nat, found[k]? = some j → j ≤ k := by
  obtain ⟨found, scan, bound⟩ := exists_scan_self near (Nat.le_refl 0)
  refine ⟨found, scan, fun k j index => ?_⟩
  rw [← Nat.zero_add k]
  exact bound k j index

/-- The places that a search of a grid in itself finds are its own if no earlier one is found. -/
theorem eq_range_of_le {n : Nat} {found : List Nat} (length : found.length = n)
    (bound : ∀ k j : Nat, found[k]? = some j → j ≤ k)
    (late : ∀ k j : Nat, found[k]? = some j → ¬ j < k) : found = List.range n := by
  apply List.ext_getElem (by rw [length, List.length_range])
  intro k inside _
  have index := List.getElem?_eq_getElem inside
  have upper := bound k _ index
  have lower := late k _ index
  rw [List.getElem_range]
  omega

section Order

variable [OrderedScalar α]

/-- A tolerance that is not negative is no less than the distance of a point to itself. -/
theorem not_far_self (notNegative : 0 ≤ tolerance) (x : α) :
    ¬ tolerance < Scalar.distance x x := by
  rw [OrderedScalar.distance_of_not_lt (OrderedScalar.lt_irrefl x)]
  intro far
  obtain ⟨above, strict⟩ := OrderedScalar.lt_iff.mp far
  refine OrderedScalar.lt_irrefl x (OrderedScalar.zero_lt_sub.mp (OrderedScalar.lt_iff.mpr
    ⟨OrderedScalar.le_trans notNegative above, fun back => ?_⟩))
  exact strict (OrderedScalar.le_trans back notNegative)

theorem distance_of_increasing (increasing : grid.Pairwise (· < ·)) {k : Nat} {x y : α}
    (first : grid[k]? = some x) (second : grid[k + 1]? = some y) :
    Scalar.distance y x = y - x := by
  obtain ⟨inside, rfl⟩ := List.getElem?_eq_some_iff.mp first
  obtain ⟨inside', rfl⟩ := List.getElem?_eq_some_iff.mp second
  have below :=
    List.pairwise_iff_getElem.mp increasing k (k + 1) inside inside' (Nat.lt_succ_self k)
  exact OrderedScalar.distance_of_not_lt fun above =>
    OrderedScalar.lt_irrefl _ (OrderedScalar.lt_trans below above)

/-- A search for the points of a grid in itself finds them at their own places exactly if neighbours
are farther apart than the tolerance. -/
theorem Scan.eq_range_iff {found : List Nat} (scan : Scan tolerance grid 0 grid found)
    (bound : ∀ k j : Nat, found[k]? = some j → j ≤ k) (increasing : grid.Pairwise (· < ·)) :
    found = List.range grid.length ↔ Spaced tolerance grid := by
  have length := length_of_locate (locate_eq_ok.mpr scan)
  constructor
  · rintro rfl k x y first second
    have inside := (List.getElem?_eq_some_iff.mp first).1
    have far := scan.nodup_iff.mp List.nodup_range k y k x second (List.getElem?_range inside) first
    rwa [distance_of_increasing increasing first second] at far
  · intro spaced
    have own (k : Nat) (inside : k < found.length) : found[k] = k := by
      induction k with
      | zero => exact Nat.le_zero.mp (bound 0 _ (List.getElem?_eq_getElem inside))
      | succ k ih =>
          have before := ih (by omega)
          have upper := bound (k + 1) _ (List.getElem?_eq_getElem inside)
          have lower := List.pairwise_iff_getElem.mp scan.ascending k (k + 1) (by omega) inside
            (Nat.lt_succ_self k)
          -- Its predecessor is too far away to be found in its place.
          have missed : found[k + 1] ≠ k := by
            intro same
            have first := List.getElem?_eq_getElem (l := grid) (i := k) (by omega)
            have second := List.getElem?_eq_getElem (l := grid) (i := k + 1) (by omega)
            have index := List.getElem?_eq_getElem inside
            rw [same] at index
            have near := scan.not_far second index first
            rw [distance_of_increasing increasing first second] at near
            exact near (spaced k _ _ first second)
          omega
    apply List.ext_getElem (by rw [length, List.length_range])
    intro k inside _
    rw [own k inside, List.getElem_range]

end Order

end Grid
namespace Table

variable {α : Type} [Scalar α]

/-- A selection of all species and all frequencies of a table, in their order. -/
structure Whole (t : Table α) (r : Request α) (s : Selection) : Prop where
  grids : t.VectorGrids
  chosen : t.Chosen r s
  tags : r.species = t.species
  species : s.speciesIndices = List.range t.species.length
  frequencies : s.frequencyIndices = List.range t.frequencies.toList.length

namespace Whole

variable {t : Table α} {r : Request α} {s : Selection} (whole : t.Whole r s)
include whole

theorem species_index {i : Nat} (inside : i < t.species.length) :
    s.speciesIndices[i]? = some i := by
  rw [whole.species, List.getElem?_range inside]

theorem frequency_index {k : Nat} (inside : k < t.frequencies.toList.length) :
    s.frequencyIndices[k]? = some k := by
  rw [whole.frequencies, List.getElem?_range inside]

theorem nonlinear_eq : s.nonlinear = t.flags := by
  rw [whole.chosen.nonlinear, whole.species]
  apply List.ext_getElem (by simp)
  intro i inside inside'
  rw [List.getElem_map, List.getElem_range, List.getD_eq_getElem?_getD,
    List.getElem?_eq_getElem inside', Option.getD_some]

theorem blocks_eq : (t.subset t.blocks s).blocks = t.blocks := by
  rw [whole.chosen.blocks_subset, whole.nonlinear_eq]
  rfl

theorem frequencies_eq : (t.subset t.blocks s).frequencies = t.frequencies := by
  have size := whole.grids.length_frequencies_subset s
  rw [whole.frequencies, List.length_range] at size
  have points : (t.subset t.blocks s).frequencies.toList = t.frequencies.toList := by
    apply List.ext_getElem?
    intro k
    by_cases inside : k < t.frequencies.toList.length
    · exact whole.chosen.getElem?_frequencies whole.grids (whole.frequency_index inside)
    · rw [List.getElem?_eq_none (by omega), List.getElem?_eq_none (by omega)]
  rw [(whole.grids.subset s).frequencies.eq_ofList, points, ← whole.grids.frequencies.eq_ofList]

theorem referenceVmr_eq : (t.subset t.blocks s).referenceVmr = t.referenceVmr := by
  have shape := (whole.chosen.fitting_subset whole.grids).referenceVmr
  rw [whole.chosen.species_subset, whole.tags] at shape
  apply Tensor.eq_of_get? (shape.trans whole.chosen.consistent.referenceVmr.symm)
  intro p within
  rw [shape] at within
  cases within with
  | @cons i _ _ _ inside rest =>
      cases rest with
      | @cons l _ _ _ level rest =>
          cases rest
          exact whole.chosen.get?_referenceVmr (whole.species_index inside) l

theorem humidities_eq : (t.subset t.blocks s).humidityPerturbations = t.humidityPerturbations := by
  by_cases kept : true ∈ s.nonlinear
  · exact (humidities_subset t s).1 kept
  · have none : t.nonlinear = [] := by
      rw [nonlinear_eq_trueIndices whole.chosen.consistent.ascending
        whole.chosen.consistent.existing, ← whole.nonlinear_eq]
      exact whole.chosen.nonlinear_subset_eq_nil.mpr kept
    rw [(humidities_subset t s).2 kept, whole.grids.humidities.eq_ofList,
      whole.chosen.consistent.perturbed.mpr none]

theorem coefficients_eq : (t.subset t.blocks s).coefficients = t.coefficients := by
  have shape := whole.chosen.shape_subset whole.grids
  rw [whole.nonlinear_eq, whole.frequencies, List.length_range] at shape
  apply Tensor.eq_of_get?
    (shape.trans (whole.chosen.consistent.shape_coefficients whole.grids).symm)
  intro p within
  rw [shape] at within
  obtain ⟨a, q, k, l, rfl, _, place, frequency, _⟩ := Tensor.exists_of_within within
  obtain ⟨i, b, block, e, inside, rfl⟩ := exists_block_of_lt place
  exact whole.chosen.coefficient_subset whole.grids (whole.species_index (lt_of_block block))
    (whole.blocks_eq.symm ▸ block) block (whole.frequency_index frequency) inside a l

/-- All that a table holds makes the table, with the logarithms of its pressures. -/
theorem subset_eq : t.subset t.blocks s = t.initializeLog := by
  apply Table.ext
  · rw [whole.chosen.species_subset, whole.tags]
    rfl
  · change (trueIndices s.nonlinear).map Int.ofNat = t.nonlinear
    rw [whole.nonlinear_eq]
    exact (nonlinear_eq_trueIndices whole.chosen.consistent.ascending
      whole.chosen.consistent.existing).symm
  · exact whole.frequencies_eq
  · rfl
  · exact whole.referenceVmr_eq
  · rfl
  · rfl
  · exact whole.humidities_eq
  · exact whole.coefficients_eq
  · rfl

end Whole

omit [Scalar α] in
theorem findSpecies_range {t : Table α} (distinct : t.species.Nodup) :
    List.Forall₂ (fun tag j => t.findSpecies tag = .ok j) t.species
      (List.range t.species.length) := by
  rw [List.forall₂_iff_get]
  refine ⟨List.length_range.symm, ?_⟩
  intro i inside _
  rw [List.get_eq_getElem, List.get_eq_getElem, List.getElem_range]
  exact findSpecies_of_nodup distinct (List.getElem?_eq_getElem inside)

theorem equal_of_agrees {t n : Table α} (agree : n.agrees t = true) :
    Grid.Equal n.frequencies.toList t.frequencies.toList := by
  simp only [agrees, Bool.and_eq_true] at agree
  obtain ⟨⟨⟨⟨⟨⟨⟨_, frequencies⟩, _⟩, _⟩, _⟩, _⟩, _⟩, _⟩ := agree
  exact (Grid.same_iff.mp frequencies).2

section Order

variable [OrderedScalar α] {t : Table α} {r : Request α} {s : Selection}

/-- A frequency that is found before its place is less than it was. -/
theorem Chosen.lt_of_early (chosen : t.Chosen r s) (grids : t.VectorGrids) {k j : Nat}
    (index : s.frequencyIndices[k]? = some j) (below : j < k)
    (inside : k < t.frequencies.toList.length) : ∃ x y,
      (t.subset t.blocks s).frequencies.toList[k]? = some x ∧
      t.frequencies.toList[k]? = some y ∧ x < y := by
  have value := chosen.getElem?_frequencies grids index
  have earlier : j < t.frequencies.toList.length := Nat.lt_trans below inside
  rw [List.getElem?_eq_getElem earlier] at value
  refine ⟨_, _, value, List.getElem?_eq_getElem inside, ?_⟩
  exact List.pairwise_iff_getElem.mp (Grid.isIncreasing_iff.mp chosen.consistent.frequencies) j k _
    inside below

/-- Adaptation to all species and frequencies of a table gives the table back exactly if neighbours
among the frequencies are farther apart than the tolerance. -/
theorem VectorGrids.adapt_self (grids : t.VectorGrids) (valid : t.validate = .ok ())
    (distinct : t.species.Nodup) {tolerance : α} (notNegative : 0 ≤ tolerance) :
    ∃ n s, t.adapt ⟨t.species, t.frequencies, tolerance⟩ = .ok (n, s) ∧
      ({ n with logPressures := t.logPressures } = t ↔
        Grid.Spaced tolerance t.frequencies.toList) ∧
      (n.agrees t = true ↔
        t.agrees t = true ∧ Grid.Spaced tolerance t.frequencies.toList) := by
  have consistent := grids.validate_eq_ok_iff.mp valid
  have increasing := Grid.isIncreasing_iff.mp consistent.frequencies
  obtain ⟨found, scan, bound⟩ := Grid.exists_scan_whole
    fun x (_ : x ∈ t.frequencies.toList) => Grid.not_far_self notNegative x
  have chosen : t.Chosen ⟨t.species, t.frequencies, tolerance⟩ _ :=
    consistent.chosen grids.frequencies consistent.species (findSpecies_range distinct) scan
  have spaced := scan.eq_range_iff bound increasing
  have length := Grid.length_of_locate (Grid.locate_eq_ok.mpr scan)
  refine ⟨_, _, grids.adapt_of_chosen chosen grids.frequencies consistent.frequencies, ?_⟩
  generalize adapted : t.subset t.blocks _ = n
  -- Frequencies that are no less than those in their places were found there.
  have apart_of_kept (kept : ∀ (k : Nat) (x y : α), n.frequencies.toList[k]? = some x →
      t.frequencies.toList[k]? = some y → ¬ x < y) :
      Grid.Spaced tolerance t.frequencies.toList := by
    refine spaced.mp (Grid.eq_range_of_le length bound fun k j index below => ?_)
    have inside := (List.getElem?_eq_some_iff.mp index).1
    obtain ⟨x, y, value, point, less⟩ := chosen.lt_of_early grids index below (by omega)
    exact kept k x y (adapted ▸ value) point less
  have restored (apart : Grid.Spaced tolerance t.frequencies.toList) : n = t.initializeLog :=
    adapted ▸ Whole.subset_eq ⟨grids, chosen, rfl, rfl, spaced.mpr apart⟩
  refine ⟨⟨?_, ?_⟩, ⟨?_, ?_⟩⟩
  · intro same
    refine apart_of_kept fun k x y value point less => ?_
    have kept : n.frequencies = t.frequencies := by rw [← same]
    rw [kept, point, Option.some.injEq] at value
    exact OrderedScalar.lt_irrefl _ (value ▸ less)
  · intro apart
    rw [restored apart]
    rfl
  · intro agree
    have apart : Grid.Spaced tolerance t.frequencies.toList := by
      refine apart_of_kept fun k x y value point less => ?_
      obtain ⟨z, point', alike⟩ := exists_getElem?_of_forall₂ (equal_of_agrees agree) value
      rw [point, Option.some.injEq] at point'
      subst point'
      rw [Scalar.same, Bool.and_eq_true, decide_eq_true_eq, decide_eq_true_eq] at alike
      exact (OrderedScalar.lt_iff.mp less).2 alike.2
    rw [restored apart] at agree
    exact ⟨agree, apart⟩
  · rintro ⟨itself, apart⟩
    rw [restored apart]
    exact itself

end Order

theorem spaced_humidSample : Grid.Spaced 1 humidSample.frequencies.toList := by
  change Grid.Spaced (1 : Float) [100, 200, 300]
  intro k x y first second
  obtain _ | _ | k := k
  · cases first
    cases second
    decide +kernel
  · cases first
    cases second
    decide +kernel
  · cases second

/-- A table of two species, one of them nonlinear, comes back from a request for all of it. -/
theorem adapt_self_sample : ∃ n s,
    humidSample.adapt ⟨humidSample.species, humidSample.frequencies, 1⟩ = .ok (n, s) ∧
      { n with logPressures := humidSample.logPressures } = humidSample := by
  have grids : humidSample.VectorGrids := ⟨rfl, rfl, rfl, rfl⟩
  have valid : humidSample.validate = .ok () := toOption_eq_some.mp (by decide +kernel)
  obtain ⟨n, s, adapted, same, _⟩ := grids.adapt_self valid (by decide)
    (show (0 : Float) ≤ 1 by decide +kernel)
  exact ⟨n, s, adapted, same.mpr spaced_humidSample⟩

end Table
end Absorption
