import Absorption.Proofs.Binary64.Difference
import Absorption.Proofs.Table.Selection

set_option autoImplicit false

/-!
What adaptation guarantees. An adapted table holds the part of the table that was asked for, in the
order in which it was asked for (`Answers`). It is consistent exactly if no two frequencies were
found at the same place (`Chosen.increases_subset`): neighbours within the tolerance of one
frequency of the table make it repeat that frequency.
-/

namespace Absorption.Table

variable {α : Type} [Scalar α]

/-- A table `n` that holds of the table `t` what a request asks for, where `s` says what that is. -/
structure Answers (t n : Table α) (r : Request α) (s : Selection) : Prop where
  species : n.species = r.species
  tags : List.Forall₂ (fun tag j => t.species[j]? = some tag) r.species s.speciesIndices
  nonlinear : ∀ i j : Nat, s.speciesIndices[i]? = some j →
    ((i : Int) ∈ n.nonlinear ↔ (j : Int) ∈ t.nonlinear)
  flags : ∀ i j : Nat, s.speciesIndices[i]? = some j →
    s.nonlinear[i]? = some (decide ((j : Int) ∈ t.nonlinear))
  frequencyCount : r.frequencies.length = .ok s.frequencyIndices.length ∧
    n.frequencies.shape = [s.frequencyIndices.length]
  frequencies : ∀ k f : Nat, s.frequencyIndices[k]? = some f →
    n.frequencies.Copies [k] t.frequencies [f]
  vmrShape : n.referenceVmr.shape = [s.speciesIndices.length, t.pressures.toList.length]
  referenceVmr : ∀ i j l : Nat, s.speciesIndices[i]? = some j → l < t.pressures.toList.length →
    n.referenceVmr.Copies [i, l] t.referenceVmr [j, l]
  pressures : n.pressures = t.pressures
  referenceTemperature : n.referenceTemperature = t.referenceTemperature
  temperatures : n.temperaturePerturbations = t.temperaturePerturbations
  humidities : (∃ j ∈ s.speciesIndices, (j : Int) ∈ t.nonlinear) →
    n.humidityPerturbations = t.humidityPerturbations
  noHumidities : (∀ j ∈ s.speciesIndices, (j : Int) ∉ t.nonlinear) →
    n.humidityPerturbations = .ofList []
  shape : n.expectedShape = .ok (n.coefficients.shape.map Int.ofNat)
  coefficients : ∃ own whole : Layout, n.layout = .ok own ∧ t.layout = .ok whole ∧
    ∀ i j : Nat, s.speciesIndices[i]? = some j → ∃ b c : Block, own.blocks[i]? = some b ∧
      whole.blocks[j]? = some c ∧ b.length = c.length ∧
      ∀ a e k f l : Nat, a < max t.temperaturePerturbations.toList.length 1 → e < b.length →
        s.frequencyIndices[k]? = some f → l < t.pressures.toList.length →
        n.coefficients.Copies [a, b.offset + e, k, l] t.coefficients [a, c.offset + e, f, l]

namespace Chosen

variable {t : Table α} {r : Request α} {s : Selection} (chosen : t.Chosen r s)
  (grids : t.VectorGrids)
include chosen grids

theorem copies_frequency {k f : Nat} (index : s.frequencyIndices[k]? = some f) :
    (t.subset t.blocks s).frequencies.Copies [k] t.frequencies [f] := by
  have shape : (t.subset t.blocks s).frequencies.shape = _ := (grids.subset s).frequencies
  have inside := (List.getElem?_eq_some_iff.mp index).1
  apply Tensor.copies_of_get?
  · rw [(grids.subset s).frequencies.get?, grids.frequencies.get?,
      chosen.getElem?_frequencies grids index]
  · rw [shape, grids.length_frequencies_subset s]
    exact .cons inside .nil

theorem copies_referenceVmr {i j l : Nat} (index : s.speciesIndices[i]? = some j)
    (level : l < t.pressures.toList.length) :
    (t.subset t.blocks s).referenceVmr.Copies [i, l] t.referenceVmr [j, l] := by
  have inside := (List.getElem?_eq_some_iff.mp index).1
  apply Tensor.copies_of_get? (chosen.get?_referenceVmr index l)
  rw [(chosen.fitting_subset grids).referenceVmr, chosen.species_subset, ← chosen.length_species]
  exact .cons inside (.cons level .nil)

/-- Each block holds the coefficients of the block it was taken from. -/
theorem copies_coefficient {i j k f a e l : Nat} {b c : Block}
    (species : s.speciesIndices[i]? = some j) (own : (t.subset t.blocks s).blocks[i]? = some b)
    (whole : t.blocks[j]? = some c) (frequency : s.frequencyIndices[k]? = some f)
    (temperature : a < max t.temperaturePerturbations.toList.length 1) (inside : e < b.length)
    (level : l < t.pressures.toList.length) :
    (t.subset t.blocks s).coefficients.Copies [a, b.offset + e, k, l]
      t.coefficients [a, c.offset + e, f, l] := by
  apply Tensor.copies_of_get?
    (chosen.coefficient_subset grids species own whole frequency inside a l)
  have stop : b.stop ≤ _ := stop_le_extent own
  have bound := (List.getElem?_eq_some_iff.mp frequency).1
  rw [(chosen.fitting_subset grids).shape_coefficients (grids.subset s),
    grids.length_frequencies_subset s]
  rw [Block.stop] at stop
  refine .cons temperature (.cons ?_ (.cons bound (.cons level .nil)))
  omega

end Chosen

/-- Adaptation selects exactly the data that are asked for. -/
theorem VectorGrids.answers_of_adapt {t n : Table α} (grids : t.VectorGrids) {r : Request α}
    {s : Selection} (adapted : t.adapt r = .ok (n, s)) : t.Answers n r s := by
  obtain ⟨chosen, rfl⟩ := grids.chosen_of_adapt adapted
  have fits := chosen.fitting_subset grids
  have flat : (t.subset t.blocks s).frequencies.shape = [s.frequencyIndices.length] := by
    rw [← grids.length_frequencies_subset s]
    exact (grids.subset s).frequencies
  have profiles : (t.subset t.blocks s).referenceVmr.shape =
      [s.speciesIndices.length, t.pressures.toList.length] := by
    rw [chosen.length_species, ← chosen.species_subset]
    exact fits.referenceVmr
  refine ⟨chosen.species_subset, chosen.tags, ?_, ?_, ⟨chosen.frequencyCount, flat⟩, ?_, profiles,
    ?_, rfl, rfl, rfl, ?_, ?_, fits.coefficients, ?_⟩
  · intro i j index
    exact chosen.mem_nonlinear_subset index
  · intro i j index
    exact chosen.flag index
  · intro k f index
    exact chosen.copies_frequency grids index
  · intro i j l index level
    exact chosen.copies_referenceVmr grids index level
  · intro marked
    exact (humidities_subset t s).1 (chosen.mem_nonlinear.mpr marked)
  · intro unmarked
    apply (humidities_subset t s).2
    rw [chosen.mem_nonlinear]
    intro some
    obtain ⟨j, member, marked⟩ := some
    exact unmarked j member marked
  · refine ⟨_, _, (grids.subset s).layout_eq fits.existing,
      grids.layout_eq chosen.consistent.existing, ?_⟩
    intro i j index
    obtain ⟨b, c, own, whole, same⟩ := chosen.blocks_at index
    refine ⟨b, c, own, whole, same, ?_⟩
    intro a e k f l temperature inside frequency level
    exact chosen.copies_coefficient grids index own whole frequency temperature inside level

theorem answers_sample : ∃ n, sample.VectorGrids ∧
    sample.adapt sampleRequest = .ok (n, ⟨[1, 0], [0, 2], [true, false], 3, 3⟩) ∧
    sample.Answers n sampleRequest ⟨[1, 0], [0, 2], [true, false], 3, 3⟩ := by
  obtain ⟨n, adapted⟩ := adapt_sampleRequest
  exact ⟨n, vectorGrids_sample, adapted, vectorGrids_sample.answers_of_adapt adapted⟩

section Order

variable [OrderedScalar α]

/-- The frequencies of an adapted table increase unless one of them was found twice. -/
theorem Chosen.increases_subset {t : Table α} {r : Request α} {s : Selection}
    (chosen : t.Chosen r s) (grids : t.VectorGrids) :
    Grid.isIncreasing (t.subset t.blocks s).frequencies.toList = true ↔
      s.frequencyIndices.Nodup := by
  have order := Grid.isIncreasing_iff.mp chosen.consistent.frequencies
  have size := grids.length_frequencies_subset s
  rw [Grid.isIncreasing_iff]
  constructor
  · intro increases
    rw [List.nodup_iff_pairwise_ne, List.pairwise_iff_getElem]
    intro k l lower upper below same
    have first := chosen.getElem?_frequencies grids (List.getElem?_eq_getElem lower)
    have second := chosen.getElem?_frequencies grids (List.getElem?_eq_getElem upper)
    rw [same, ← second, List.getElem?_eq_getElem (by omega), List.getElem?_eq_getElem (by omega),
      Option.some.injEq] at first
    have strict := List.pairwise_iff_getElem.mp increases k l (by omega) (by omega) below
    rw [first] at strict
    exact OrderedScalar.lt_irrefl _ strict
  · intro distinct
    rw [List.pairwise_iff_getElem]
    intro k l lower upper below
    rw [size] at lower upper
    have first := chosen.getElem?_frequencies grids (List.getElem?_eq_getElem lower)
    have second := chosen.getElem?_frequencies grids (List.getElem?_eq_getElem upper)
    have further := List.pairwise_iff_getElem.mp (chosen.scan.strict_of_nodup distinct)
      k l lower upper below
    rw [List.getElem?_eq_getElem (by omega), List.getElem?_eq_getElem
      (chosen.lt_frequencies (List.getElem_mem _)), Option.some.injEq] at first second
    rw [first, second]
    exact List.pairwise_iff_getElem.mp order _ _ _ _ further

/-- An adapted table is consistent exactly if no two frequencies were found at the same place, that
is if each frequency is too far from the one that was found for its predecessor. -/
theorem VectorGrids.validate_of_adapt {t n : Table α} (grids : t.VectorGrids) {r : Request α}
    {s : Selection} (adapted : t.adapt r = .ok (n, s)) :
    n.VectorGrids ∧
    n.validate = (if s.frequencyIndices.Nodup then .ok () else refuse (.gridOrder .frequency)) ∧
    (s.frequencyIndices.Nodup ↔ ∀ k x y, r.frequencies.toList[k + 1]? = some x →
      n.frequencies.toList[k]? = some y → r.tolerance < Scalar.distance x y) := by
  obtain ⟨chosen, rfl⟩ := grids.chosen_of_adapt adapted
  refine ⟨grids.subset s, ?_, ?_⟩
  · rw [(grids.subset s).validate_eq_of_fitting (chosen.fitting_subset grids)]
    by_cases distinct : s.frequencyIndices.Nodup
    · rw [if_pos distinct, require, if_pos ((chosen.increases_subset grids).mpr distinct)]
    · rw [if_neg distinct, require,
        if_neg (fun increases => distinct ((chosen.increases_subset grids).mp increases))]
  · have count := grids.length_frequencies_subset s
    rw [chosen.scan.nodup_iff]
    constructor
    · intro far k x y point value
      have inside := (List.getElem?_eq_some_iff.mp value).1
      have index := List.getElem?_eq_getElem (l := s.frequencyIndices) (i := k) (by omega)
      rw [chosen.getElem?_frequencies grids index] at value
      exact far k x _ y point index value
    · intro far k x j y point index value
      rw [← chosen.getElem?_frequencies grids index] at value
      exact far k x y point value

/-- A table of one species in binary64 numbers. -/
def binary64Sample : Table Float where
  species := ["O2"]
  nonlinear := []
  frequencies := .ofList [100, 200, 300]
  pressures := .ofList [2, 1]
  referenceVmr := .ofFn [1, 2] fun _ => 0.2
  referenceTemperature := .ofList [250, 252]
  temperaturePerturbations := .ofList []
  humidityPerturbations := .ofList []
  coefficients := .ofFn [1, 1, 3, 2] fun _ => 1
  logPressures := none

theorem vectorGrids_binary64Sample : binary64Sample.VectorGrids := ⟨rfl, rfl, rfl, rfl⟩

theorem validate_of_adapt_sample : ∃ n, binary64Sample.VectorGrids ∧
    binary64Sample.adapt ⟨["O2"], .ofList [100, 300.5], 1⟩ = .ok (n, ⟨[0], [0, 2], [false], 1, 3⟩) ∧
    n.VectorGrids ∧ n.validate = .ok () := by
  have selected : (binary64Sample.adapt ⟨["O2"], .ofList [100, 300.5], 1⟩).toOption.map (·.2) =
      some ⟨[0], [0, 2], [false], 1, 3⟩ := by decide +kernel
  obtain ⟨⟨n, s⟩, found, rfl⟩ := Option.map_eq_some_iff.mp selected
  have adapted := toOption_eq_some.mp found
  obtain ⟨grids, checked, _⟩ := vectorGrids_binary64Sample.validate_of_adapt adapted
  exact ⟨n, vectorGrids_binary64Sample, adapted, grids, by rw [checked, if_pos (by decide)]⟩

/-- Two frequencies half a unit apart, which are found at the same place. -/
def closeRequest : Request Float := ⟨["O2"], .ofList [100, 100.5], 1⟩

/-- A table that passes its checks is adapted to frequencies that increase, and the result does not
pass them. -/
theorem validate_closeRequest : ∃ n s, binary64Sample.VectorGrids ∧
    binary64Sample.validate = .ok () ∧ Grid.increases closeRequest.frequencies = .ok true ∧
    0 ≤ closeRequest.tolerance ∧ binary64Sample.adapt closeRequest = .ok (n, s) ∧
    n.validate = refuse (.gridOrder .frequency) := by
  have grids := vectorGrids_binary64Sample
  have tied : (binary64Sample.adapt closeRequest).toOption.map (fun a => Grid.isIncreasing
      a.1.frequencies.toList) = some false := by decide +kernel
  obtain ⟨⟨n, s⟩, found, tied⟩ := Option.map_eq_some_iff.mp tied
  have adapted := toOption_eq_some.mp found
  obtain ⟨chosen, rfl⟩ := grids.chosen_of_adapt adapted
  refine ⟨_, s, grids, grids.validate_eq_ok_iff.mpr chosen.consistent, ?_, by decide +kernel,
    adapted, ?_⟩
  · exact toOption_eq_some.mp (by decide +kernel)
  · rw [(grids.subset s).validate_eq_of_fitting (chosen.fitting_subset grids), tied]
    rfl

end Order

end Absorption.Table
