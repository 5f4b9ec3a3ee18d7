import Absorption.Proofs.Table.Tiling
import Absorption.Proofs.Grid.Scan

set_option autoImplicit false

/-!
What an adaptation selects of a table. `Chosen` reads a selection that was made; from it the adapted
table gets its layout (`Chosen.flags_subset`, `Chosen.blocks_subset`) and its coefficients
(`Chosen.coefficient_subset`), and all its parts but the frequencies fit together
(`Chosen.fitting_subset`).
-/

namespace Absorption.Table

variable {α : Type}

theorem mem_matchesOf {t : Table α} {tag : String} {j : Nat} :
    j ∈ t.matchesOf tag ↔ t.species[j]? = some tag := by
  simp [matchesOf, List.mk_mem_zipIdx_iff_getElem?]

/-- A species is found if it is the only one with its tag. -/
theorem findSpecies_spec {t : Table α} {tag : String} {i : Nat}
    (found : t.findSpecies tag = .ok i) (j : Nat) : t.species[j]? = some tag ↔ j = i := by
  rw [← mem_matchesOf]
  rw [findSpecies] at found
  split at found
  · simp at found
  · next k single =>
      rw [Except.ok.injEq] at found
      rw [single, List.mem_singleton, found]
  · simp at found

theorem nodup_matchesOf (t : Table α) (tag : String) : (t.matchesOf tag).Nodup := by
  have indices : (t.species.zipIdx.map (·.2)).Nodup := by
    rw [List.zipIdx_map_snd]
    exact List.nodup_range'
  exact indices.sublist (List.filter_sublist.map _)

theorem findSpecies_eq_ok {t : Table α} {tag : String} {i : Nat} :
    t.findSpecies tag = .ok i ↔ ∀ j, t.species[j]? = some tag ↔ j = i := by
  constructor
  · exact findSpecies_spec
  · intro only
    have single : t.matchesOf tag = [i] := by
      rw [← List.perm_singleton, List.perm_ext_iff_of_nodup (t.nodup_matchesOf tag)
        (List.pairwise_singleton _ i)]
      intro j
      rw [mem_matchesOf, only, List.mem_singleton]
    rw [findSpecies, single]

/-- Among different tags each is found in its place. -/
theorem findSpecies_of_nodup {t : Table α} (distinct : t.species.Nodup) {tag : String} {i : Nat}
    (index : t.species[i]? = some tag) : t.findSpecies tag = .ok i := by
  have bound := (List.getElem?_eq_some_iff.mp index).1
  rw [findSpecies_eq_ok]
  intro j
  rw [← index, eq_comm, List.getElem?_inj bound distinct, eq_comm]

section Places

variable {whole : List Block} {humidities : Nat} {species : List Nat} {mask : List Bool}

/-- Each of some species has a block, with the length that its flag asks for. -/
def Blocked (whole : List Block) (humidities : Nat) : List Nat → List Bool → Prop :=
  List.Forall₂ fun j isNonlinear =>
    ∃ c, whole[j]? = some c ∧ c.length = if isNonlinear then humidities else 1

/-- The places of one of the species. -/
theorem Blocked.sized (blocked : Blocked whole humidities species mask) :
    Sized humidities (fun i => match whole[i]? with
      | some b => List.range' b.offset b.length
      | none => []) species mask := by
  refine blocked.imp ?_
  rintro j isNonlinear ⟨c, found, length⟩
  simp only [found, ← length, List.length_range']

theorem length_expandedPlaces (blocked : Blocked whole humidities species mask) :
    (expandedPlaces whole species).length = extent humidities mask :=
  length_flatMap_of_sized blocked.sized

/-- The places of a species in the new layout hold its places in the old one. -/
theorem getElem?_expandedPlaces (blocked : Blocked whole humidities species mask)
    {offset i j e : Nat} {b c : Block}
    (own : (blocksFrom humidities offset mask)[i]? = some b) (chosen : species[i]? = some j)
    (old : whole[j]? = some c) (inside : e < b.length) :
    offset ≤ b.offset ∧
      (expandedPlaces whole species)[b.offset - offset + e]? = some (c.offset + e) := by
  obtain ⟨isNonlinear, flag, d, same, length⟩ := exists_getElem?_of_forall₂ blocked chosen
  rw [old, Option.some.injEq] at same
  subst same
  have within : e < c.length := by
    rw [getElem?_blocksFrom, flag, Option.map_some, Option.some.injEq] at own
    rw [length]
    rw [← own] at inside
    exact inside
  obtain ⟨lower, place⟩ := getElem?_flatMap_of_sized blocked.sized own chosen inside
  refine ⟨lower, place.trans ?_⟩
  simp only [old]
  rw [List.getElem?_range' within, Nat.one_mul]

end Places

variable [Scalar α]

/-- A selection that was made of a table for a request. -/
structure Chosen (t : Table α) (r : Request α) (s : Selection) : Prop where
  consistent : t.Consistent
  nonempty : r.species ≠ []
  species : List.Forall₂ (fun tag j => t.findSpecies tag = .ok j) r.species s.speciesIndices
  scan : Grid.Scan r.tolerance t.frequencies.toList 0 r.frequencies.toList s.frequencyIndices
  frequencyCount : r.frequencies.length = .ok s.frequencyIndices.length
  nonlinear : s.nonlinear = s.speciesIndices.map fun j => t.flags.getD j false
  tableSpecies : s.tableSpecies = t.species.length
  tableFrequencies : s.tableFrequencies = t.frequencies.toList.length

theorem VectorGrids.chosen_of_select {t : Table α} (grids : t.VectorGrids) {r : Request α}
    {s : Selection} (selected : t.select r = .ok s) : t.Chosen r s := by
  simp only [select, checkRequest, bind_eq_ok, pure_eq_ok, require_eq_ok, mapM_eq_ok,
    grids.frequencies.length, Except.ok.injEq, exists_eq_left', grids.validate_eq_ok_iff]
    at selected
  obtain ⟨_, _, _, consistent, _, ⟨_, nonempty, _, _, _⟩, species, found, mask, masked, _, located,
    rfl⟩ := selected
  rw [mask_eq consistent.existing, Except.ok.injEq] at masked
  obtain ⟨scan, count⟩ := Grid.scan_of_locateIn grids.frequencies located
  exact ⟨consistent, by simpa using nonempty, found, scan, count, by rw [masked], rfl, rfl⟩

theorem VectorGrids.chosen_of_adapt {t n : Table α} (grids : t.VectorGrids) {r : Request α}
    {s : Selection} (adapted : t.adapt r = .ok (n, s)) :
    t.Chosen r s ∧ n = t.subset t.blocks s := by
  simp only [adapt, bind_eq_ok, pure_eq_ok, Prod.mk.injEq] at adapted
  obtain ⟨_, selected, layout, laidOut, rfl, rfl⟩ := adapted
  have chosen := grids.chosen_of_select selected
  rw [grids.layout_eq chosen.consistent.existing, Except.ok.injEq] at laidOut
  exact ⟨chosen, by rw [← laidOut]⟩

/-- Humidity perturbations are kept for the species that need them. -/
theorem humidities_subset (t : Table α) (s : Selection) :
    (true ∈ s.nonlinear → (t.subset t.blocks s).humidityPerturbations = t.humidityPerturbations) ∧
    (true ∉ s.nonlinear → (t.subset t.blocks s).humidityPerturbations = .ofList []) := by
  have some_iff : s.nonlinear.any id = true ↔ true ∈ s.nonlinear := by simp
  constructor
  · intro member
    exact if_pos (some_iff.mpr member)
  · intro absent
    exact if_neg (fun found => absent (some_iff.mp found))

theorem ascending_subset (t : Table α) (s : Selection) :
    (t.subset t.blocks s).nonlinear.Pairwise (· < ·) := by
  change ((trueIndices s.nonlinear).map Int.ofNat).Pairwise (· < ·)
  rw [List.pairwise_map]
  exact (trueIndices_pairwise _).imp (fun below => Int.ofNat_lt.mpr below)

theorem VectorGrids.subset {t : Table α} (grids : t.VectorGrids) (s : Selection) :
    (t.subset t.blocks s).VectorGrids := by
  refine ⟨?_, grids.pressures, grids.temperatures, ?_⟩
  · exact Tensor.isVector_of_shape (Tensor.shape_rows grids.frequencies _)
  · by_cases kept : true ∈ s.nonlinear
    · rw [(humidities_subset t s).1 kept]
      exact grids.humidities
    · rw [(humidities_subset t s).2 kept]
      exact Tensor.isVector_ofList []

theorem VectorGrids.length_frequencies_subset {t : Table α} (grids : t.VectorGrids)
    (s : Selection) :
    (t.subset t.blocks s).frequencies.toList.length = s.frequencyIndices.length := by
  have shape := Tensor.shape_rows grids.frequencies s.frequencyIndices.toArray
  have flat : (t.subset t.blocks s).frequencies.shape = _ :=
    (grids.subset s).frequencies
  rw [show (t.subset t.blocks s).frequencies = t.frequencies.rows _ from rfl, shape,
    List.cons.injEq] at flat
  rw [← List.size_toArray]
  exact flat.1.symm

namespace Chosen

variable {t : Table α} {r : Request α} {s : Selection} (chosen : t.Chosen r s)
include chosen

theorem length_species : s.speciesIndices.length = r.species.length := chosen.species.length_eq.symm

theorem length_nonlinear : s.nonlinear.length = r.species.length := by
  rw [chosen.nonlinear, List.length_map, chosen.length_species]

theorem tags : List.Forall₂ (fun tag j => t.species[j]? = some tag) r.species s.speciesIndices :=
  chosen.species.imp fun _ j found => (findSpecies_spec found j).mpr rfl

theorem lt_species {j : Nat} (member : j ∈ s.speciesIndices) : j < t.species.length := by
  obtain ⟨i, bound, rfl⟩ := List.getElem_of_mem member
  have tag := chosen.tags.get (by rw [← chosen.length_species]; exact bound) bound
  exact (List.getElem?_eq_some_iff.mp tag).1

theorem lt_frequencies {f : Nat} (member : f ∈ s.frequencyIndices) :
    f < t.frequencies.toList.length :=
  chosen.scan.upper f member

theorem species_subset : (t.subset t.blocks s).species = r.species := by
  have same : List.Forall₂ (· = ·) (s.speciesIndices.map fun j => t.species.getD j "")
      r.species := by
    rw [List.forall₂_map_left_iff]
    refine chosen.tags.flip.imp ?_
    intro j tag found
    rw [List.getD_eq_getElem?_getD, found, Option.getD_some]
  rwa [List.forall₂_eq_eq_eq] at same

/-- The flag of a selected species is its flag in the table. -/
theorem flag {i j : Nat} (index : s.speciesIndices[i]? = some j) :
    s.nonlinear[i]? = some (decide ((j : Int) ∈ t.nonlinear)) := by
  have bound := chosen.lt_species (List.mem_of_getElem? index)
  rw [chosen.nonlinear, List.getElem?_map, index, Option.map_some, List.getD_eq_getElem?_getD,
    getElem?_flags, if_pos bound, Option.getD_some]

theorem mem_nonlinear : true ∈ s.nonlinear ↔ ∃ j ∈ s.speciesIndices, (j : Int) ∈ t.nonlinear := by
  rw [chosen.nonlinear, List.mem_map]
  refine exists_congr fun j => and_congr_right fun member => ?_
  rw [List.getD_eq_getElem?_getD, getElem?_flags, if_pos (chosen.lt_species member),
    Option.getD_some, decide_eq_true_eq]

theorem mem_nonlinear_subset {i j : Nat} (index : s.speciesIndices[i]? = some j) :
    (i : Int) ∈ (t.subset t.blocks s).nonlinear ↔ (j : Int) ∈ t.nonlinear := by
  change (i : Int) ∈ (trueIndices s.nonlinear).map Int.ofNat ↔ _
  rw [← Int.ofNat_eq_natCast, List.mem_map_of_injective (fun _ _ => Int.ofNat.inj), mem_trueIndices,
    chosen.flag index, Option.some.injEq, decide_eq_true_eq]

theorem flags_subset : (t.subset t.blocks s).flags = s.nonlinear := by
  apply flags_of_trueIndices
  · rw [chosen.species_subset, chosen.length_nonlinear]
  · rfl

theorem blocks_subset : (t.subset t.blocks s).blocks =
    blocksFrom t.humidityPerturbations.toList.length 0 s.nonlinear := by
  rw [blocks, chosen.flags_subset]
  apply blocksFrom_congr
  intro kept
  rw [(humidities_subset t s).1 kept]

theorem blocked : Blocked t.blocks t.humidityPerturbations.toList.length s.speciesIndices
    s.nonlinear := by
  rw [Blocked, chosen.nonlinear, List.forall₂_map_right_iff, List.forall₂_same]
  intro j member
  have bound := chosen.lt_species member
  have flagged : t.flags[j]? = some (t.flags.getD j false) := by
    rw [List.getD_eq_getElem?_getD, List.getElem?_eq_getElem (by simpa using bound),
      Option.getD_some]
  exact ⟨_, by rw [blocks, getElem?_blocksFrom, flagged, Option.map_some], rfl⟩

/-- The blocks of a selected species have the same length in both tables. -/
theorem blocks_at {i j : Nat} (index : s.speciesIndices[i]? = some j) : ∃ b c,
    (t.subset t.blocks s).blocks[i]? = some b ∧ t.blocks[j]? = some c ∧ b.length = c.length := by
  have bound := chosen.lt_species (List.mem_of_getElem? index)
  rw [chosen.blocks_subset, blocks, getElem?_blocksFrom, getElem?_blocksFrom, chosen.flag index,
    getElem?_flags, if_pos bound]
  exact ⟨_, _, rfl, rfl, rfl⟩

theorem getElem?_frequencies (grids : t.VectorGrids) {k f : Nat}
    (index : s.frequencyIndices[k]? = some f) :
    (t.subset t.blocks s).frequencies.toList[k]? = t.frequencies.toList[f]? := by
  rw [← (grids.subset s).frequencies.get?, ← grids.frequencies.get?]
  exact Tensor.get?_rows grids.frequencies (by simpa using index)
    (chosen.lt_frequencies (List.mem_of_getElem? index)) []

theorem get?_referenceVmr {i j : Nat} (index : s.speciesIndices[i]? = some j) (level : Nat) :
    (t.subset t.blocks s).referenceVmr.get? [i, level] = t.referenceVmr.get? [j, level] :=
  Tensor.get?_rows chosen.consistent.referenceVmr (by simpa using index)
    (chosen.lt_species (List.mem_of_getElem? index)) [level]

/-- The coefficients of a selected species and frequency are those of the table. -/
theorem coefficient_subset (grids : t.VectorGrids) {i j k f e : Nat} {b c : Block}
    (species : s.speciesIndices[i]? = some j) (own : (t.subset t.blocks s).blocks[i]? = some b)
    (whole : t.blocks[j]? = some c) (frequency : s.frequencyIndices[k]? = some f)
    (inside : e < b.length) (temperature level : Nat) :
    (t.subset t.blocks s).coefficients.get? [temperature, b.offset + e, k, level] =
      t.coefficients.get? [temperature, c.offset + e, f, level] := by
  rw [chosen.blocks_subset] at own
  obtain ⟨_, place⟩ := getElem?_expandedPlaces chosen.blocked own species whole inside
  rw [Nat.sub_zero] at place
  have same : b.length = c.length := by
    obtain ⟨_, _, first, second, same⟩ := chosen.blocks_at species
    rw [chosen.blocks_subset, own, Option.some.injEq] at first
    rw [whole, Option.some.injEq] at second
    rw [first, second, same]
  have stop : c.stop ≤ _ := stop_le_extent whole
  have bound : c.offset + e < extent t.humidityPerturbations.toList.length t.flags := by
    rw [Block.stop] at stop
    omega
  exact Tensor.get?_pickMiddle (chosen.consistent.shape_coefficients grids) (by simpa using place)
    bound (by simpa using frequency) (chosen.lt_frequencies (List.mem_of_getElem? frequency))

theorem shape_subset (grids : t.VectorGrids) : (t.subset t.blocks s).coefficients.shape =
    [max t.temperaturePerturbations.toList.length 1,
      extent t.humidityPerturbations.toList.length s.nonlinear, s.frequencyIndices.length,
      t.pressures.toList.length] := by
  have shape := Tensor.shape_pickMiddle (chosen.consistent.shape_coefficients grids)
    (expandedPlaces t.blocks s.speciesIndices).toArray s.frequencyIndices.toArray
  rw [List.size_toArray, List.size_toArray, length_expandedPlaces chosen.blocked] at shape
  exact shape

theorem existing_subset : ∀ i ∈ (t.subset t.blocks s).nonlinear,
    0 ≤ i ∧ i < (t.subset t.blocks s).species.length := by
  intro i member
  obtain ⟨k, marked, rfl⟩ := List.mem_map.mp member
  obtain ⟨bound, _⟩ := List.getElem?_eq_some_iff.mp (mem_trueIndices.mp marked)
  rw [chosen.length_nonlinear] at bound
  rw [chosen.species_subset]
  exact ⟨Int.natCast_nonneg k, Int.ofNat_lt.mpr bound⟩

theorem nonlinear_subset_eq_nil : (t.subset t.blocks s).nonlinear = [] ↔ true ∉ s.nonlinear := by
  rw [← List.length_eq_zero_iff, ← count_flags (ascending_subset t s) chosen.existing_subset,
    chosen.flags_subset, List.count_eq_zero]

/-- An adapted table keeps humidity perturbations exactly if it has nonlinear species. -/
theorem perturbed_subset : (t.subset t.blocks s).humidityPerturbations.toList = [] ↔
    (t.subset t.blocks s).nonlinear = [] := by
  rw [chosen.nonlinear_subset_eq_nil]
  by_cases kept : true ∈ s.nonlinear
  · rw [(humidities_subset t s).1 kept, chosen.consistent.perturbed]
    refine iff_of_false ?_ (not_not.mpr kept)
    obtain ⟨j, _, marked⟩ := chosen.mem_nonlinear.mp kept
    exact List.ne_nil_of_mem marked
  · rw [(humidities_subset t s).2 kept]
    exact iff_of_true rfl kept

theorem expectedShape_subset (grids : t.VectorGrids) : (t.subset t.blocks s).expectedShape =
    .ok ((t.subset t.blocks s).coefficients.shape.map Int.ofNat) := by
  have same : extent (t.subset t.blocks s).humidityPerturbations.toList.length s.nonlinear =
      extent t.humidityPerturbations.toList.length s.nonlinear := by
    apply extent_congr
    intro kept
    rw [(humidities_subset t s).1 kept]
  rw [(grids.subset s).expectedShape_eq_extent (ascending_subset t s) chosen.existing_subset,
    chosen.flags_subset, same, grids.length_frequencies_subset s, chosen.shape_subset grids]
  rfl

/-- All but the order of its frequencies is in order in an adapted table. -/
theorem fitting_subset (grids : t.VectorGrids) : (t.subset t.blocks s).Fitting where
  species := by
    rw [chosen.species_subset]
    exact chosen.nonempty
  ascending := ascending_subset t s
  existing := chosen.existing_subset
  pressures := chosen.consistent.pressures
  temperatures := chosen.consistent.temperatures
  humidities := by
    by_cases kept : true ∈ s.nonlinear
    · rw [(humidities_subset t s).1 kept]
      exact chosen.consistent.humidities
    · rw [(humidities_subset t s).2 kept]
      rfl
  referenceVmr := by
    rw [chosen.species_subset, ← chosen.length_species, ← List.size_toArray]
    exact Tensor.shape_rows chosen.consistent.referenceVmr _
  referenceTemperature := chosen.consistent.referenceTemperature
  perturbed := chosen.perturbed_subset
  coefficients := chosen.expectedShape_subset grids

end Chosen

/-- A request for two of the species and two of the frequencies of the sample. -/
def sampleRequest : Request ℚ := ⟨["H2O", "O2"], .ofList [100, 301], 1⟩

theorem adapt_sampleRequest : ∃ n,
    sample.adapt sampleRequest = .ok (n, ⟨[1, 0], [0, 2], [true, false], 3, 3⟩) := by
  have selected : (sample.adapt sampleRequest).toOption.map (·.2) =
      some ⟨[1, 0], [0, 2], [true, false], 3, 3⟩ := by decide +kernel
  obtain ⟨⟨n, s⟩, found, rfl⟩ := Option.map_eq_some_iff.mp selected
  exact ⟨n, toOption_eq_some.mp found⟩

end Absorption.Table
