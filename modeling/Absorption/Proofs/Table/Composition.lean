import Absorption.Proofs.Grid.Thinning
import Absorption.Proofs.Table.Adaptation

set_option autoImplicit false

/-!
Adaptation of an adapted table. What is selected of a selection could be selected of the whole table
(`Twice.subset_subset`), whether humidity perturbations go at the first step, at the second or stay.
As the species and frequencies that are left are found again, an adapted table serves for any part
of what it was adapted to (`VectorGrids.adapt_adapt`).
-/

namespace Absorption.Table

attribute [ext] Table

variable {α : Type} [Scalar α]

/-- A selection that is made of a selection, and the same made of the whole table. -/
structure Twice (t : Table α) (r r' : Request α) (s own whole : Selection) : Prop where
  grids : t.VectorGrids
  first : t.Chosen r s
  second : (t.subset t.blocks s).Chosen r' own
  direct : t.Chosen r' whole
  species : List.Forall₂ (fun i j => s.speciesIndices[i]? = some j) own.speciesIndices
    whole.speciesIndices
  frequencies : List.Forall₂ (fun k f => s.frequencyIndices[k]? = some f) own.frequencyIndices
    whole.frequencyIndices

/-- A request is checked before it is searched for. -/
theorem increasing_of_adapt {t : Table α} {r : Request α} {a : Table α × Selection}
    (points : r.frequencies.IsVector) (adapted : t.adapt r = .ok a) :
    Grid.isIncreasing r.frequencies.toList = true := by
  simp only [adapt, select, checkRequest, bind_eq_ok, require_eq_ok,
    Grid.increases_of_isVector points, Except.ok.injEq, exists_eq_left'] at adapted
  obtain ⟨_, ⟨_, _, _, _, _, _, _, ⟨_, _, increasing⟩, _⟩, _⟩ := adapted
  exact increasing

/-- What can be selected is. -/
theorem VectorGrids.adapt_of_chosen {t : Table α} (grids : t.VectorGrids) {r : Request α}
    {s : Selection} (chosen : t.Chosen r s) (points : r.frequencies.IsVector)
    (increasing : Grid.isIncreasing r.frequencies.toList = true) :
    t.adapt r = .ok (t.subset t.blocks s, s) := by
  have existing := chosen.consistent.existing
  have named : (!r.species.isEmpty) = true := by simp [chosen.nonempty]
  have valid : t.validate = .ok () := grids.validate_eq_ok_iff.mpr chosen.consistent
  have request : checkRequest r = .ok () := by
    rw [checkRequest, require_bind named, Grid.increases_of_isVector points, ok_bind, increasing]
    rfl
  have located : Grid.locateIn t.frequencies r.frequencies r.tolerance =
      .ok s.frequencyIndices := by
    rw [grids.frequencies.eq_ofList, points.eq_ofList, Grid.locateIn_ofList]
    exact Grid.locate_eq_ok.mpr chosen.scan
  have selected : t.select r = .ok s := by
    rw [select, grids.frequencies.length, ok_bind, points.length, ok_bind, valid, ok_bind, request,
      ok_bind,
      mapM_eq_ok.mpr chosen.species, ok_bind, mask_eq existing, ok_bind, located, ok_bind,
      ← chosen.nonlinear, ← chosen.tableSpecies, ← chosen.tableFrequencies]
    rfl
  rw [adapt, selected, ok_bind, grids.layout_eq existing]
  rfl

namespace Twice

variable {t : Table α} {r r' : Request α} {s own whole : Selection}
  (twice : t.Twice r r' s own whole)
include twice

theorem nonlinear_eq : own.nonlinear = whole.nonlinear := by
  rw [twice.second.nonlinear, twice.direct.nonlinear, twice.first.flags_subset,
    twice.first.nonlinear]
  refine (map_eq_map_of_forall₂ twice.species ?_).symm
  intro i j _ index
  rw [List.getD_eq_getElem?_getD, List.getD_eq_getElem?_getD, List.getElem?_map, index]
  rfl

/-- As long as nonlinear species are left, the humidity perturbations are. -/
theorem humidities_kept (kept : true ∈ own.nonlinear) :
    (t.subset t.blocks s).humidityPerturbations = t.humidityPerturbations := by
  obtain ⟨i, _, marked⟩ := twice.second.mem_nonlinear.mp kept
  apply (humidities_subset t s).1
  by_contra absent
  rw [twice.first.nonlinear_subset_eq_nil.mpr absent] at marked
  cases marked

theorem humidities_eq :
    ((t.subset t.blocks s).subset (t.subset t.blocks s).blocks own).humidityPerturbations =
      (t.subset t.blocks whole).humidityPerturbations := by
  by_cases kept : true ∈ own.nonlinear
  · rw [(humidities_subset _ own).1 kept, twice.humidities_kept kept,
      (humidities_subset t whole).1 (twice.nonlinear_eq ▸ kept)]
  · rw [(humidities_subset _ own).2 kept, (humidities_subset t whole).2 (twice.nonlinear_eq ▸ kept)]

theorem blocks_eq : ((t.subset t.blocks s).subset (t.subset t.blocks s).blocks own).blocks =
    (t.subset t.blocks whole).blocks := by
  rw [twice.second.blocks_subset, twice.direct.blocks_subset, ← twice.nonlinear_eq]
  apply blocksFrom_congr
  intro kept
  rw [twice.humidities_kept kept]

theorem frequencies_eq :
    ((t.subset t.blocks s).subset (t.subset t.blocks s).blocks own).frequencies =
      (t.subset t.blocks whole).frequencies := by
  have grids := twice.grids.subset s
  have size := grids.length_frequencies_subset own
  have size' := twice.grids.length_frequencies_subset whole
  have count := twice.frequencies.length_eq
  have points : ((t.subset t.blocks s).subset (t.subset t.blocks s).blocks own).frequencies.toList =
      (t.subset t.blocks whole).frequencies.toList := by
    apply List.ext_getElem?
    intro k
    by_cases inside : k < own.frequencyIndices.length
    · have index := List.getElem?_eq_getElem inside
      obtain ⟨f, index', selected⟩ := exists_getElem?_of_forall₂ twice.frequencies index
      rw [twice.second.getElem?_frequencies grids index,
        twice.first.getElem?_frequencies twice.grids selected,
        twice.direct.getElem?_frequencies twice.grids index']
    · rw [List.getElem?_eq_none (by omega), List.getElem?_eq_none (by omega)]
  rw [(grids.subset own).frequencies.eq_ofList, (twice.grids.subset whole).frequencies.eq_ofList,
    points]

theorem referenceVmr_eq :
    ((t.subset t.blocks s).subset (t.subset t.blocks s).blocks own).referenceVmr =
      (t.subset t.blocks whole).referenceVmr := by
  have shape := (twice.second.fitting_subset (twice.grids.subset s)).referenceVmr
  have shape' := (twice.direct.fitting_subset twice.grids).referenceVmr
  rw [twice.second.species_subset] at shape
  rw [twice.direct.species_subset] at shape'
  apply Tensor.eq_of_get? (shape.trans shape'.symm)
  intro p within
  rw [shape, ← twice.second.length_species] at within
  cases within with
  | @cons i _ _ _ inside rest =>
      cases rest with
      | @cons l _ _ _ level rest =>
          cases rest
          have index := List.getElem?_eq_getElem inside
          obtain ⟨j, index', selected⟩ := exists_getElem?_of_forall₂ twice.species index
          rw [twice.second.get?_referenceVmr index, twice.first.get?_referenceVmr selected,
            twice.direct.get?_referenceVmr index']

theorem shape_eq :
    ((t.subset t.blocks s).subset (t.subset t.blocks s).blocks own).coefficients.shape =
      (t.subset t.blocks whole).coefficients.shape := by
  have same : extent (t.subset t.blocks s).humidityPerturbations.toList.length own.nonlinear =
      extent t.humidityPerturbations.toList.length own.nonlinear := by
    apply extent_congr
    intro kept
    rw [twice.humidities_kept kept]
  rw [twice.second.shape_subset (twice.grids.subset s), twice.direct.shape_subset twice.grids, same,
    twice.nonlinear_eq, twice.frequencies.length_eq]
  rfl

/-- Coefficients that are taken twice are those that are taken once. -/
theorem get?_coefficients {i k e : Nat} {b : Block}
    (block : ((t.subset t.blocks s).subset (t.subset t.blocks s).blocks own).blocks[i]? = some b)
    (inside : e < b.length) (frequency : k < own.frequencyIndices.length) (a l : Nat) :
    ((t.subset t.blocks s).subset (t.subset t.blocks s).blocks own).coefficients.get?
        [a, b.offset + e, k, l] =
      (t.subset t.blocks whole).coefficients.get? [a, b.offset + e, k, l] := by
  have bound : i < own.speciesIndices.length := by
    rw [twice.second.length_species, ← twice.second.species_subset]
    exact lt_of_block block
  have species := List.getElem?_eq_getElem bound
  have point := List.getElem?_eq_getElem frequency
  obtain ⟨j, species', selected⟩ := exists_getElem?_of_forall₂ twice.species species
  obtain ⟨f, point', picked⟩ := exists_getElem?_of_forall₂ twice.frequencies point
  obtain ⟨c, d, middle, outer, same⟩ := twice.first.blocks_at selected
  obtain ⟨b', c', block', middle', same'⟩ := twice.second.blocks_at species
  rw [block, Option.some.injEq] at block'
  rw [middle, Option.some.injEq] at middle'
  have within : e < c.length := by rwa [middle', ← same', ← block']
  rw [twice.second.coefficient_subset (twice.grids.subset s) species block middle point inside,
    twice.first.coefficient_subset twice.grids selected middle outer picked within,
    twice.direct.coefficient_subset twice.grids species' (twice.blocks_eq ▸ block) outer point'
      inside]

theorem coefficients_eq :
    ((t.subset t.blocks s).subset (t.subset t.blocks s).blocks own).coefficients =
      (t.subset t.blocks whole).coefficients := by
  apply Tensor.eq_of_get? twice.shape_eq
  intro p within
  rw [twice.second.shape_subset (twice.grids.subset s)] at within
  obtain ⟨a, q, k, l, rfl, _, place, frequency, _⟩ := Tensor.exists_of_within within
  obtain ⟨i, b, block, e, inside, rfl⟩ := exists_block_of_lt place
  rw [← twice.second.blocks_subset] at block
  exact twice.get?_coefficients block inside frequency a l

/-- The table of a selection of a selection is that of a selection of the whole. -/
theorem subset_subset :
    (t.subset t.blocks s).subset (t.subset t.blocks s).blocks own = t.subset t.blocks whole := by
  apply Table.ext
  · rw [twice.second.species_subset, twice.direct.species_subset]
  · change (trueIndices own.nonlinear).map Int.ofNat = (trueIndices whole.nonlinear).map Int.ofNat
    rw [twice.nonlinear_eq]
  · exact twice.frequencies_eq
  · rfl
  · exact twice.referenceVmr_eq
  · rfl
  · rfl
  · exact twice.humidities_eq
  · exact twice.coefficients_eq
  · rfl

end Twice

/-- A tag of an adapted table is found in it, and in the table where it was found. -/
theorem Chosen.findSpecies_subset {t : Table α} {r : Request α} {s : Selection}
    (chosen : t.Chosen r s) (distinct : r.species.Nodup) {tag : String} (member : tag ∈ r.species) :
    ∃ i j : Nat, (t.subset t.blocks s).findSpecies tag = .ok i ∧ t.findSpecies tag = .ok j ∧
      s.speciesIndices[i]? = some j := by
  obtain ⟨i, inside, rfl⟩ := List.getElem_of_mem member
  have index := List.getElem?_eq_getElem inside
  obtain ⟨j, found, whole⟩ := exists_getElem?_of_forall₂ chosen.species index
  refine ⟨i, j, findSpecies_of_nodup ?_ ?_, whole, found⟩
  · rwa [chosen.species_subset]
  · rw [chosen.species_subset, index]

theorem Chosen.findSpecies_forall {t : Table α} {r : Request α} {s : Selection}
    (chosen : t.Chosen r s) (distinct : r.species.Nodup) {tags : List String}
    (known : ∀ tag ∈ tags, tag ∈ r.species) : ∃ own whole,
      List.Forall₂ (fun tag i => (t.subset t.blocks s).findSpecies tag = .ok i) tags own ∧
      List.Forall₂ (fun tag j => t.findSpecies tag = .ok j) tags whole ∧
      List.Forall₂ (fun i j => s.speciesIndices[i]? = some j) own whole := by
  induction tags with
  | nil => exact ⟨[], [], .nil, .nil, .nil⟩
  | cons tag tags ih =>
      obtain ⟨i, j, own, whole, index⟩ := chosen.findSpecies_subset distinct (known tag (.head _))
      obtain ⟨is, js, owns, wholes, indices⟩ := ih fun tag member => known tag (.tail _ member)
      exact ⟨i :: is, j :: js, .cons own owns, .cons whole wholes, .cons index indices⟩

/-- The selection of the species and frequencies that were found. -/
def selectionOf (t : Table α) (species frequencies : List Nat) : Selection where
  speciesIndices := species
  frequencyIndices := frequencies
  nonlinear := species.map fun i => t.flags.getD i false
  tableSpecies := t.species.length
  tableFrequencies := t.frequencies.toList.length

theorem Consistent.chosen {t : Table α} (consistent : t.Consistent) {r : Request α}
    {species frequencies : List Nat} (points : r.frequencies.IsVector) (nonempty : r.species ≠ [])
    (named : List.Forall₂ (fun tag j => t.findSpecies tag = .ok j) r.species species)
    (scan : Grid.Scan r.tolerance t.frequencies.toList 0 r.frequencies.toList frequencies) :
    t.Chosen r (t.selectionOf species frequencies) where
  consistent := consistent
  nonempty := nonempty
  species := named
  scan := scan
  frequencyCount := by
    rw [points.length, ← Grid.length_of_locate (Grid.locate_eq_ok.mpr scan)]
    rfl
  nonlinear := rfl
  tableSpecies := rfl
  tableFrequencies := rfl

/-- An adapted table, adapted to part of what it was adapted to, is what the whole table is when it
is adapted to that part. -/
theorem VectorGrids.adapt_adapt [RoundedScalar α] {t n : Table α} (grids : t.VectorGrids)
    {r r' : Request α} {s : Selection} (points : r.frequencies.IsVector)
    (finite : ∀ x ∈ r.frequencies.toList, Scalar.IsFinite x) (tags : r.species.Nodup)
    (adapted : t.adapt r = .ok (n, s)) (distinct : s.frequencyIndices.Nodup)
    (points' : r'.frequencies.IsVector) (nonempty : r'.species ≠ [])
    (known : ∀ tag ∈ r'.species, tag ∈ r.species)
    (part : r'.frequencies.toList.Sublist r.frequencies.toList)
    (tolerance : r'.tolerance = r.tolerance) :
    ∃ m own whole, n.adapt r' = .ok (m, own) ∧ t.adapt r' = .ok (m, whole) := by
  have increasing := increasing_of_adapt points adapted
  obtain ⟨chosen, rfl⟩ := grids.chosen_of_adapt adapted
  have rising := Grid.isIncreasing_iff.mp increasing
  have rising' := Grid.isIncreasing_iff.mpr (rising.sublist part)
  have consistent : (t.subset t.blocks s).Consistent :=
    ⟨chosen.fitting_subset grids, (chosen.increases_subset grids).mpr distinct⟩
  obtain ⟨ks, fs, scan, scan', frequencies⟩ := chosen.scan.thin
    (Grid.isIncreasing_iff.mp chosen.consistent.frequencies) rising finite distinct
    (fun _ _ index => chosen.getElem?_frequencies grids index) part
  rw [← tolerance] at scan scan'
  obtain ⟨is, js, own, whole, species⟩ := chosen.findSpecies_forall tags known
  have second := consistent.chosen points' nonempty own scan
  have direct := chosen.consistent.chosen points' nonempty whole scan'
  have twice : t.Twice r r' s _ _ := ⟨grids, chosen, second, direct, species, frequencies⟩
  have again := (grids.subset s).adapt_of_chosen second points' rising'
  rw [twice.subset_subset] at again
  exact ⟨_, _, _, again, grids.adapt_of_chosen direct points' rising'⟩

/-- A table of binary64 numbers, of which the second species is nonlinear. -/
def humidSample : Table Float where
  species := ["O2", "H2O"]
  nonlinear := [1]
  frequencies := .ofList [100, 200, 300]
  pressures := .ofList [2, 1]
  referenceVmr := .ofFn [2, 2] fun _ => 0.2
  referenceTemperature := .ofList [250, 252]
  temperaturePerturbations := .ofList []
  humidityPerturbations := .ofList [0.5, 2]
  coefficients := .ofFn [1, 3, 3, 2] fun _ => 1
  logPressures := none

/-- A request for both species, and one for part of it. -/
def bothRequest : Request Float := ⟨["H2O", "O2"], .ofList [100.4, 299.6], 1⟩

def partRequest : Request Float := ⟨["O2", "O2"], .ofList [299.6], 1⟩

/-- The first step keeps the humidity perturbations, the second does without. -/
theorem adapt_adapt_sample : ∃ n m own whole,
    humidSample.adapt bothRequest = .ok (n, ⟨[1, 0], [0, 2], [true, false], 2, 3⟩) ∧
    n.adapt partRequest = .ok (m, own) ∧ humidSample.adapt partRequest = .ok (m, whole) := by
  have grids : humidSample.VectorGrids := ⟨rfl, rfl, rfl, rfl⟩
  have selected : (humidSample.adapt bothRequest).toOption.map (·.2) =
      some ⟨[1, 0], [0, 2], [true, false], 2, 3⟩ := by decide +kernel
  obtain ⟨⟨n, s⟩, found, rfl⟩ := Option.map_eq_some_iff.mp selected
  have adapted := toOption_eq_some.mp found
  have finite : ∀ x ∈ bothRequest.frequencies.toList, Scalar.IsFinite x :=
    show ∀ x ∈ [(100.4 : Float), 299.6], x - x ≤ x - x by decide +kernel
  have part : partRequest.frequencies.toList.Sublist bothRequest.frequencies.toList :=
    List.sublist_cons_self _ _
  have known : ∀ tag ∈ partRequest.species, tag ∈ bothRequest.species := by decide
  obtain ⟨m, own, whole, again, once⟩ := grids.adapt_adapt (Tensor.isVector_ofList _) finite
    (by decide) adapted (by decide) (Tensor.isVector_ofList _) (List.cons_ne_nil _ _) known part rfl
  exact ⟨n, m, own, whole, adapted, again, once⟩

end Absorption.Table
