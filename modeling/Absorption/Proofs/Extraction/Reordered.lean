import Absorption.Proofs.Extraction.Adapted
import Absorption.Proofs.Extraction.Kept
import Absorption.Proofs.Table.Composition

set_option autoImplicit false

/-!
The order of the species in a request. A course in one table leads to one in a table that holds the
same species in another order (`Reorders.course`): the columns change places, and no value changes,
as long as humidity is taken from the same profile and amount. It is taken from the first species of
its molecule, so with two of them the order may decide whether an extraction succeeds at all.
-/

namespace Absorption

variable {α : Type} [Scalar α]

/-- The columns at some places. -/
def pickColumns (places : List Nat) (columns : List (List α)) : List (List α) :=
  places.map fun j => columns.getD j []

theorem value_pickColumns {places : List Nat} {columns : List (List α)} {i j : Nat}
    (place : places[i]? = some j) (f : Nat) :
    Sample.value (pickColumns places columns) f i = Sample.value columns f j := by
  rw [Sample.value, Sample.value, pickColumns, List.getElem?_map, place, Option.map_some,
    Option.bind_some, List.getD_eq_getElem?_getD]
  cases columns[j]? <;> rfl

namespace Table

/-- The table `u` holds the species from some places of the table `t`, and all else as `t` does. -/
structure Reorders (t u : Table α) (places : List Nat) : Prop where
  count : places.length = u.species.length
  inside : ∀ j ∈ places, j < t.species.length
  flags : ∀ i j : Nat, places[i]? = some j → u.flags[i]? = t.flags[j]?
  blocks : ∀ i j : Nat, places[i]? = some j → ∃ b c, u.blocks[i]? = some b ∧ t.blocks[j]? = some c ∧
    b.length = c.length ∧ ∀ a e f l, e < b.length → f < t.frequencies.toList.length →
      u.coefficients.get? [a, b.offset + e, f, l] = t.coefficients.get? [a, c.offset + e, f, l]
  frequencies : u.frequencies = t.frequencies
  pressures : u.pressures = t.pressures
  logPressures : u.logPressures = t.logPressures
  referenceTemperature : u.referenceTemperature = t.referenceTemperature
  temperatures : u.temperaturePerturbations = t.temperaturePerturbations
  humidities : u.humidityPerturbations = t.humidityPerturbations
  nonlinear : u.nonlinear.isEmpty = t.nonlinear.isEmpty

/-- Where two tables have the same reference and the air the same amount, humidity is placed in the
same way. -/
theorem humidityPosition_congr {t u : Table α} {order h h' : Int} {air air' : Air α} {level : Nat}
    {axis : Option (Tensor α × Bounds α)} {found : Option (Position α)}
    (reference : u.referenceVmr.entry [h', Int.ofNat level] =
      t.referenceVmr.entry [h, Int.ofNat level])
    (vmr : air'.vmr h' = air.vmr h)
    (position : t.humidityPosition order h air level axis = .ok found) :
    u.humidityPosition order h' air' level axis = .ok found := by
  cases axis with
  | none => exact position
  | some range =>
      rw [humidityPosition_eq_ok] at position ⊢
      simp only [reference, Air.fraction, vmr]
      exact position

namespace Reorders

variable {t u : Table α} {places : List Nat} (reorders : t.Reorders u places)
include reorders

theorem hasLog_eq : u.hasLog = t.hasLog := by
  simp only [hasLog, reorders.logPressures, reorders.pressures]

omit [Scalar α] in
theorem checkOrders_eq (o : Orders) : u.checkOrders o = t.checkOrders o := by
  simp only [checkOrders, reorders.pressures, reorders.humidities, reorders.temperatures]

omit [Scalar α] in
theorem frequencyRange_eq (frequency : Int) :
    u.frequencyRange frequency = t.frequencyRange frequency := by
  simp only [frequencyRange, reorders.frequencies]

theorem pressurePosition_eq (order : Int) (pressure : α) :
    u.pressurePosition order pressure = t.pressurePosition order pressure := by
  simp only [pressurePosition, reorders.pressures, reorders.logPressures]

theorem temperaturePosition_eq (order : Int) (air : Air α) (level : Nat)
    (axis : Option (Tensor α × Bounds α)) :
    u.temperaturePosition order (air.pick places) level axis =
      t.temperaturePosition order air level axis := by
  cases axis with
  | none => rfl
  | some range =>
      simp only [temperaturePosition, reorders.referenceTemperature]
      rfl

/-- The columns of the species at their new places. -/
theorem interpolates {p : LevelPosition α} {level first count : Nat} {columns : List (List α)}
    (axes : t.coefficients.shape.length = 4) (axes' : u.coefficients.shape.length = 4)
    (known : first + count ≤ t.frequencies.toList.length)
    (interpolated : t.Interpolates p level first count columns) :
    u.Interpolates p level first count (pickColumns places columns) := by
  refine ⟨?_, ?_, ?_⟩
  · rw [pickColumns, List.length_map, reorders.count]
  · intro column member
    obtain ⟨j, place, rfl⟩ := List.mem_map.mp member
    have inside : j < columns.length := by
      rw [interpolated.width]
      exact reorders.inside j place
    rw [List.getD_eq_getElem?_getD, List.getElem?_eq_getElem inside, Option.getD_some]
    exact interpolated.height _ (List.getElem_mem inside)
  · intro i isNonlinear b k flag block bound
    have inside : i < places.length := by
      rw [reorders.count]
      exact lt_of_flag flag
    have place := List.getElem?_eq_getElem inside
    obtain ⟨b', c, own, whole, length, same⟩ := reorders.blocks i _ place
    rw [block, Option.some.injEq] at own
    subst own
    have some := length_block_pos_or flag block
    have flag' := reorders.flags i _ place
    rw [flag] at flag'
    rw [value_pickColumns place, ← interpolated.value _ _ _ _ flag'.symm whole bound]
    exact levelValue_congr axes axes' rfl (fun _ => rfl) length some
      (fun a e within => same a e _ level within (by omega))

/-- A course in one table leads to a course in the other, column by column. -/
theorem course {o : Orders} {molecule : String} {air : Air α} {frequency : Int}
    (c : t.Course o molecule air frequency) (axes : t.coefficients.shape.length = 4)
    (axes' : u.coefficients.shape.length = 4)
    (known : c.first + c.count ≤ t.frequencies.toList.length) {h : Int}
    (species : u.humiditySpecies molecule = .ok h)
    (same : t.nonlinear.isEmpty = false → (air.pick places).vmr h = air.vmr c.humidity ∧
      ∀ level : Nat, u.referenceVmr.entry [h, Int.ofNat level] =
        t.referenceVmr.entry [c.humidity, Int.ofNat level]) :
    ∃ own : u.Course o molecule (air.pick places) frequency, own.count = c.count ∧
      own.pressures = c.pressures ∧ own.levels = c.levels.map (pickColumns places) ∧
      own.density = c.density := by
  -- Without nonlinear species there is no humidity axis, and the references need not agree.
  have placed {level : Nat} {found : Option (Position α)}
      (position : t.humidityPosition o.humidity c.humidity air level c.humidities = .ok found) :
      u.humidityPosition o.humidity h (air.pick places) level c.humidities = .ok found := by
    cases some : t.nonlinear.isEmpty with
    | false =>
        obtain ⟨vmr, reference⟩ := same some
        exact humidityPosition_congr (reference level) vmr position
    | true =>
        obtain ⟨_, axis⟩ | ⟨present, _⟩ := perturbations_eq_ok.mp c.humidityAxis
        · rw [axis] at position ⊢
          exact position
        · rw [some] at present
          cases present
  have sampled : List.Forall₂ (u.Sampled o h (air.pick places) c.first c.count c.temperatures
      c.humidities) c.pressures.indices (c.levels.map (pickColumns places)) := by
    rw [List.forall₂_map_right_iff]
    refine c.sampled.imp ?_
    rintro level columns ⟨inside, p, temperature, humidity, interpolated⟩
    refine ⟨by rwa [reorders.pressures], p, ?_, placed humidity,
      reorders.interpolates axes axes' known interpolated⟩
    rw [reorders.temperaturePosition_eq]
    exact temperature
  exact ⟨{
    humidity := h
    first := c.first
    count := c.count
    pressures := c.pressures
    temperatures := c.temperatures
    humidities := c.humidities
    levels := c.levels.map (pickColumns places)
    density := c.density
    reference := species
    logged := by rw [reorders.hasLog_eq, c.logged]
    ordered := by rw [reorders.checkOrders_eq, c.ordered]
    vmrs := by rw [Air.pick, List.length_map, reorders.count]
    selected := by rw [reorders.frequencyRange_eq, c.selected]
    placed := (reorders.pressurePosition_eq _ _).trans c.placed
    temperatureAxis := by rw [reorders.temperatures, c.temperatureAxis]
    humidityAxis := by rw [reorders.humidities, reorders.nonlinear, c.humidityAxis]
    sampled := sampled
    dense := c.dense }, rfl, rfl, rfl, rfl⟩

/-- The result of such a course holds the columns at their new places. -/
theorem copies_result {o : Orders} {molecule : String} {air : Air α} {frequency : Int}
    (c : t.Course o molecule air frequency) {own : u.Course o molecule (air.pick places) frequency}
    (count : own.count = c.count) (pressures : own.pressures = c.pressures)
    (levels : own.levels = c.levels.map (pickColumns places)) (density : own.density = c.density)
    {f i j : Nat} (row : f < c.count) (place : places[i]? = some j) :
    own.result.Copies [f, i] c.result [f, j] := by
  have row' : f < own.count := by rwa [count]
  have column : i < u.species.length := by
    rw [← reorders.count]
    exact (List.getElem?_eq_some_iff.mp place).1
  have column' := reorders.inside j (List.mem_of_getElem? place)
  apply Tensor.copies_of_get?
  · rw [Course.result, Course.result, Tensor.get?_ofFn, Tensor.get?_ofFn,
      if_pos (Tensor.place?_isSome.mpr (.cons row' (.cons column .nil))),
      if_pos (Tensor.place?_isSome.mpr (.cons row (.cons column' .nil)))]
    have values : own.levels.map (Sample.value · f i) = c.levels.map (Sample.value · f j) := by
      rw [levels, List.map_map]
      exact List.map_congr_left fun columns _ => value_pickColumns place f
    have vmr : (air.pick places).vmrs.getD i 0 = air.vmrs.getD j 0 := by
      rw [Air.pick, List.getD_eq_getElem?_getD, List.getElem?_map, place]
      rfl
    simp only [values, vmr, pressures, density]
  · exact .cons row' (.cons column .nil)

end Reorders

/-- Wherever they stand, two tags have the same reference profile. -/
def SameReference (t : Table α) (a b : String) : Prop :=
  ∀ i j : Nat, t.species[i]? = some a → t.species[j]? = some b →
    ∀ level : Nat, t.referenceVmr.get? [i, level] = t.referenceVmr.get? [j, level]

omit [Scalar α] in
theorem SameReference.entry_eq {t : Table α} {a b : String} (same : t.SameReference a b)
    (axes : t.referenceVmr.shape.length = 2) {i j : Nat} (first : t.species[i]? = some a)
    (second : t.species[j]? = some b) (level : Nat) :
    t.referenceVmr.entry [Int.ofNat i, Int.ofNat level] =
      t.referenceVmr.entry [Int.ofNat j, Int.ofNat level] := by
  have left := Tensor.entry_map_ofNat (t := t.referenceVmr) (p := [i, level]) axes.symm
  have right := Tensor.entry_map_ofNat (t := t.referenceVmr) (p := [j, level]) axes.symm
  rw [same i j first second level, ← right] at left
  exact left

omit [Scalar α] in
theorem sameReference_of_findSpecies {t : Table α} {tag : String} {i : Nat}
    (found : t.findSpecies tag = .ok i) : t.SameReference tag tag := by
  intro j k first second level
  rw [(findSpecies_spec found j).mp first, (findSpecies_spec found k).mp second]

omit [Scalar α] in
theorem SameReference.symm {t : Table α} {a b : String} (same : t.SameReference a b) :
    t.SameReference b a :=
  fun i j first second level => (same j i second first level).symm

/-- Of some tags and the same in another order, both name a first one that fits, or none does. -/
theorem exists_find?_of_perm {tags others : List String} {p : String → Bool}
    (order : others.Perm tags) {i : Nat} (index : tags.findIdx? p = some i) : ∃ a b k,
      tags.find? p = some a ∧ tags[i]? = some a ∧ others.findIdx? p = some k ∧
      others.find? p = some b ∧ others[k]? = some b := by
  have first : tags.find? p = _ := List.find?_eq_bind_findIdx?_getElem?
  have second : others.find? p = _ := List.find?_eq_bind_findIdx?_getElem?
  obtain ⟨inside, fits, _⟩ := List.findIdx?_eq_some_iff_getElem.mp index
  rw [index, Option.bind_some, List.getElem?_eq_getElem inside] at first
  obtain ⟨b, found⟩ : ∃ b, others.find? p = some b := by
    rw [← Option.isSome_iff_exists, List.find?_isSome]
    exact ⟨tags[i], order.symm.subset (List.getElem_mem inside), fits⟩
  rw [found, eq_comm, Option.bind_eq_some_iff] at second
  obtain ⟨k, index', place⟩ := second
  exact ⟨_, b, k, first, List.getElem?_eq_getElem inside, index', found, place⟩

/-- The place of each of some tags among others. -/
def placesOf (tags others : List String) : List Nat := tags.map (others.idxOf ·)

theorem tag_of_place {tags others : List String} (known : ∀ tag ∈ tags, tag ∈ others) {i k : Nat}
    (place : (placesOf tags others)[i]? = some k) :
    ∃ tag, tags[i]? = some tag ∧ others[k]? = some tag := by
  rw [placesOf, List.getElem?_map, Option.map_eq_some_iff] at place
  obtain ⟨tag, found, rfl⟩ := place
  exact ⟨tag, found, List.getElem?_idxOf (known tag (List.mem_of_getElem? found))⟩

theorem Chosen.exists_species {t : Table α} {r : Request α} {s : Selection} (chosen : t.Chosen r s)
    {tags : List String} (known : ∀ tag ∈ tags, tag ∈ r.species) :
    ∃ species, List.Forall₂ (fun tag j => t.findSpecies tag = .ok j) tags species := by
  have each (tag : String) (member : tag ∈ tags) : ∃ j, t.findSpecies tag = .ok j := by
    obtain ⟨i, place⟩ := List.getElem?_of_mem (known tag member)
    obtain ⟨j, _, found⟩ := exists_getElem?_of_forall₂ chosen.species place
    exact ⟨j, found⟩
  obtain ⟨species, found⟩ := exists_mapM each
  exact ⟨species, mapM_eq_ok.mp found⟩

/-- Amounts that are given tag by tag are those at the places of the tags. -/
theorem pick_placesOf {tags others : List String} (known : ∀ tag ∈ tags, tag ∈ others)
    (vmr : String → α) (pressure temperature : α) :
    Air.pick ⟨pressure, temperature, others.map vmr⟩ (placesOf tags others) =
      ⟨pressure, temperature, tags.map vmr⟩ := by
  rw [Air.pick, placesOf, List.map_map]
  congr 1
  apply List.map_congr_left
  intro tag member
  rw [Function.comp_apply, List.getD_eq_getElem?_getD, List.getElem?_map,
    List.getElem?_idxOf (known tag member), Option.map_some, Option.getD_some]

namespace Chosen

variable {t : Table α} {r r' : Request α} {s s' : Selection} (chosen : t.Chosen r s)
  (chosen' : t.Chosen r' s')
include chosen chosen'

/-- A tag that both requests name was found at the same place. -/
theorem shared {i k : Nat} {tag : String} (first : r.species[i]? = some tag)
    (second : r'.species[k]? = some tag) :
    ∃ j, s.speciesIndices[i]? = some j ∧ s'.speciesIndices[k]? = some j := by
  obtain ⟨j, index, found⟩ := exists_getElem?_of_forall₂ chosen.species first
  obtain ⟨j', index', found'⟩ := exists_getElem?_of_forall₂ chosen'.species second
  rw [found, Except.ok.injEq] at found'
  exact ⟨j, index, found' ▸ index'⟩

theorem mem_of_known (known : ∀ tag ∈ r'.species, tag ∈ r.species) {j : Nat}
    (member : j ∈ s'.speciesIndices) : j ∈ s.speciesIndices := by
  obtain ⟨k, index⟩ := List.getElem?_of_mem member
  have inside : k < r'.species.length := by
    rw [← chosen'.length_species]
    exact (List.getElem?_eq_some_iff.mp index).1
  obtain ⟨i, first⟩ := List.getElem?_of_mem (known _ (List.getElem_mem inside))
  obtain ⟨j', place, place'⟩ := chosen.shared chosen' first (List.getElem?_eq_getElem inside)
  rw [index, Option.some.injEq] at place'
  exact place' ▸ List.mem_of_getElem? place

theorem mem_nonlinear_of_known (known : ∀ tag ∈ r'.species, tag ∈ r.species)
    (marked : true ∈ s'.nonlinear) : true ∈ s.nonlinear := by
  obtain ⟨j, member, nonlinear⟩ := chosen'.mem_nonlinear.mp marked
  exact chosen.mem_nonlinear.mpr ⟨j, chosen.mem_of_known chosen' known member, nonlinear⟩

/-- Two requests for the same species and frequencies make tables that differ by the order of the
species. -/
theorem reorders (grids : t.VectorGrids) (frequencies : s'.frequencyIndices = s.frequencyIndices)
    (order : r'.species.Perm r.species) : (t.subset t.blocks s).Reorders (t.subset t.blocks s')
      (placesOf r'.species r.species) := by
  have known (tag : String) (member : tag ∈ r'.species) : tag ∈ r.species := order.subset member
  have known' (tag : String) (member : tag ∈ r.species) : tag ∈ r'.species :=
    order.symm.subset member
  have marked : true ∈ s'.nonlinear ↔ true ∈ s.nonlinear :=
    ⟨chosen.mem_nonlinear_of_known chosen' known, chosen'.mem_nonlinear_of_known chosen known'⟩
  have found {i k : Nat} (place : (placesOf r'.species r.species)[i]? = some k) :
      ∃ j, s.speciesIndices[k]? = some j ∧ s'.speciesIndices[i]? = some j := by
    obtain ⟨tag, second, first⟩ := tag_of_place known place
    exact chosen.shared chosen' first second
  have count : s'.frequencyIndices.length = s.frequencyIndices.length := by rw [frequencies]
  exact {
    count := by rw [placesOf, List.length_map, chosen'.species_subset]
    inside := by
      intro k member
      obtain ⟨i, place⟩ := List.getElem?_of_mem member
      obtain ⟨j, index, _⟩ := found place
      rw [chosen.species_subset, ← chosen.length_species]
      exact (List.getElem?_eq_some_iff.mp index).1
    flags := by
      intro i k place
      obtain ⟨j, index, index'⟩ := found place
      rw [chosen.flags_subset, chosen'.flags_subset, chosen.flag index, chosen'.flag index']
    blocks := by
      intro i k place
      obtain ⟨j, index, index'⟩ := found place
      obtain ⟨c, d, own, whole, length⟩ := chosen.blocks_at index
      obtain ⟨b, d', own', whole', length'⟩ := chosen'.blocks_at index'
      rw [whole, Option.some.injEq] at whole'
      subst whole'
      refine ⟨b, c, own', own, length'.trans length.symm, ?_⟩
      intro a e f l inside bound
      have frequency := List.getElem?_eq_getElem
        (show f < s.frequencyIndices.length by rwa [← grids.length_frequencies_subset s])
      rw [chosen'.coefficient_subset grids index' own' whole (by rwa [frequencies]) inside,
        chosen.coefficient_subset grids index own whole frequency (by omega)]
    frequencies := by
      change t.frequencies.rows _ = t.frequencies.rows _
      rw [frequencies]
    pressures := rfl
    logPressures := rfl
    referenceTemperature := rfl
    temperatures := rfl
    humidities := by
      by_cases kept : true ∈ s.nonlinear
      · rw [(humidities_subset t s).1 kept, (humidities_subset t s').1 (marked.mpr kept)]
      · rw [(humidities_subset t s).2 kept, (humidities_subset t s').2 (mt marked.mp kept)]
    nonlinear := by
      rw [Bool.eq_iff_iff, List.isEmpty_iff, List.isEmpty_iff, chosen.nonlinear_subset_eq_nil,
        chosen'.nonlinear_subset_eq_nil, marked] }

/-- In tables that differ by the order of the species, humidity is taken from the first species of
its molecule in each. -/
theorem humidity_reordered (grids : t.VectorGrids) (order : r'.species.Perm r.species)
    {molecule : String} {vmr : String → α} {pressure temperature : α}
    (reference : (t.subset t.blocks s).nonlinear = [] ∨ ∀ a b,
      r.species.find? (Species.molecule · == molecule) = some a →
      r'.species.find? (Species.molecule · == molecule) = some b →
      vmr a = vmr b ∧ t.SameReference a b)
    (empty : (t.subset t.blocks s').nonlinear.isEmpty = (t.subset t.blocks s).nonlinear.isEmpty)
    {h : Int} (species : (t.subset t.blocks s).humiditySpecies molecule = .ok h) :
    ∃ h', (t.subset t.blocks s').humiditySpecies molecule = .ok h' ∧
      ((t.subset t.blocks s).nonlinear.isEmpty = false →
        Air.vmr ⟨pressure, temperature, r'.species.map vmr⟩ h' =
          Air.vmr ⟨pressure, temperature, r.species.map vmr⟩ h ∧
        ∀ level : Nat, (t.subset t.blocks s').referenceVmr.entry [h', Int.ofNat level] =
          (t.subset t.blocks s).referenceVmr.entry [h, Int.ofNat level]) := by
  cases some : (t.subset t.blocks s).nonlinear.isEmpty with
  | true => exact ⟨-1, by rw [humiditySpecies, empty, some]; rfl, nofun⟩
  | false =>
      rw [humiditySpecies, some, if_neg Bool.false_ne_true] at species
      rw [humiditySpecies, empty, some, if_neg Bool.false_ne_true]
      rw [humidityIndex?, chosen.species_subset] at species
      rw [humidityIndex?, chosen'.species_subset]
      cases index : r.species.findIdx? (Species.molecule · == molecule) with
      | none => simp [index] at species
      | some i =>
          obtain ⟨a, b, k, first, place, index', second, place'⟩ :=
            exists_find?_of_perm order index
          rw [index] at species
          rw [index', ← Except.ok.inj species]
          obtain ⟨vmrs, rows⟩ := reference.resolve_left (by simpa using some) a b first second
          obtain ⟨j, found, tag⟩ := exists_getElem?_of_forall₂ chosen.tags place
          obtain ⟨j', found', tag'⟩ := exists_getElem?_of_forall₂ chosen'.tags place'
          refine ⟨Int.ofNat k, rfl, fun _ => ⟨?_, ?_⟩⟩
          · change Air.vmr _ (Int.ofNat k) = Air.vmr _ (Int.ofNat i)
            rw [Air.vmr_ofNat, Air.vmr_ofNat, List.getElem?_map, List.getElem?_map, place, place',
              Option.map_some, Option.map_some, vmrs]
          · intro level
            change _ = (t.subset t.blocks s).referenceVmr.entry [Int.ofNat i, Int.ofNat level]
            rw [chosen.entry_referenceVmr grids found, chosen'.entry_referenceVmr grids found']
            have axes : t.referenceVmr.shape.length = 2 := by
              rw [chosen.consistent.referenceVmr]
              rfl
            exact (rows.entry_eq axes tag tag' level).symm

/-- An extraction from the one table leads to an extraction from the other, in which the columns
have changed places. -/
theorem extract_of_perm (grids : t.VectorGrids)
    (frequencies : s'.frequencyIndices = s.frequencyIndices) (distinct : r.species.Nodup)
    (order : r'.species.Perm r.species) {o : Orders}
    {molecule : String} {vmr : String → α} {pressure temperature : α} {frequency : Int}
    (reference : (t.subset t.blocks s).nonlinear = [] ∨ ∀ a b,
      r.species.find? (Species.molecule · == molecule) = some a →
      r'.species.find? (Species.molecule · == molecule) = some b →
      vmr a = vmr b ∧ t.SameReference a b) {x : Tensor α}
    (extracted : (t.subset t.blocks s).extract o molecule
      ⟨pressure, temperature, r.species.map vmr⟩ frequency = .ok x) :
    ∃ y rows, (t.subset t.blocks s').extract o molecule
        ⟨pressure, temperature, r'.species.map vmr⟩ frequency = .ok y ∧
      x.shape = [rows, r.species.length] ∧ y.shape = [rows, r'.species.length] ∧
      ∀ (i k : Nat) tag, r.species[i]? = some tag → r'.species[k]? = some tag →
        ∀ f < rows, y.Copies [f, k] x [f, i] := by
  have fits := chosen.fitting_subset grids
  have fits' := chosen'.fitting_subset grids
  have axes := fits.shape_coefficients (grids.subset s)
  have axes' := fits'.shape_coefficients (grids.subset s')
  have reorders := chosen.reorders chosen' grids frequencies order
  obtain ⟨c, rfl⟩ := (fits.extract_eq_ok (grids.subset s)).mp extracted
  have known := (grids.subset s).frequencyRange_inside c.selected
  have picked := pick_placesOf (fun tag (member : tag ∈ r'.species) => order.subset member) vmr
    pressure temperature
  obtain ⟨h, species, same⟩ := chosen.humidity_reordered chosen' grids order reference
    reorders.nonlinear c.reference
  rw [← picked] at same
  obtain ⟨own, count, pressures, levels, density⟩ := reorders.course c (by rw [axes]; rfl)
    (by rw [axes']; rfl) known species same
  refine ⟨own.result, c.count, ?_, ?_, ?_, ?_⟩
  · rw [← picked]
    exact (fits'.extract_eq_ok (grids.subset s')).mpr ⟨own, rfl⟩
  · rw [Course.result, Tensor.shape_ofFn, chosen.species_subset]
  · rw [Course.result, Tensor.shape_ofFn, count, chosen'.species_subset]
  · intro i k tag first second f row
    apply reorders.copies_result c count pressures levels density row
    rw [placesOf, List.getElem?_map, second, Option.map_some, Option.some.injEq]
    obtain ⟨inside, rfl⟩ := List.getElem?_eq_some_iff.mp first
    exact distinct.idxOf_getElem i inside

end Chosen

/-- A request for other species of a table, with the same frequencies, finds those where it did. -/
theorem VectorGrids.adapt_species {t n : Table α} (grids : t.VectorGrids) {r : Request α}
    {s : Selection} (adapted : t.adapt r = .ok (n, s)) {tags : List String} (nonempty : tags ≠ [])
    {species : List Nat}
    (found : List.Forall₂ (fun tag j => t.findSpecies tag = .ok j) tags species) :
    t.adapt { r with species := tags } =
      .ok (t.subset t.blocks (t.selectionOf species s.frequencyIndices),
        t.selectionOf species s.frequencyIndices) := by
  simp only [adapt, select, checkRequest, bind_eq_ok, pure_eq_ok, require_eq_ok, mapM_eq_ok,
    Prod.mk.injEq] at adapted ⊢
  obtain ⟨_, ⟨held, count, want, asked, _, valid, _, ⟨_, _, up, rises, rising⟩, _, _, mask, masked,
    places, located, rfl⟩, layout, laidOut, _, rfl⟩ := adapted
  have existing := (grids.validate_eq_ok_iff.mp valid).existing
  rw [mask_eq existing, Except.ok.injEq] at masked
  rw [grids.layout_eq existing, Except.ok.injEq] at laidOut
  rw [grids.frequencies.length, Except.ok.injEq] at count
  subst masked laidOut count
  exact ⟨_, ⟨_, grids.frequencies.length, want, asked, (), valid, (), ⟨(), by simpa using nonempty,
    up, rises, rising⟩, species, found, _, mask_eq existing, places, located, rfl⟩, _,
    grids.layout_eq existing, rfl, rfl⟩

/-- The order in which species are asked for changes no column of an extraction, provided that
humidity is taken from the same profile and amount. -/
theorem VectorGrids.extract_reordered {t n : Table α} (grids : t.VectorGrids) {r : Request α}
    {s : Selection} (adapted : t.adapt r = .ok (n, s)) (distinct : r.species.Nodup)
    {tags : List String} (order : tags.Perm r.species) {molecule : String} {vmr : String → α}
    (reference : n.nonlinear = [] ∨ ∀ a b,
      r.species.find? (Species.molecule · == molecule) = some a →
      tags.find? (Species.molecule · == molecule) = some b → vmr a = vmr b ∧ t.SameReference a b)
    (o : Orders) (pressure temperature : α) (frequency : Int) :
    ∃ m s', t.adapt { r with species := tags } = .ok (m, s') ∧
      ((∃ x, n.extract o molecule ⟨pressure, temperature, r.species.map vmr⟩ frequency = .ok x) ↔
        ∃ y, m.extract o molecule ⟨pressure, temperature, tags.map vmr⟩ frequency = .ok y) ∧
      ∀ x y, n.extract o molecule ⟨pressure, temperature, r.species.map vmr⟩ frequency = .ok x →
        m.extract o molecule ⟨pressure, temperature, tags.map vmr⟩ frequency = .ok y →
        ∃ rows, x.shape = [rows, r.species.length] ∧ y.shape = [rows, tags.length] ∧
          ∀ (i k : Nat) tag, r.species[i]? = some tag → tags[k]? = some tag →
            ∀ f < rows, y.Copies [f, k] x [f, i] := by
  obtain ⟨chosen, rfl⟩ := grids.chosen_of_adapt adapted
  have known (tag : String) (member : tag ∈ tags) : tag ∈ r.species := order.subset member
  obtain ⟨species, found⟩ := chosen.exists_species known
  have adapted' := grids.adapt_species adapted
    (fun none => chosen.nonempty ((none ▸ order).nil_eq.symm)) found
  have chosen' := (grids.chosen_of_adapt adapted').1
  have back : (t.subset t.blocks (t.selectionOf species s.frequencyIndices)).nonlinear = [] ∨
      ∀ a b, tags.find? (Species.molecule · == molecule) = some a →
        r.species.find? (Species.molecule · == molecule) = some b →
        vmr a = vmr b ∧ t.SameReference a b := by
    refine reference.imp ?_ ?_
    · have empty := (chosen.reorders chosen' grids rfl order).nonlinear
      rw [← List.isEmpty_iff, ← List.isEmpty_iff, empty]
      exact id
    · intro each a b first second
      obtain ⟨vmrs, rows⟩ := each b a second first
      exact ⟨vmrs.symm, rows.symm⟩
  refine ⟨_, _, adapted', ⟨?_, ?_⟩, ?_⟩
  · rintro ⟨x, extracted⟩
    obtain ⟨y, _, given, _⟩ :=
      chosen.extract_of_perm chosen' grids rfl distinct order reference extracted
    exact ⟨y, given⟩
  · rintro ⟨y, extracted⟩
    obtain ⟨x, _, given, _⟩ := chosen'.extract_of_perm chosen grids rfl
      (order.nodup_iff.mpr distinct) order.symm back extracted
    exact ⟨x, given⟩
  · intro x y extracted extracted'
    obtain ⟨y', rows, given, shape, shape', columns⟩ :=
      chosen.extract_of_perm chosen' grids rfl distinct order reference extracted
    rw [extracted', Except.ok.injEq] at given
    subst given
    exact ⟨rows, shape, shape', columns⟩

/-- The amounts of the species of the sample. -/
def sampleVmr (tag : String) : ℚ := if tag = "H2O" then 1 / 80 else 1 / 5

/-- The only species of water leads to the same reference in either order. -/
theorem extract_reordered_sample : ∃ n m s' x y rows, sample.VectorGrids ∧
    sample.adapt sampleRequest = .ok (n, ⟨[1, 0], [0, 2], [true, false], 3, 3⟩) ∧
    sampleRequest.species.Nodup ∧ ["O2", "H2O"].Perm sampleRequest.species ∧
    sample.adapt { sampleRequest with species := ["O2", "H2O"] } = .ok (m, s') ∧
    n.extract ⟨1, 1, 1⟩ "H2O" ⟨3, 251, ["H2O", "O2"].map sampleVmr⟩ (-1) = .ok x ∧
    m.extract ⟨1, 1, 1⟩ "H2O" ⟨3, 251, ["O2", "H2O"].map sampleVmr⟩ (-1) = .ok y ∧
    x.shape = [rows, 2] ∧ y.shape = [rows, 2] ∧ ∀ f < rows, y.Copies [f, 1] x [f, 0] := by
  have succeeds : ((sample.adapt sampleRequest).toOption.bind fun a =>
      (a.1.extract ⟨1, 1, 1⟩ "H2O" ⟨3, 251, ["H2O", "O2"].map sampleVmr⟩ (-1)).toOption).isSome =
        true := by decide +kernel
  obtain ⟨n, adapted⟩ := adapt_sampleRequest
  rw [adapted] at succeeds
  obtain ⟨x, given⟩ := Option.isSome_iff_exists.mp succeeds
  have extracted := toOption_eq_some.mp given
  have distinct : sampleRequest.species.Nodup := by decide +kernel
  have order : ["O2", "H2O"].Perm sampleRequest.species := by decide +kernel
  have first : sampleRequest.species.find? (Species.molecule · == "H2O") = some "H2O" := by
    decide +kernel
  have second : ["O2", "H2O"].find? (Species.molecule · == "H2O") = some "H2O" := by
    decide +kernel
  have reference (a b : String)
      (named : sampleRequest.species.find? (Species.molecule · == "H2O") = some a)
      (named' : ["O2", "H2O"].find? (Species.molecule · == "H2O") = some b) :
      sampleVmr a = sampleVmr b ∧ sample.SameReference a b := by
    rw [first, Option.some.injEq] at named
    rw [second, Option.some.injEq] at named'
    subst named named'
    exact ⟨rfl, sameReference_of_findSpecies (i := 1) rfl⟩
  obtain ⟨m, s', adapted', iff, columns⟩ := vectorGrids_sample.extract_reordered adapted
    distinct order (.inr reference) ⟨1, 1, 1⟩ 3 251 (-1)
  obtain ⟨y, extracted'⟩ := iff.mp ⟨x, extracted⟩
  obtain ⟨rows, shape, shape', same⟩ := columns x y extracted extracted'
  exact ⟨n, m, s', x, y, rows, vectorGrids_sample, adapted, distinct, order, adapted', extracted,
    extracted', shape, shape', same 0 1 "H2O" rfl rfl⟩

end Table

namespace Tabled

/-- A table of two species of water, of which one is nonlinear and the other a tenth of it. -/
def waters : Table Tabled where
  species := ["H2O", "H2O-PWR98"]
  nonlinear := [0]
  frequencies := .ofList [(100 : Float)]
  pressures := .ofList [(2 : Float)]
  referenceVmr := .ofFn [2, 1] fun p => if p = [0, 0] then (0.01 : Float) else (0.001 : Float)
  referenceTemperature := .ofList [(250 : Float)]
  temperaturePerturbations := .ofList []
  humidityPerturbations := .ofList [(0.5 : Float), (2 : Float)]
  coefficients := .ofFn [1, 3, 1, 1] fun _ => (1 : Float)
  logPressures := none

/-- Both species of water, at the frequency of the table. -/
def watersRequest : Request Tabled := ⟨["H2O", "H2O-PWR98"], .ofList [(100 : Float)], (1 : Float)⟩

/-- As much water as in the reference of the one species, and five times that of the other. -/
def watersVmr (tag : String) : Tabled := if tag = "H2O" then (0.01 : Float) else (0.005 : Float)

end Tabled

namespace Table

/-- With two species of water, the first of them decides whether the humidity is in range. -/
theorem extract_waters : ∃ n s m s' x, Tabled.waters.VectorGrids ∧
    Tabled.waters.adapt Tabled.watersRequest = .ok (n, s) ∧ Tabled.watersRequest.species.Nodup ∧
    ["H2O-PWR98", "H2O"].Perm Tabled.watersRequest.species ∧
    Tabled.waters.adapt { Tabled.watersRequest with species := ["H2O-PWR98", "H2O"] } =
      .ok (m, s') ∧
    n.extract ⟨0, 0, 0⟩ "H2O" ⟨(2 : Float), (250 : Float),
      Tabled.watersRequest.species.map Tabled.watersVmr⟩ (-1) = .ok x ∧
    Fails (m.extract ⟨0, 0, 0⟩ "H2O" ⟨(2 : Float), (250 : Float),
      ["H2O-PWR98", "H2O"].map Tabled.watersVmr⟩ (-1)) := by
  have results : ((Tabled.waters.adapt Tabled.watersRequest).toOption.bind fun a =>
      (Tabled.waters.adapt
        { Tabled.watersRequest with species := ["H2O-PWR98", "H2O"] }).toOption.bind fun b =>
      (a.1.extract ⟨0, 0, 0⟩ "H2O" ⟨(2 : Float), (250 : Float),
        Tabled.watersRequest.species.map Tabled.watersVmr⟩ (-1)).toOption.map fun _ =>
      (b.1.extract ⟨0, 0, 0⟩ "H2O" ⟨(2 : Float), (250 : Float),
        ["H2O-PWR98", "H2O"].map Tabled.watersVmr⟩ (-1)).toOption.isSome) = some false := by
    decide +kernel
  obtain ⟨⟨n, s⟩, adapted, results⟩ := Option.bind_eq_some_iff.mp results
  obtain ⟨⟨m, s'⟩, adapted', results⟩ := Option.bind_eq_some_iff.mp results
  obtain ⟨x, extracted, failed⟩ := Option.map_eq_some_iff.mp results
  rw [toOption_eq_some] at adapted adapted' extracted
  exact ⟨n, s, m, s', x, ⟨rfl, rfl, rfl, rfl⟩, adapted, by decide, by decide, adapted', extracted,
    fails_iff.mpr failed⟩

end Table
end Absorption
