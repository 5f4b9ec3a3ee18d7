import Absorption.Proofs.Binary64.Equality
import Absorption.Proofs.Extraction.Course
import Absorption.Proofs.Extraction.Renewal
import Absorption.Proofs.Table.Selection

set_option autoImplicit false

/-!
Adaptation commutes with extraction. The course of an extraction from a table leads, column by
column, to one from the adapted table (`Chosen.course_subset`), so the adapted table gives the
selected entries of what the table gives. Adaptation takes the logarithms of the pressures anew, so
a zero among them may change its sign; the place of the pressure does not depend on it.
-/

namespace Absorption

variable {α : Type} [Scalar α]

/-- The state of the air with the mixing ratios of some of the species. -/
def Air.pick (air : Air α) (species : List Nat) : Air α :=
  { air with vmrs := species.map fun j => air.vmrs.getD j 0 }

/-- The columns of the selected species, at the selected frequencies. -/
def Selection.columns (s : Selection) (columns : List (List α)) : List (List α) :=
  s.speciesIndices.map fun j => s.frequencyIndices.map fun f => Sample.value columns f j

theorem Selection.value_columns {s : Selection} {columns : List (List α)} {i j k f : Nat}
    (species : s.speciesIndices[i]? = some j) (frequency : s.frequencyIndices[k]? = some f) :
    Sample.value (s.columns columns) k i = Sample.value columns f j := by
  rw [Sample.value, Selection.columns, List.getElem?_map, species, Option.map_some,
    Option.bind_some, List.getElem?_map, frequency, Option.map_some, Option.getD_some]

namespace Table

/-- An interpolated value depends on the coefficients of its own block only. -/
theorem levelValue_congr {t n : Table α} (axes : t.coefficients.shape.length = 4)
    (axes' : n.coefficients.shape.length = 4) {p p' : LevelPosition α} {level f k : Nat}
    {isNonlinear : Bool} {b c : Block} (temperature : p'.temperature = p.temperature)
    (humidity : isNonlinear = true → p'.humidity = p.humidity) (length : b.length = c.length)
    (some : 0 < b.length ∨ isNonlinear = true)
    (same : ∀ a e, e < b.length → n.coefficients.get? [a, b.offset + e, k, level] =
      t.coefficients.get? [a, c.offset + e, f, level]) :
    n.levelValue p' level k isNonlinear b = t.levelValue p level f isNonlinear c := by
  have read (a e : Nat) (inside : e < b.length) :
      n.coefficients.valueAt [Int.ofNat a, Int.ofNat (b.offset + e), Int.ofNat k, Int.ofNat level] =
      t.coefficients.valueAt [Int.ofNat a, Int.ofNat (c.offset + e), Int.ofNat f,
        Int.ofNat level] := by
    have own := Tensor.valueAt_ofNat (t := n.coefficients)
      (p := [a, b.offset + e, k, level]) axes'.symm
    have whole := Tensor.valueAt_ofNat (t := t.coefficients)
      (p := [a, c.offset + e, f, level]) axes.symm
    rw [same a e inside, ← whole] at own
    exact own
  have inBlock (a e : Nat) :
      (if e < b.length then n.coefficients.valueAt [Int.ofNat a, Int.ofNat (b.offset + e),
        Int.ofNat k, Int.ofNat level] else fail .outOfBounds) =
      (if e < c.length then t.coefficients.valueAt [Int.ofNat a, Int.ofNat (c.offset + e),
        Int.ofNat f, Int.ofNat level] else fail .outOfBounds) := by
    rw [← length]
    by_cases inside : e < b.length
    · rw [if_pos inside, if_pos inside, read a e inside]
    · rw [if_neg inside, if_neg inside]
  obtain ⟨tp, hp⟩ := p
  obtain ⟨tp', hp'⟩ := p'
  simp only at temperature
  subst temperature
  cases isNonlinear with
  | false =>
      have first (a : Nat) := read a 0 (some.resolve_right (by decide))
      cases tp' with
      | none => exact first 0
      | some tp => simp only [levelValue, first]
  | true =>
      have place : hp' = hp := humidity rfl
      subst place
      simp only [levelValue, inBlock]
      cases tp' <;> cases hp' <;> rfl

/-- The orders fit an adapted table if they fit the table. -/
theorem VectorGrids.checkOrders_subset {t : Table α} (grids : t.VectorGrids) (s : Selection)
    {o : Orders} (ordered : t.checkOrders o = .ok ()) :
    (t.subset t.blocks s).checkOrders o = .ok () := by
  rw [(grids.subset s).checkOrders_eq_ok]
  obtain ⟨signs, levels, fractions, offsets⟩ := grids.checkOrders_eq_ok.mp ordered
  refine ⟨signs, levels, ?_, offsets⟩
  by_cases kept : true ∈ s.nonlinear
  · rw [(humidities_subset t s).1 kept]
    exact fractions
  · rw [(humidities_subset t s).2 kept]
    exact .inl rfl

namespace Chosen

variable {t : Table α} {r : Request α} {s : Selection} (chosen : t.Chosen r s)
include chosen

/-- If a nonlinear species was selected and the request names the humidity species as its first of
that molecule, that species is the one humidity is taken from in the adapted table. -/
theorem humidityIndex_subset {molecule : String} {h : Nat}
    (index : t.humidityIndex? molecule = some h)
    (first : r.species.find? (Species.molecule · == molecule) = t.species[h]?) :
    ∃ i, (t.subset t.blocks s).humidityIndex? molecule = some i ∧
      s.speciesIndices[i]? = some h := by
  have bound := lt_of_humidityIndex? index
  rw [List.find?_eq_bind_findIdx?_getElem?, List.getElem?_eq_getElem bound,
    Option.bind_eq_some_iff] at first
  obtain ⟨i, found, tag⟩ := first
  refine ⟨i, by rw [humidityIndex?, chosen.species_subset]; exact found, ?_⟩
  have inside : i < s.speciesIndices.length := by
    rw [chosen.length_species]
    exact (List.getElem?_eq_some_iff.mp tag).1
  have found := chosen.species.get (by rw [← chosen.length_species]; exact inside) inside
  rw [List.get_eq_getElem, (List.getElem?_eq_some_iff.mp tag).2] at found
  rw [List.getElem?_eq_getElem inside, Option.some.injEq]
  exact ((findSpecies_spec found h).mp (List.getElem?_eq_getElem bound)).symm

theorem vmr_pick {air : Air α} (complete : air.vmrs.length = t.species.length) {i j : Nat}
    (index : s.speciesIndices[i]? = some j) :
    (air.pick s.speciesIndices).vmr (Int.ofNat i) = air.vmr (Int.ofNat j) := by
  have bound := chosen.lt_species (List.mem_of_getElem? index)
  rw [Air.vmr_ofNat, Air.vmr_ofNat, Air.pick, List.getElem?_map, index, Option.map_some,
    List.getD_eq_getElem?_getD, List.getElem?_eq_getElem (by rw [complete]; exact bound),
    Option.getD_some]

variable (grids : t.VectorGrids)
include grids

theorem entry_referenceVmr {i j : Nat} (index : s.speciesIndices[i]? = some j) (level : Nat) :
    (t.subset t.blocks s).referenceVmr.entry [Int.ofNat i, Int.ofNat level] =
      t.referenceVmr.entry [Int.ofNat j, Int.ofNat level] := by
  have own := Tensor.entry_map_ofNat (t := (t.subset t.blocks s).referenceVmr) (p := [i, level])
    (by rw [(chosen.fitting_subset grids).referenceVmr]; rfl)
  have whole := Tensor.entry_map_ofNat (t := t.referenceVmr) (p := [j, level])
    (by rw [chosen.consistent.referenceVmr]; rfl)
  rw [chosen.get?_referenceVmr index, ← whole] at own
  exact own

/-- The humidity of a selected species is placed as it is in the table. -/
theorem humidityPosition_subset {order : Int} {air : Air α}
    (complete : air.vmrs.length = t.species.length) {i j level : Nat}
    (index : s.speciesIndices[i]? = some j) {axis : Option (Tensor α × Bounds α)}
    {found : Option (Position α)}
    (position : t.humidityPosition order (Int.ofNat j) air level axis = .ok found) :
    (t.subset t.blocks s).humidityPosition order (Int.ofNat i) (air.pick s.speciesIndices) level
      axis = .ok found := by
  cases axis with
  | none => exact position
  | some range =>
      rw [humidityPosition_eq_ok] at position
      rw [humidityPosition_eq_ok, chosen.entry_referenceVmr grids index]
      simp only [Air.fraction, chosen.vmr_pick complete index]
      exact position

variable {o : Orders} {molecule : String} {air : Air α} (c : t.Course o molecule air (-1))

/-- Where a nonlinear species was selected, an extraction from the adapted table finds the places of
the humidity that are found in the table; elsewhere it looks for none. -/
theorem humidity_subset (reference : (t.subset t.blocks s).nonlinear = [] ∨ ∃ h,
      t.humidityIndex? molecule = some h ∧
      r.species.find? (Species.molecule · == molecule) = t.species[h]?) :
    ∃ species axis, (t.subset t.blocks s).humiditySpecies molecule = .ok species ∧
      perturbations (t.subset t.blocks s).humidityPerturbations
        (!(t.subset t.blocks s).nonlinear.isEmpty) = .ok axis ∧
      ∀ level found, t.humidityPosition o.humidity c.humidity air level c.humidities = .ok found →
        ∃ own, (t.subset t.blocks s).humidityPosition o.humidity species (air.pick s.speciesIndices)
          level axis = .ok own ∧ (true ∈ s.nonlinear → own = found) := by
  have marked : true ∈ s.nonlinear ↔ (t.subset t.blocks s).nonlinear ≠ [] := by
    rw [ne_eq, chosen.nonlinear_subset_eq_nil, not_not]
  by_cases none : (t.subset t.blocks s).nonlinear = []
  · refine ⟨-1, .none, by rw [humiditySpecies, none]; rfl, by rw [none]; rfl, ?_⟩
    intro level found _
    exact ⟨.none, rfl, fun kept => absurd none (marked.mp kept)⟩
  · obtain ⟨h, index, first⟩ := reference.resolve_left none
    obtain ⟨i, own, selected⟩ := chosen.humidityIndex_subset index first
    have kept := marked.mpr none
    obtain ⟨j, _, member⟩ := chosen.mem_nonlinear.mp kept
    have some : t.nonlinear ≠ [] := List.ne_nil_of_mem member
    have whole : (!t.nonlinear.isEmpty) = true := by simpa using some
    have part : (!(t.subset t.blocks s).nonlinear.isEmpty) = true := by simpa using none
    have species : c.humidity = Int.ofNat h := by
      obtain ⟨_, found, same⟩ := (humiditySpecies_eq_ok some).mp c.reference
      rwa [← Option.some.inj (index.symm.trans found)] at same
    refine ⟨Int.ofNat i, c.humidities, (humiditySpecies_eq_ok none).mpr ⟨i, own, rfl⟩, ?_, ?_⟩
    · rw [(humidities_subset t s).1 kept, part, ← whole]
      exact c.humidityAxis
    · intro level found position
      rw [species] at position
      exact ⟨found, chosen.humidityPosition_subset grids c.vmrs selected position, fun _ => rfl⟩

/-- The values at the selected species and frequencies are those of the adapted table. -/
theorem interpolates_subset {p p' : LevelPosition α} {level : Nat} {columns : List (List α)}
    (temperature : p'.temperature = p.temperature)
    (humidity : true ∈ s.nonlinear → p'.humidity = p.humidity)
    (interpolated : t.Interpolates p level 0 t.frequencies.toList.length columns) :
    (t.subset t.blocks s).Interpolates p' level 0 s.frequencyIndices.length
      (s.columns columns) := by
  have fits := chosen.fitting_subset grids
  refine ⟨?_, ?_, ?_⟩
  · rw [Selection.columns, List.length_map, chosen.length_species, chosen.species_subset]
  · intro column member
    obtain ⟨j, _, rfl⟩ := List.mem_map.mp member
    rw [List.length_map]
  · intro i isNonlinear b k flag block bound
    have inside : i < s.speciesIndices.length := by
      rw [chosen.length_species, ← chosen.species_subset]
      exact lt_of_flag flag
    have species := List.getElem?_eq_getElem inside
    have frequency := List.getElem?_eq_getElem bound
    obtain ⟨_, c, own, whole, length⟩ := chosen.blocks_at species
    rw [block, Option.some.injEq] at own
    rw [← own] at length
    have marked := flag
    rw [chosen.flags_subset, chosen.flag species] at marked
    have flag' : t.flags[s.speciesIndices[i]]? = some isNonlinear := by
      rw [getElem?_flags, if_pos (chosen.lt_species (List.getElem_mem inside)), marked]
    have some := length_block_pos_or flag block
    rw [Selection.value_columns species frequency, Nat.zero_add,
      ← interpolated.value _ _ _ _ flag' whole (chosen.lt_frequencies (List.getElem_mem bound)),
      Nat.zero_add]
    refine levelValue_congr ?_ ?_ temperature ?_ length some ?_
    · rw [chosen.consistent.shape_coefficients grids]
      rfl
    · rw [fits.shape_coefficients (grids.subset s)]
      rfl
    · intro nonlinear
      rw [← chosen.flags_subset] at humidity
      exact humidity (List.mem_of_getElem? (nonlinear ▸ flag))
    · intro a e inside
      exact chosen.coefficient_subset grids species block whole frequency inside a level

/-- A course in the table leads to one in the adapted table, column by column. -/
theorem course_subset (logged : (t.subset t.blocks s).hasLog = .ok true)
    (placed : (t.subset t.blocks s).pressurePosition o.pressure air.pressure =
      t.pressurePosition o.pressure air.pressure)
    (reference : (t.subset t.blocks s).nonlinear = [] ∨ ∃ h,
      t.humidityIndex? molecule = some h ∧
      r.species.find? (Species.molecule · == molecule) = t.species[h]?) :
    ∃ own : (t.subset t.blocks s).Course o molecule (air.pick s.speciesIndices) (-1),
      own.count = s.frequencyIndices.length ∧ own.pressures = c.pressures ∧
      own.levels = c.levels.map s.columns ∧ own.density = c.density := by
  obtain ⟨species, axis, humidity, humidityAxis, found⟩ := chosen.humidity_subset grids c reference
  have all : c.first = 0 ∧ c.count = t.frequencies.toList.length := by
    have range := grids.frequencyRange_eq_ok.mp c.selected
    omega
  have vmrs : (air.pick s.speciesIndices).vmrs.length = (t.subset t.blocks s).species.length := by
    rw [Air.pick, List.length_map, chosen.length_species, chosen.species_subset]
  have selected : (t.subset t.blocks s).frequencyRange (-1) =
      .ok (0, s.frequencyIndices.length) := by
    rw [(grids.subset s).frequencyRange_eq_ok, grids.length_frequencies_subset s]
    exact .inl ⟨by decide, rfl, rfl⟩
  have sampled : List.Forall₂ ((t.subset t.blocks s).Sampled o species
      (air.pick s.speciesIndices) 0 s.frequencyIndices.length c.temperatures axis)
      c.pressures.indices (c.levels.map s.columns) := by
    rw [List.forall₂_map_right_iff]
    refine c.sampled.imp ?_
    rintro level columns ⟨inside, p, temperature, position, interpolated⟩
    obtain ⟨own, position', same⟩ := found level _ position
    rw [all.1, all.2] at interpolated
    exact ⟨inside, ⟨p.temperature, own⟩, temperature, position',
      chosen.interpolates_subset grids (p := p) rfl same interpolated⟩
  exact ⟨⟨species, 0, s.frequencyIndices.length, c.pressures, c.temperatures, axis,
    c.levels.map s.columns, c.density, humidity, logged, grids.checkOrders_subset s c.ordered, vmrs,
    selected, placed.trans c.placed, c.temperatureAxis, humidityAxis, sampled, c.dense⟩, rfl, rfl,
    rfl, rfl⟩

/-- The result of a course in the adapted table holds the selected entries. -/
theorem copies_result
    {own : (t.subset t.blocks s).Course o molecule (air.pick s.speciesIndices) (-1)}
    (count : own.count = s.frequencyIndices.length) (pressures : own.pressures = c.pressures)
    (levels : own.levels = c.levels.map s.columns) (density : own.density = c.density)
    {k i f j : Nat} (frequency : s.frequencyIndices[k]? = some f)
    (species : s.speciesIndices[i]? = some j) : own.result.Copies [k, i] c.result [f, j] := by
  have all : c.count = t.frequencies.toList.length := by
    have range := grids.frequencyRange_eq_ok.mp c.selected
    omega
  have row : k < own.count := by
    rw [count]
    exact (List.getElem?_eq_some_iff.mp frequency).1
  have column : i < (t.subset t.blocks s).species.length := by
    rw [chosen.species_subset, ← chosen.length_species]
    exact (List.getElem?_eq_some_iff.mp species).1
  have row' : f < c.count := by
    rw [all]
    exact chosen.lt_frequencies (List.mem_of_getElem? frequency)
  have column' := chosen.lt_species (List.mem_of_getElem? species)
  apply Tensor.copies_of_get?
  · rw [Course.result, Course.result, Tensor.get?_ofFn, Tensor.get?_ofFn,
      if_pos (Tensor.place?_isSome.mpr (.cons row (.cons column .nil))),
      if_pos (Tensor.place?_isSome.mpr (.cons row' (.cons column' .nil)))]
    have values : own.levels.map (Sample.value · k i) = c.levels.map (Sample.value · f j) := by
      rw [levels, List.map_map]
      exact List.map_congr_left fun columns _ => Selection.value_columns species frequency
    have vmr : (air.pick s.speciesIndices).vmrs.getD i 0 = air.vmrs.getD j 0 := by
      rw [Air.pick, List.getD_eq_getElem?_getD, List.getElem?_map, species]
      rfl
    simp only [values, vmr, pressures, density]
  · exact .cons row (.cons column .nil)

end Chosen

/-- Extraction from an adapted table gives the selected entries of what extraction from the table
gives, if humidity is taken from the same species. -/
theorem VectorGrids.extract_adapt [CongruentScalar α] (laws : UnsignedLog α) {t n : Table α}
    (grids : t.VectorGrids) {r : Request α} {s : Selection} (adapted : t.adapt r = .ok (n, s))
    {o : Orders} {molecule : String} {air : Air α}
    (reference : n.nonlinear = [] ∨ ∃ h, t.humidityIndex? molecule = some h ∧
      r.species.find? (Species.molecule · == molecule) = t.species[h]?)
    {whole : Tensor α} (extracted : t.extract o molecule air (-1) = .ok whole) :
    ∃ part, n.extract o molecule (air.pick s.speciesIndices) (-1) = .ok part ∧
      part.shape = [s.frequencyIndices.length, s.speciesIndices.length] ∧
      ∀ k i f j, s.frequencyIndices[k]? = some f → s.speciesIndices[i]? = some j →
        part.Copies [k, i] whole [f, j] := by
  obtain ⟨chosen, rfl⟩ := grids.chosen_of_adapt adapted
  obtain ⟨c, rfl⟩ := (chosen.consistent.toFitting.extract_eq_ok grids).mp extracted
  have logged := logged_of_hasLog c.logged
  have renewed : (t.subset t.blocks s).hasLog = .ok true := logged.hasLog_renew grids.pressures
  have settled := logged.settled laws chosen.consistent.pressures
  have placed : (t.subset t.blocks s).pressurePosition o.pressure air.pressure =
      t.pressurePosition o.pressure air.pressure :=
    logged.pressurePosition_renew settled laws.positive o.pressure air.pressure
  obtain ⟨own, count, pressures, levels, density⟩ :=
    chosen.course_subset grids c renewed placed reference
  refine ⟨own.result, ((chosen.fitting_subset grids).extract_eq_ok (grids.subset s)).mpr ⟨own, rfl⟩,
    ?_, ?_⟩
  · rw [Course.result, Tensor.shape_ofFn, count, chosen.length_species, chosen.species_subset]
  · intro k i f j frequency species
    exact chosen.copies_result grids c count pressures levels density frequency species

end Table

namespace Graded

/-- The logarithm of the next of the numbers one half, one, two and four. -/
def log (p : Float) : Float :=
  if p < 1 then -0.6931471805599453
  else if p ≤ 1 then 0
  else if p ≤ 2 then 0.6931471805599453 else 1.3862943611198906

theorem isNegativeZero_log (p : Float) : Binary64.isNegativeZero (log p) = false := by
  rw [log]
  split
  · decide +kernel
  · split
    · decide +kernel
    · split <;> decide +kernel

/-- Only one has the logarithm zero. -/
theorem same_one_of_log {p : Float} (zero : Binary64.IsZero (log p)) :
    Scalar.same p 1 = true := by
  have known (x : Float) (zero : Binary64.IsZero x) : Scalar.same x 0 = true :=
    Binary64.same_of_zeros zero ⟨.positive, by rfl⟩
  rw [log] at zero
  split at zero
  · exact absurd (known _ zero) (by decide +kernel)
  · next least =>
      split at zero
      · next most =>
          have self := OrderedScalar.le_self most
          rw [Scalar.same, decide_eq_true most,
            decide_eq_true (OrderedScalar.le_of_not_lt self.2 self.1 least), Bool.and_self]
      · split at zero <;> exact absurd (known _ zero) (by decide +kernel)

theorem unsignedLog : UnsignedLog (Binary64.WithLog log) := by
  refine Binary64.unsignedLog isNegativeZero_log fun p q first second => ?_
  have other := same_one_of_log second
  rw [Scalar.same_comm] at other
  exact OrderedScalar.same_trans (same_one_of_log first) other

/-- A table of a linear and a nonlinear species whose last logarithm is the negative zero. -/
def levels : Table (Binary64.WithLog log) where
  species := ["O2", "H2O"]
  nonlinear := [1]
  frequencies := .ofList [(100 : Float), (200 : Float)]
  pressures := .ofList [(4 : Float), (2 : Float), (1 : Float)]
  referenceVmr := .ofFn [2, 3] fun _ => (0.01 : Float)
  referenceTemperature := .ofFn [3] fun _ => (250 : Float)
  temperaturePerturbations := .ofList [(-10 : Float), (10 : Float)]
  humidityPerturbations := .ofList [(0.5 : Float), (2 : Float)]
  coefficients := .ofFn [2, 3, 2, 3] fun p => (p.foldl (fun n i => 10 * n + i) 0).toFloat
  logPressures := some (.ofList [(1.3862943611198906 : Float), (0.6931471805599453 : Float),
    (-0.0 : Float)])

/-- The nonlinear species at the second frequency. -/
def request : Request (Binary64.WithLog log) := ⟨["H2O"], .ofList [(200 : Float)], (1 : Float)⟩

/-- A state of the air between two levels. -/
def air : Air (Binary64.WithLog log) :=
  ⟨(1.5 : Float), (252 : Float), [(0.2 : Float), (0.012 : Float)]⟩

end Graded

namespace Table

/-- The adapted table has a zero of the other sign among its logarithms. -/
theorem extract_adapt_levels : ∃ n whole part, UnsignedLog (Binary64.WithLog Graded.log) ∧
    Graded.levels.VectorGrids ∧
    Graded.levels.adapt Graded.request = .ok (n, ⟨[1], [1], [true], 2, 2⟩) ∧
    Graded.levels.humidityIndex? "H2O" = some 1 ∧
    Graded.request.species.find? (Species.molecule · == "H2O") = Graded.levels.species[1]? ∧
    Graded.levels.extract ⟨2, 1, 1⟩ "H2O" Graded.air (-1) = .ok whole ∧
    n.extract ⟨2, 1, 1⟩ "H2O" (Graded.air.pick [1]) (-1) = .ok part ∧ part.shape = [1, 1] ∧
    part.Copies [0, 0] whole [1, 1] := by
  have grids : Graded.levels.VectorGrids := ⟨rfl, rfl, rfl, rfl⟩
  have selects : (Graded.levels.adapt Graded.request).toOption.map (·.2) =
      some ⟨[1], [1], [true], 2, 2⟩ := by decide +kernel
  have succeeds : (Graded.levels.extract ⟨2, 1, 1⟩ "H2O" Graded.air (-1)).toOption.isSome =
      true := by decide +kernel
  have index : Graded.levels.humidityIndex? "H2O" = some 1 := by decide +kernel
  have first : Graded.request.species.find? (Species.molecule · == "H2O") =
      Graded.levels.species[1]? := by decide +kernel
  obtain ⟨⟨n, s⟩, found, rfl⟩ := Option.map_eq_some_iff.mp selects
  obtain ⟨whole, given⟩ := Option.isSome_iff_exists.mp succeeds
  have adapted := toOption_eq_some.mp found
  have extracted := toOption_eq_some.mp given
  obtain ⟨part, gives, shape, entries⟩ := grids.extract_adapt Graded.unsignedLog adapted
    (.inr ⟨1, index, first⟩) extracted
  exact ⟨n, whole, part, Graded.unsignedLog, grids, adapted, index, first, extracted, gives, shape,
    entries 0 0 1 1 rfl rfl⟩

end Table
end Absorption
