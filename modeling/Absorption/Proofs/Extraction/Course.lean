import Absorption.Proofs.Table.Tiling
import Absorption.Proofs.Extraction.Positions

set_option autoImplicit false

/-!
The course of an extraction. An extraction from a table whose parts fit together succeeds exactly if
there is a `Course`: positions on all axes, and at each level that takes part an interpolated value
for each species and frequency (`extract_eq_ok`).
-/

namespace Absorption.Table

variable {α : Type}

/-- All frequencies are taken, or one that the table has. -/
theorem VectorGrids.frequencyRange_eq_ok {t : Table α} (grids : t.VectorGrids) {index : Int}
    {first count : Nat} : t.frequencyRange index = .ok (first, count) ↔
      index < 0 ∧ first = 0 ∧ count = t.frequencies.toList.length ∨
      index = first ∧ first < t.frequencies.toList.length ∧ count = 1 := by
  rw [frequencyRange, grids.frequencies.length, ok_bind]
  by_cases all : index < 0
  · simp only [if_pos all, pure_eq_ok, Prod.mk.injEq]
    omega
  · by_cases beyond : (t.frequencies.toList.length : Int) ≤ index
    · simp only [if_neg all, if_pos beyond, refuse_ne_ok, false_iff]
      omega
    · simp only [if_neg all, if_neg beyond, pure_eq_ok, Prod.mk.injEq]
      omega

theorem VectorGrids.frequencyRange_inside {t : Table α} (grids : t.VectorGrids) {index : Int}
    {first count : Nat} (selected : t.frequencyRange index = .ok (first, count)) :
    first + count ≤ t.frequencies.toList.length := by
  have range := grids.frequencyRange_eq_ok.mp selected
  omega

/-- Orders are not negative and each axis that is there has more points than its order. -/
theorem VectorGrids.checkOrders_eq_ok {t : Table α} (grids : t.VectorGrids) {o : Orders}
    {u : Unit} :
    t.checkOrders o = .ok u ↔ (0 ≤ o.pressure ∧ 0 ≤ o.temperature ∧ 0 ≤ o.humidity) ∧
      o.pressure < t.pressures.toList.length ∧
      (t.humidityPerturbations.toList = [] ∨
        o.humidity < t.humidityPerturbations.toList.length) ∧
      (t.temperaturePerturbations.toList = [] ∨
        o.temperature < t.temperaturePerturbations.toList.length) := by
  simp only [checkOrders, grids.pressures.length, grids.humidities.length,
    grids.temperatures.length, bind_eq_ok, require_eq_ok, Except.ok.injEq, exists_eq_left',
    Bool.not_eq_true', Bool.or_eq_false_iff, decide_eq_false_iff_not, Bool.and_eq_false_iff,
    bne_eq_false_iff_eq, List.length_eq_zero_iff]
  constructor
  · intro checked
    obtain ⟨_, signs, _, enough, _, humidity, temperature⟩ := checked
    exact ⟨by omega, by omega, humidity.imp_right (fun _ => by omega),
      temperature.imp_right (fun _ => by omega)⟩
  · intro ordered
    obtain ⟨signs, enough, humidity, temperature⟩ := ordered
    exact ⟨(), by omega, (), by omega, (), humidity.imp_right (fun _ => by omega),
      temperature.imp_right (fun _ => by omega)⟩

variable [Scalar α]

/-- The columns that a level contributes: an interpolated value for each species and frequency. -/
structure Interpolates (t : Table α) (p : LevelPosition α) (level first count : Nat)
    (columns : List (List α)) : Prop where
  width : columns.length = t.species.length
  height : ∀ column ∈ columns, column.length = count
  value : ∀ (i : Nat) isNonlinear b k, t.flags[i]? = some isNonlinear → t.blocks[i]? = some b →
    k < count → t.levelValue p level (first + k) isNonlinear b = .ok (Sample.value columns k i)

/-- What is computed at a level: positions relative to its references, and the columns there. -/
structure Sampled (t : Table α) (o : Orders) (humidity : Int) (air : Air α) (first count : Nat)
    (temperatures humidities : Option (Tensor α × Bounds α)) (level : Nat)
    (columns : List (List α)) : Prop where
  inside : level < t.pressures.toList.length
  interpolated : ∃ p : LevelPosition α,
    t.temperaturePosition o.temperature air level temperatures = .ok p.temperature ∧
    t.humidityPosition o.humidity humidity air level humidities = .ok p.humidity ∧
    t.Interpolates p level first count columns

/-- The steps of an extraction that succeeds. -/
structure Course (t : Table α) (o : Orders) (molecule : String) (air : Air α)
    (frequency : Int) where
  humidity : Int
  first : Nat
  count : Nat
  pressures : Position α
  temperatures : Option (Tensor α × Bounds α)
  humidities : Option (Tensor α × Bounds α)
  levels : List (List (List α))
  density : α
  reference : t.humiditySpecies molecule = .ok humidity
  logged : t.hasLog = .ok true
  ordered : t.checkOrders o = .ok ()
  vmrs : air.vmrs.length = t.species.length
  selected : t.frequencyRange frequency = .ok (first, count)
  placed : t.pressurePosition o.pressure air.pressure = .ok pressures
  temperatureAxis : perturbations t.temperaturePerturbations
    (t.temperaturePerturbations.toList.length != 0) = .ok temperatures
  humidityAxis : perturbations t.humidityPerturbations (!t.nonlinear.isEmpty) = .ok humidities
  sampled : List.Forall₂ (t.Sampled o humidity air first count temperatures humidities)
    pressures.indices levels
  dense : Gas.numberDensity air.pressure air.temperature = .ok density

/-- The levels combined, times the number density of each species. -/
def Course.result {t : Table α} {o : Orders} {molecule : String} {air : Air α} {frequency : Int}
    (c : t.Course o molecule air frequency) : Tensor α :=
  .ofFn [c.count, t.species.length] fun p => match p with
    | [f, i] => weightedSum c.pressures.weights (c.levels.map (Sample.value · f i)) *
        (c.density * air.vmrs.getD i 0)
    | _ => 0

theorem read_eq_ok {t : Table α} (axes : t.coefficients.shape.length = 4) {a e f l : Nat} {x : α} :
    t.coefficients.valueAt [Int.ofNat a, Int.ofNat e, Int.ofNat f, Int.ofNat l] = .ok x ↔
      t.coefficients.get? [a, e, f, l] = some x := by
  rw [show t.coefficients.valueAt [Int.ofNat a, Int.ofNat e, Int.ofNat f, Int.ofNat l] = _ from
    Tensor.valueAt_ofNat (p := [a, e, f, l]) axes.symm, orFail_eq_ok]

/-- In an array of four axes a column is a value for each of the frequencies. -/
theorem levelColumn_eq_ok {t : Table α} {temperatures expanded stored pressures : Nat}
    (shape : t.coefficients.shape = [temperatures, expanded, stored, pressures])
    (some : 0 < temperatures) {p : LevelPosition α} {level first count species : Nat}
    {isNonlinear : Bool} {b : Block} {column : List α} (inside : first + count ≤ stored)
    (existing : species < t.species.length) (placed : isNonlinear = true → p.humidity.isSome)
    (fitting : isNonlinear = false → b.offset < expanded) :
    t.levelColumn p level first count species isNonlinear b = .ok column ↔
      (List.range' first count).mapM (fun f => t.levelValue p level f isNonlinear b) =
        .ok column := by
  have places : checkPlaces p isNonlinear b temperatures expanded = .ok () := by
    cases isNonlinear with
    | false =>
        have bound := fitting rfl
        simp [checkPlaces, Nat.ne_of_gt some, bound]
    | true =>
        have humidity := placed rfl
        simp [checkPlaces, Nat.ne_of_gt some, Option.ne_none_iff_isSome.mpr humidity]
  have present : min count (stored - first) = count := by omega
  rw [levelColumn, levelValues, shape]
  simp only [places, ok_bind, present, ne_eq, not_true_eq_false, decide_false, Bool.false_and,
    Bool.false_eq_true, ↓reduceIte, bind_eq_ok, pure_eq_ok, if_neg (Nat.not_le.mpr existing)]
  constructor
  · intro column
    obtain ⟨_, ⟨values, read, rfl⟩, result⟩ := column
    have length : values.length = count := by
      rw [(mapM_eq_ok_iff_getElem?.mp read).1, List.length_range']
    rw [spread, Tensor.shape_ofList, soleAxis?] at result
    simp only [Tensor.toList_ofList, length, ↓reduceIte, Except.ok.injEq] at result
    rw [← result]
    exact read
  · intro read
    have length : column.length = count := by
      rw [(mapM_eq_ok_iff_getElem?.mp read).1, List.length_range']
    refine ⟨_, ⟨column, read, rfl⟩, ?_⟩
    rw [spread, Tensor.shape_ofList, soleAxis?]
    simp only [Tensor.toList_ofList, length, ↓reduceIte]

/-- The places of two lists that are gone through together. -/
theorem getElem?_zipIdx_zip {β γ : Type} {xs : List β} {ys : List γ} {i : Nat}
    {x : (β × γ) × Nat} : (xs.zip ys).zipIdx[i]? = some x ↔
      xs[i]? = some x.1.1 ∧ ys[i]? = some x.1.2 ∧ x.2 = i := by
  obtain ⟨⟨first, second⟩, j⟩ := x
  simp only [List.getElem?_zipIdx, Option.map_eq_some_iff, List.getElem?_zip_eq_some,
    Prod.mk.injEq, Prod.exists, Nat.zero_add]
  constructor
  · intro entry
    obtain ⟨_, _, ⟨left, right⟩, ⟨rfl, rfl⟩, rfl⟩ := entry
    exact ⟨left, right, rfl⟩
  · intro both
    obtain ⟨left, right, rfl⟩ := both
    exact ⟨_, _, ⟨left, right⟩, ⟨rfl, rfl⟩, rfl⟩

namespace Fitting

variable {t : Table α} (fits : t.Fitting) (grids : t.VectorGrids)
include fits grids

/-- The column of a species is a value for each frequency. -/
theorem column_eq_ok {p : LevelPosition α} {level first count i : Nat} {isNonlinear : Bool}
    {b : Block} {column : List α} (inside : first + count ≤ t.frequencies.toList.length)
    (placed : true ∈ t.flags → p.humidity.isSome) (flag : t.flags[i]? = some isNonlinear)
    (block : t.blocks[i]? = some b) :
    t.levelColumn p level first count i isNonlinear b = .ok column ↔ column.length = count ∧
      ∀ k, k < count → ∃ y, column[k]? = some y ∧
        t.levelValue p level (first + k) isNonlinear b = .ok y := by
  have existing := lt_of_flag flag
  have fitting : isNonlinear = false →
      b.offset < extent t.humidityPerturbations.toList.length t.flags := by
    rintro rfl
    exact offset_lt_extent flag block
  rw [levelColumn_eq_ok (fits.shape_coefficients grids) (by omega) inside existing
    (fun marked => placed (List.mem_of_getElem? (marked ▸ flag))) fitting, mapM_eq_ok_iff_getElem?,
    List.length_range']
  refine and_congr_right fun _ => ?_
  constructor
  · intro read k bound
    exact read k (first + k) (by rw [List.getElem?_range' bound, Nat.one_mul])
  · intro read k f index
    obtain ⟨bound, rfl⟩ := List.getElem?_eq_some_iff.mp index
    rw [List.length_range'] at bound
    rw [List.getElem_range', Nat.one_mul]
    exact read k bound

/-- Where there are four axes a level has columns exactly if all its values are found. -/
theorem columns_eq_ok {p : LevelPosition α} {level first count : Nat} {columns : List (List α)}
    (inside : first + count ≤ t.frequencies.toList.length)
    (placed : true ∈ t.flags → p.humidity.isSome) :
    (t.flags.zip t.blocks).zipIdx.mapM
        (fun s => t.levelColumn p level first count s.2 s.1.1 s.1.2) = .ok columns ↔
      t.Interpolates p level first count columns := by
  have column {i : Nat} {isNonlinear : Bool} {b : Block} {column : List α}
      (flag : t.flags[i]? = some isNonlinear) (block : t.blocks[i]? = some b) :
      t.levelColumn p level first count i isNonlinear b = .ok column ↔ _ :=
    fits.column_eq_ok grids inside placed flag block
  rw [mapM_eq_ok_iff_getElem?]
  simp only [List.length_zipIdx, List.length_zip, length_flags, length_blocks, Nat.min_self,
    getElem?_zipIdx_zip]
  constructor
  · intro traversed
    obtain ⟨width, read⟩ := traversed
    refine ⟨width, ?_, ?_⟩
    · intro c member
      obtain ⟨i, bound, rfl⟩ := List.getElem_of_mem member
      obtain ⟨isNonlinear, b, flag, block⟩ := exists_flag_block (width ▸ bound)
      obtain ⟨c, found, values⟩ := read i ((_, _), i) ⟨flag, block, rfl⟩
      rw [List.getElem?_eq_getElem bound, Option.some.injEq] at found
      rw [found]
      exact ((column flag block).mp values).1
    · intro i isNonlinear b k flag block bound
      obtain ⟨c, found, values⟩ := read i ((_, _), i) ⟨flag, block, rfl⟩
      obtain ⟨y, here, value⟩ := ((column flag block).mp values).2 k bound
      rw [value, Sample.value, found, Option.bind_some, here, Option.getD_some]
  · intro interpolates
    obtain ⟨width, height, value⟩ := interpolates
    refine ⟨width, ?_⟩
    rintro i ⟨⟨isNonlinear, b⟩, j⟩ ⟨flag, block, rfl⟩
    have bound : j < columns.length := by
      rw [width]
      exact lt_of_flag flag
    refine ⟨columns[j], List.getElem?_eq_getElem bound, (column flag block).mpr
      ⟨height _ (List.getElem_mem bound), ?_⟩⟩
    intro k inside
    have tall : k < columns[j].length := by
      rw [height _ (List.getElem_mem bound)]
      exact inside
    refine ⟨columns[j][k], List.getElem?_eq_getElem tall, ?_⟩
    rw [value j isNonlinear b k flag block inside, Sample.value, List.getElem?_eq_getElem bound,
      Option.bind_some, List.getElem?_eq_getElem tall, Option.getD_some]

theorem sampleLevel_eq_ok {o : Orders} {humidity : Int} {air : Air α} {first count level : Nat}
    {temperatures humidities : Option (Tensor α × Bounds α)} {columns : List (List α)}
    (inside : first + count ≤ t.frequencies.toList.length)
    (axis : true ∈ t.flags → humidities.isSome) :
    Extractor.sampleLevel ⟨o, humidity, ⟨t.flags, t.blocks⟩⟩ t air first count temperatures
        humidities level = .ok columns ↔
    t.Sampled o humidity air first count temperatures humidities level columns := by
  have checked : t.checkLevel level = .ok () ↔ level < t.pressures.toList.length := by
    simp [checkLevel, fits.shape_coefficients grids]
  simp only [Extractor.sampleLevel, bind_eq_ok]
  constructor
  · intro steps
    obtain ⟨tp, temperature, hp, humidity, _, bound, read⟩ := steps
    refine ⟨checked.mp bound, ⟨tp, hp⟩, temperature, humidity, ?_⟩
    exact (fits.columns_eq_ok grids inside
      (fun marked => humidityPosition_isSome (axis marked) humidity)).mp read
  · intro sampled
    obtain ⟨bound, ⟨tp, hp⟩, temperature, humidity, columns⟩ := sampled
    refine ⟨tp, temperature, hp, humidity, (), checked.mpr bound, ?_⟩
    exact (fits.columns_eq_ok grids inside
      (fun marked => humidityPosition_isSome (axis marked) humidity)).mpr columns

/-- An extraction succeeds exactly if it has a course, and gives the result of that. -/
theorem extract_eq_ok {o : Orders} {molecule : String} {air : Air α} {frequency : Int}
    {result : Tensor α} : t.extract o molecule air frequency = .ok result ↔
      ∃ c : t.Course o molecule air frequency, c.result = result := by
  have checked : t.checkShape = .ok () := grids.checkShape_eq_ok.mpr fits.coefficients
  have sampled {h : Int} {first count : Nat}
      {temperatures humidities : Option (Tensor α × Bounds α)} {levels : List Nat}
      {columns : List (List (List α))}
      (selected : t.frequencyRange frequency = .ok (first, count))
      (axis : perturbations t.humidityPerturbations (!t.nonlinear.isEmpty) = .ok humidities) :
      levels.mapM (Extractor.sampleLevel ⟨o, h, ⟨t.flags, t.blocks⟩⟩ t air first count temperatures
        humidities) = .ok columns ↔
      List.Forall₂ (t.Sampled o h air first count temperatures humidities) levels columns := by
    have present (marked : true ∈ t.flags) : humidities.isSome := by
      rw [show (!t.nonlinear.isEmpty) = true by simpa using nonlinear_ne_nil marked] at axis
      exact perturbations_isSome axis
    have inside := grids.frequencyRange_inside selected
    rw [mapM_eq_ok]
    exact ⟨.imp fun _ _ => (fits.sampleLevel_eq_ok grids inside present).mp,
      .imp fun _ _ => (fits.sampleLevel_eq_ok grids inside present).mpr⟩
  simp only [extract, prepare, Extractor.run, Extractor.sample, Sample.absorption, checkLog,
    bind_eq_ok, pure_eq_ok, require_eq_ok, grids.layout_eq fits.existing, grids.temperatures.length,
    grids.frequencies.length, Except.ok.injEq, exists_eq_left', beq_iff_eq]
  constructor
  · rintro ⟨_, ⟨h, reference, _, _, _, ⟨_, logged, rfl⟩, _, ordered, rfl⟩, _,
      ⟨_, vmrs, ⟨first, count⟩, selected, pressures, placed, temperatures, temperatureAxis,
        humidities, humidityAxis, levels, read, rfl⟩, density, dense, rfl⟩
    exact ⟨⟨h, first, count, pressures, temperatures, humidities, levels, density, reference,
      logged, ordered, vmrs, selected, placed, temperatureAxis, humidityAxis,
      (sampled selected humidityAxis).mp read, dense⟩, rfl⟩
  · rintro ⟨c, rfl⟩
    exact ⟨_, ⟨c.humidity, c.reference, (), checked, (), ⟨true, c.logged, rfl⟩, (), c.ordered, rfl⟩,
      _,
      ⟨(), c.vmrs, (c.first, c.count), c.selected, c.pressures, c.placed, c.temperatures,
        c.temperatureAxis, c.humidities, c.humidityAxis, c.levels,
        (sampled c.selected c.humidityAxis).mpr c.sampled, rfl⟩, c.density, c.dense, rfl⟩

end Fitting

namespace Course

variable {t : Table α} {o : Orders} {molecule : String} {air : Air α} {frequency : Int}
  (c : t.Course o molecule air frequency)

/-- The positions that are found at a level. -/
def positions (level : Nat) : LevelPosition α where
  temperature :=
    (t.temperaturePosition o.temperature air level c.temperatures).toOption.join
  humidity :=
    (t.humidityPosition o.humidity c.humidity air level c.humidities).toOption.join

theorem interpolates {level : Nat} {columns : List (List α)}
    (sampled : t.Sampled o c.humidity air c.first c.count c.temperatures c.humidities level
      columns) :
    t.temperaturePosition o.temperature air level c.temperatures =
      .ok (c.positions level).temperature ∧
    t.humidityPosition o.humidity c.humidity air level c.humidities =
      .ok (c.positions level).humidity ∧
    t.Interpolates (c.positions level) level c.first c.count columns := by
  obtain ⟨p, temperature, humidity, interpolated⟩ := sampled.interpolated
  have same : c.positions level = p := by
    rw [positions, temperature, humidity]
    rfl
  rw [same]
  exact ⟨temperature, humidity, interpolated⟩

theorem sampled_of_mem {level : Nat} (member : level ∈ c.pressures.indices) : ∃ columns,
    t.Sampled o c.humidity air c.first c.count c.temperatures c.humidities level columns := by
  obtain ⟨i, bound, rfl⟩ := List.getElem_of_mem member
  exact ⟨_, c.sampled.get bound (c.sampled.length_eq ▸ bound)⟩

/-- The temperature is placed relative to the reference of the level. -/
theorem temperature_positions (grids : t.VectorGrids) (fits : t.Fitting) {level : Nat}
    (member : level ∈ c.pressures.indices) :
    t.temperaturePerturbations.toList = [] ∧ (c.positions level).temperature = none ∨
    t.temperaturePerturbations.toList ≠ [] ∧ ∃ reference p,
      t.referenceTemperature.get? [level] = some reference ∧
      Grid.position t.temperaturePerturbations.toList (air.temperature - reference) o.temperature
        "temperature perturbation" = .ok p ∧ (c.positions level).temperature = some p := by
  obtain ⟨columns, sampled⟩ := c.sampled_of_mem member
  obtain ⟨temperature, _, _⟩ := c.interpolates sampled
  obtain ⟨absent, axis⟩ | ⟨present, range, _, axis⟩ := perturbations_eq_ok.mp c.temperatureAxis
  · rw [axis] at temperature
    refine .inl ⟨by simpa using absent, ?_⟩
    exact (Except.ok.inj temperature).symm
  · rw [axis, temperaturePosition_eq_ok] at temperature
    obtain ⟨_, entry, _, p, position, found⟩ := temperature
    obtain ⟨reference, here, rfl⟩ :=
      (Tensor.entry_eq_ok (p := [level]) (by rw [fits.referenceTemperature]; rfl)).mp entry
    rw [Grid.positionIn_of_isVector grids.temperatures] at position
    exact .inr ⟨by simpa using present, reference, p, here, position, found⟩

/-- The humidity is placed as a fraction of the reference of the level. -/
theorem humidity_positions (grids : t.VectorGrids) (fits : t.Fitting) {level : Nat}
    (member : level ∈ c.pressures.indices) (some : t.nonlinear ≠ []) :
    ∃ species reference x p, t.humidityIndex? molecule = .some species ∧
      t.referenceVmr.get? [species, level] = .some reference ∧
      air.fraction (Int.ofNat species) reference = .ok (.some x) ∧
      Grid.position t.humidityPerturbations.toList x o.humidity "humidity perturbation" = .ok p ∧
      (c.positions level).humidity = .some p := by
  obtain ⟨columns, sampled⟩ := c.sampled_of_mem member
  obtain ⟨_, humidity, _⟩ := c.interpolates sampled
  obtain ⟨species, index, reference⟩ := (humiditySpecies_eq_ok some).mp c.reference
  obtain ⟨absent, _⟩ | ⟨_, range, _, axis⟩ := perturbations_eq_ok.mp c.humidityAxis
  · exact absurd (by simpa using absent) some
  · rw [axis, reference, humidityPosition_eq_ok] at humidity
    obtain ⟨_, entry, x, p, fraction, _, position, found⟩ := humidity
    obtain ⟨value, here, rfl⟩ := (Tensor.entry_eq_ok (p := [species, level])
      (by rw [fits.referenceVmr]; rfl)).mp entry
    rw [Grid.positionIn_of_isVector grids.humidities] at position
    exact ⟨species, value, x, p, index, here, fraction, position, found⟩

/-- Each temperature node has its weight. -/
theorem temperature_complete (grids : t.VectorGrids) (fits : t.Fitting) {level : Nat}
    (member : level ∈ c.pressures.indices) {p : Position α}
    (found : (c.positions level).temperature = some p) : p.weights.length = p.indices.length := by
  obtain ⟨_, none⟩ | ⟨_, _, q, _, position, placed⟩ := c.temperature_positions grids fits member
  · exact absurd (none.symm.trans found) (by simp)
  · obtain rfl := Option.some.inj (placed.symm.trans found)
    exact Grid.length_weights position

/-- Where there are nonlinear species each humidity node has its weight. -/
theorem humidity_complete (grids : t.VectorGrids) (fits : t.Fitting) {level : Nat}
    (member : level ∈ c.pressures.indices) (some : t.nonlinear ≠ []) {p : Position α}
    (found : (c.positions level).humidity = .some p) : p.weights.length = p.indices.length := by
  obtain ⟨_, _, _, q, _, _, _, position, placed⟩ := c.humidity_positions grids fits member some
  obtain rfl := Option.some.inj (placed.symm.trans found)
  exact Grid.length_weights position

end Course

/-- A state of the air between the levels of the sample. -/
def sampleAir : Air ℚ := ⟨3, 251, [1 / 5, 1 / 80, 1 / 5]⟩

end Absorption.Table
