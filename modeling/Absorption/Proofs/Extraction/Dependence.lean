import Mathlib.Tactic.Ring
import Absorption.Proofs.Extraction.Adapted
import Absorption.Proofs.Extraction.Demands
import Absorption.Proofs.Extraction.TensorSum

set_option autoImplicit false

/-!
What an extraction depends on. Two extractions from one table at one pressure and temperature take
the same positions, with the same weights, and differ only in what they read (`Course.levels_eq`):
the frequency decides which coefficients are read, and the mixing ratios decide through that of the
humidity species alone, and for nonlinear species alone.
-/

namespace Absorption

variable {α : Type}

/-- Operations with the same first unmet demand both succeed or fail alike. -/
theorem Meets.alike {β γ : Type} {ds es : List (Demand α)} {x : Outcome α β} {y : Outcome α γ}
    (first : Meets ds x) (second : Meets es y) (same : unmet? ds = unmet? es) :
    (∃ b c, x = .ok b ∧ y = .ok c) ∨ ∃ e, x = .error e ∧ y = .error e := by
  rw [Meets] at first second
  rw [← same] at second
  cases found : unmet? ds with
  | none =>
      rw [found] at first second
      obtain ⟨b, rfl⟩ := first
      obtain ⟨c, rfl⟩ := second
      exact .inl ⟨b, c, rfl, rfl⟩
  | some d =>
      rw [found] at first second
      exact .inr ⟨d.failure, first, second⟩

/-- A demand that is met does not matter. -/
theorem unmet?_skip {d : Demand α} (holds : d.holds = true) (ds es : List (Demand α)) :
    unmet? (ds ++ d :: es) = unmet? (ds ++ es) := by
  simp [unmet?, holds]

namespace Table

/-- The mixing ratios agree on the species that humidity is taken from, if it is taken at all. -/
def SameHumidity (t : Table α) (molecule : String) (v w : List α) : Prop :=
  t.nonlinear ≠ [] → ∀ h, t.humidityIndex? molecule = some h → w[h]? = v[h]?

variable [Scalar α]

theorem humidityPosition_of_vmr {t : Table α} {order species : Int} {air air' : Air α}
    (pressure : air'.pressure = air.pressure) (vmr : air'.vmr species = air.vmr species)
    (level : Nat) (axis : Option (Tensor α × Bounds α)) :
    t.humidityPosition order species air' level axis =
      t.humidityPosition order species air level axis := by
  cases axis with
  | none => rfl
  | some axis => simp only [humidityPosition, vmr, pressure]

theorem temperaturePosition_of_temperature {t : Table α} {order : Int} {air air' : Air α}
    (pressure : air'.pressure = air.pressure) (temperature : air'.temperature = air.temperature)
    (level : Nat) (axis : Option (Tensor α × Bounds α)) :
    t.temperaturePosition order air' level axis = t.temperaturePosition order air level axis := by
  cases axis with
  | none => rfl
  | some axis => simp only [temperaturePosition, temperature, pressure]

namespace Course

variable {t : Table α} {o : Orders} {molecule : String} {air air' : Air α} {frequency : Int}
  {frequency' : Int} (c : t.Course o molecule air frequency)
  (d : t.Course o molecule air' frequency')

theorem humidity_eq : d.humidity = c.humidity :=
  Except.ok.inj (d.reference.symm.trans c.reference)

theorem temperatures_eq : d.temperatures = c.temperatures :=
  Except.ok.inj (d.temperatureAxis.symm.trans c.temperatureAxis)

theorem humidities_eq : d.humidities = c.humidities :=
  Except.ok.inj (d.humidityAxis.symm.trans c.humidityAxis)

theorem pressures_eq (pressure : air'.pressure = air.pressure) : d.pressures = c.pressures := by
  have placed := d.placed
  rw [pressure, c.placed] at placed
  exact (Except.ok.inj placed).symm

theorem density_eq (pressure : air'.pressure = air.pressure)
    (temperature : air'.temperature = air.temperature) : d.density = c.density := by
  have dense := d.dense
  rw [pressure, temperature, c.dense] at dense
  exact (Except.ok.inj dense).symm

theorem temperature_positions_eq (pressure : air'.pressure = air.pressure)
    (temperature : air'.temperature = air.temperature) (level : Nat) :
    (d.positions level).temperature = (c.positions level).temperature := by
  simp only [positions, c.temperatures_eq d,
    temperaturePosition_of_temperature pressure temperature]

/-- Humidity is placed alike where its species has the same amount. -/
theorem humidity_positions_eq (pressure : air'.pressure = air.pressure)
    (same : t.SameHumidity molecule air.vmrs air'.vmrs) (level : Nat) :
    (d.positions level).humidity = (c.positions level).humidity := by
  simp only [positions, c.humidity_eq d, c.humidities_eq d]
  obtain ⟨_, axis⟩ | ⟨present, _⟩ := perturbations_eq_ok.mp c.humidityAxis
  · rw [axis]
    rfl
  · have some : t.nonlinear ≠ [] := by simpa using present
    obtain ⟨h, index, species⟩ := (humiditySpecies_eq_ok some).mp c.reference
    have vmr : air'.vmr c.humidity = air.vmr c.humidity := by
      rw [species, Air.vmr_ofNat, Air.vmr_ofNat, same some h index]
    rw [humidityPosition_of_vmr pressure vmr]

/-- The values of a species at all levels are those of its coefficients at the positions. -/
theorem levels_values {k i : Nat} {isNonlinear : Bool} {b : Block}
    (flag : t.flags[i]? = some isNonlinear) (block : t.blocks[i]? = some b) (bound : k < c.count) :
    c.levels.map (Sample.value · k i) = c.pressures.indices.map fun level =>
      (t.levelValue (c.positions level) level (c.first + k) isNonlinear b).toOption.getD 0 := by
  apply map_eq_map_of_forall₂ c.sampled
  intro level columns _ sampled
  obtain ⟨_, _, interpolated⟩ := c.interpolates sampled
  rw [interpolated.value i isNonlinear b k flag block bound]
  rfl

/-- At one pressure and temperature a species has the same values at a frequency, unless it is
nonlinear and the humidity is another. -/
theorem levels_eq (grids : t.VectorGrids) (fits : t.Fitting)
    (pressure : air'.pressure = air.pressure) (temperature : air'.temperature = air.temperature)
    {k k' i : Nat} (species : i < t.species.length) (bound : k < c.count) (bound' : k' < d.count)
    (same : d.first + k' = c.first + k)
    (humidity : t.flags[i]? = some true → t.SameHumidity molecule air.vmrs air'.vmrs) :
    d.levels.map (Sample.value · k' i) = c.levels.map (Sample.value · k i) := by
  obtain ⟨isNonlinear, b, flag, block⟩ := exists_flag_block species
  have axes : t.coefficients.shape.length = 4 := by
    rw [fits.shape_coefficients grids]
    rfl
  have places := length_block_pos_or flag block
  rw [c.levels_values flag block bound, d.levels_values flag block bound',
    c.pressures_eq d pressure, same]
  apply List.map_congr_left
  intro level _
  rw [levelValue_congr axes axes (c.temperature_positions_eq d pressure temperature level)
    (fun marked => c.humidity_positions_eq d pressure (humidity (flag.trans (congrArg some marked)))
      level) rfl places (fun _ _ _ => rfl)]

theorem entry_result {k i : Nat} (bound : k < c.count) (species : i < t.species.length) :
    c.result.get? [k, i] = some (weightedSum c.pressures.weights
      (c.levels.map (Sample.value · k i)) * (c.density * air.vmrs.getD i 0)) := by
  have inside : (Tensor.place? [c.count, t.species.length] [k, i]).isSome :=
    Tensor.place?_isSome.mpr (.cons bound (.cons species .nil))
  rw [result, Tensor.get?_ofFn, if_pos inside]

end Course

/-- A frequency alone and all frequencies are demanded alike. -/
theorem unmet?_demands_single {t : Table α} {k : Nat}
    (existing : k < t.frequencies.toList.length) {all : Int} (negative : all < 0) (o : Orders)
    (molecule : String) (air : Air α) :
    unmet? (t.demands o molecule air k) = unmet? (t.demands o molecule air all) := by
  have single : (t.frequencyDemand k).holds = true := decide_eq_true (by omega)
  have whole : (t.frequencyDemand all).holds = true := decide_eq_true (by omega)
  have listed (frequency : Int) : t.demands o molecule air frequency =
      ([t.referenceDemand molecule] ++ t.orderDemands o ++ [t.countDemand air]) ++
        t.frequencyDemand frequency :: (t.pressureDemands air.pressure ++
          ((t.levels o.pressure air.pressure).flatMap fun level => t.temperatureDemands air level ++
            t.humidityDemands ((t.humidityIndex? molecule).getD 0) air level) ++
          [densityDemand air]) := by
    simp [demands]
  rw [listed, listed, unmet?_skip single, unmet?_skip whole]

/-- An extraction at one frequency gives the row that this frequency has in an extraction at all of
them, or fails as that does. -/
theorem VectorGrids.extract_single {t : Table α} (grids : t.VectorGrids)
    (valid : t.validate = .ok ()) (logged : t.hasLog = .ok true) (o : Orders) (molecule : String)
    (air : Air α) {k : Nat} (existing : k < t.frequencies.toList.length) {all : Int}
    (negative : all < 0) :
    (∃ row result, t.extract o molecule air k = .ok row ∧
      t.extract o molecule air all = .ok result ∧ row.shape = [1, t.species.length] ∧
      result.shape = [t.frequencies.toList.length, t.species.length] ∧
      ∀ i, i < t.species.length → row.Copies [0, i] result [k, i]) ∨
    ∃ e, t.extract o molecule air k = .error e ∧ t.extract o molecule air all = .error e := by
  have fits := (grids.validate_eq_ok_iff.mp valid).toFitting
  refine (Meets.alike (fits.meets_extract grids logged o molecule air k)
    (fits.meets_extract grids logged o molecule air all)
    (unmet?_demands_single existing negative o molecule air)).imp_left ?_
  rintro ⟨_, _, single, whole⟩
  obtain ⟨c, rfl⟩ := (fits.extract_eq_ok grids).mp single
  obtain ⟨d, rfl⟩ := (fits.extract_eq_ok grids).mp whole
  have own := grids.frequencyRange_eq_ok.mp c.selected
  have every := grids.frequencyRange_eq_ok.mp d.selected
  have count : c.count = 1 := by omega
  have count' : d.count = t.frequencies.toList.length := by omega
  refine ⟨_, _, single, whole, by rw [← count]; rfl, by rw [← count']; rfl, ?_⟩
  intro i species
  have row : 0 < c.count := by omega
  have known : k < d.count := by omega
  refine Tensor.copies_of_get? ?_ (.cons row (.cons species .nil))
  rw [c.entry_result row species, d.entry_result known species, c.pressures_eq d rfl,
    c.density_eq d rfl rfl,
    c.levels_eq d grids fits rfl rfl species row known (by omega) fun _ _ _ _ => rfl]

/-- At 251 K the second frequency of the sample alone gives the second row; at 231 K both fail. -/
theorem extract_single_sample : sample.VectorGrids ∧ sample.validate = .ok () ∧
    sample.hasLog = .ok true ∧ 1 < sample.frequencies.toList.length ∧ (-2 : Int) < 0 ∧
    (∃ row result, sample.extract ⟨1, 1, 1⟩ "H2O" sampleAir 1 = .ok row ∧
      sample.extract ⟨1, 1, 1⟩ "H2O" sampleAir (-2) = .ok result ∧ row.shape = [1, 3] ∧
      result.shape = [3, 3] ∧ ∀ i, i < 3 → row.Copies [0, i] result [1, i]) ∧
    ∃ e, sample.extract ⟨1, 1, 1⟩ "H2O" { sampleAir with temperature := 231 } 1 = .error e ∧
      sample.extract ⟨1, 1, 1⟩ "H2O" { sampleAir with temperature := 231 } (-2) = .error e := by
  have valid : sample.validate = .ok () := toOption_eq_some.mp (by decide +kernel)
  have logged : sample.hasLog = .ok true := toOption_eq_some.mp (by decide +kernel)
  have existing : 1 < sample.frequencies.toList.length := by decide
  have negative : (-2 : Int) < 0 := by decide
  have succeeds : (sample.extract ⟨1, 1, 1⟩ "H2O" sampleAir 1).toOption.isSome = true := by
    decide +kernel
  have fails : (sample.extract ⟨1, 1, 1⟩ "H2O" { sampleAir with temperature := 231 }
      1).toOption.isSome = false := by
    decide +kernel
  have warm := vectorGrids_sample.extract_single valid logged ⟨1, 1, 1⟩ "H2O" sampleAir existing
    negative
  have cold := vectorGrids_sample.extract_single valid logged ⟨1, 1, 1⟩ "H2O"
    { sampleAir with temperature := 231 } existing negative
  refine ⟨vectorGrids_sample, valid, logged, existing, negative, warm.resolve_right ?_,
    cold.resolve_left ?_⟩
  · rintro ⟨e, failed, _⟩
    rw [Nat.cast_one] at failed
    rw [failed] at succeeds
    cases succeeds
  · rintro ⟨row, _, extracted, _⟩
    rw [Nat.cast_one] at extracted
    rw [extracted] at fails
    cases fails

/-- The entries of two arrays have the ratio of the amounts of their species, and are equal where
these are. -/
def InRatio (r r' : Tensor α) (v w : List α) (f i : Nat) : Prop :=
  ∃ a b x y, r.get? [f, i] = some a ∧ r'.get? [f, i] = some b ∧ v[i]? = some x ∧
    w[i]? = some y ∧ a * y = b * x ∧ (x = y → a = b)

/-- Where the humidity is the same nothing else is demanded of the mixing ratios. -/
theorem unmet?_demands_of_sameHumidity {t : Table α} {molecule : String} {v w : List α}
    (same : t.SameHumidity molecule v w) (complete : v.length = t.species.length)
    (complete' : w.length = t.species.length) (o : Orders) (p T : α) (frequency : Int) :
    unmet? (t.demands o molecule ⟨p, T, v⟩ frequency) =
      unmet? (t.demands o molecule ⟨p, T, w⟩ frequency) := by
  by_cases known : (t.referenceDemand molecule).holds = true
  · have humidity (level : Nat) :
        t.humidityDemands ((t.humidityIndex? molecule).getD 0) ⟨p, T, v⟩ level =
          t.humidityDemands ((t.humidityIndex? molecule).getD 0) ⟨p, T, w⟩ level := by
      by_cases none : t.nonlinear = []
      · simp only [humidityDemands, none, List.isEmpty_nil, ↓reduceIte]
      · have found : (t.humidityIndex? molecule).isSome = true := by
          simpa [referenceDemand, none] using known
        obtain ⟨h, index⟩ := Option.isSome_iff_exists.mp found
        simp only [humidityDemands, index, Option.getD_some, List.getD_eq_getElem?_getD,
          same none h index]
    simp only [demands, countDemand, complete, complete', humidity]
    rfl
  · simp [demands, unmet?, known]

end Table

variable {α : Type} [Exact α] {t : Table α}

namespace Table

/-- Entries at values that two courses share have the ratio of the amounts. -/
theorem Course.inRatio {o : Orders} {molecule : String} {p T : α} {v w : List α} {frequency : Int}
    (c : t.Course o molecule ⟨p, T, v⟩ frequency) (d : t.Course o molecule ⟨p, T, w⟩ frequency)
    {f i : Nat} (bound : f < c.count) (bound' : f < d.count) (species : i < t.species.length)
    (values : d.levels.map (Sample.value · f i) = c.levels.map (Sample.value · f i)) :
    InRatio c.result d.result v w f i := by
  obtain ⟨x, amount⟩ : ∃ x, v[i]? = some x :=
    ⟨_, List.getElem?_eq_getElem (by rw [c.vmrs]; exact species)⟩
  obtain ⟨y, amount'⟩ : ∃ y, w[i]? = some y :=
    ⟨_, List.getElem?_eq_getElem (by rw [d.vmrs]; exact species)⟩
  refine ⟨_, _, x, y, c.entry_result bound species, d.entry_result bound' species, amount, amount',
    ?_⟩
  rw [values, c.pressures_eq d rfl, c.density_eq d rfl rfl]
  simp only [List.getD_eq_getElem?_getD, amount, amount', Option.getD_some]
  refine ⟨by ring, ?_⟩
  rintro rfl
  rfl

/-- A column of an extraction depends on the mixing ratio of its species, to which it is
proportional, and besides on that of the humidity species only, and for a linear species not even on
this. Nor does whether an extraction succeeds depend on any other. -/
theorem VectorGrids.extract_amounts (grids : t.VectorGrids) (valid : t.validate = .ok ())
    (logged : t.hasLog = .ok true) (o : Orders) (molecule : String) (p T : α) (frequency : Int)
    {v w : List α} (complete : v.length = t.species.length)
    (complete' : w.length = t.species.length) :
    (t.SameHumidity molecule v w →
      (∃ r r', t.extract o molecule ⟨p, T, v⟩ frequency = .ok r ∧
        t.extract o molecule ⟨p, T, w⟩ frequency = .ok r' ∧ r'.shape = r.shape ∧
        ∀ f i, f < (if frequency < 0 then t.frequencies.toList.length else 1) →
          i < t.species.length → InRatio r r' v w f i) ∨
      ∃ e, t.extract o molecule ⟨p, T, v⟩ frequency = .error e ∧
        t.extract o molecule ⟨p, T, w⟩ frequency = .error e) ∧
    ∀ r r', t.extract o molecule ⟨p, T, v⟩ frequency = .ok r →
      t.extract o molecule ⟨p, T, w⟩ frequency = .ok r' →
      ∀ f i, f < (if frequency < 0 then t.frequencies.toList.length else 1) →
        i < t.species.length → (i : Int) ∉ t.nonlinear → InRatio r r' v w f i := by
  have fits := (grids.validate_eq_ok_iff.mp valid).toFitting
  have ratio (c : t.Course o molecule ⟨p, T, v⟩ frequency)
      (d : t.Course o molecule ⟨p, T, w⟩ frequency) {f i : Nat} (bound : f < c.count)
      (species : i < t.species.length)
      (humidity : t.flags[i]? = some true → t.SameHumidity molecule v w) :
      InRatio c.result d.result v w f i := by
    have bound' : f < d.count := by rwa [d.count_eq grids, ← c.count_eq grids]
    have first : d.first + f = c.first + f := by
      have selected := d.selected
      rw [c.selected, Except.ok.injEq, Prod.mk.injEq] at selected
      rw [selected.1]
    exact c.inRatio d bound bound' species
      (c.levels_eq d grids fits rfl rfl species bound bound' first humidity)
  refine ⟨fun same => ?_, ?_⟩
  · refine (Meets.alike (fits.meets_extract grids logged o molecule ⟨p, T, v⟩ frequency)
      (fits.meets_extract grids logged o molecule ⟨p, T, w⟩ frequency)
      (unmet?_demands_of_sameHumidity same complete complete' o p T frequency)).imp_left ?_
    rintro ⟨_, _, extracted, extracted'⟩
    obtain ⟨c, rfl⟩ := (fits.extract_eq_ok grids).mp extracted
    obtain ⟨d, rfl⟩ := (fits.extract_eq_ok grids).mp extracted'
    refine ⟨_, _, extracted, extracted', ?_, ?_⟩
    · simp only [Course.result, Tensor.shape_ofFn, c.count_eq grids, d.count_eq grids]
    · intro f i bound species
      exact ratio c d (by rwa [c.count_eq grids]) species fun _ => same
  · intro r r' extracted extracted' f i bound species linear
    obtain ⟨c, rfl⟩ := (fits.extract_eq_ok grids).mp extracted
    obtain ⟨d, rfl⟩ := (fits.extract_eq_ok grids).mp extracted'
    refine ratio c d (by rwa [c.count_eq grids]) species fun marked => ?_
    rw [getElem?_flags, if_pos species, Option.some.injEq, decide_eq_true_eq] at marked
    exact absurd marked linear

/-- The amounts of the linear species may change with all entries in ratio, and with the humidity
too those of the linear species are. -/
theorem extract_amounts_sample : ∃ r r' r'', sample.VectorGrids ∧ sample.validate = .ok () ∧
    sample.hasLog = .ok true ∧
    sample.SameHumidity "H2O" [1 / 5, 1 / 80, 1 / 5] [2 / 5, 1 / 80, 1 / 10] ∧
    sample.extract ⟨1, 1, 1⟩ "H2O" ⟨3, 251, [1 / 5, 1 / 80, 1 / 5]⟩ (-1) = .ok r ∧
    sample.extract ⟨1, 1, 1⟩ "H2O" ⟨3, 251, [2 / 5, 1 / 80, 1 / 10]⟩ (-1) = .ok r' ∧
    (∀ f i, f < 3 → i < 3 → InRatio r r' [1 / 5, 1 / 80, 1 / 5] [2 / 5, 1 / 80, 1 / 10] f i) ∧
    sample.extract ⟨1, 1, 1⟩ "H2O" ⟨3, 251, [2 / 5, 1 / 100, 1 / 10]⟩ (-1) = .ok r'' ∧
    ∀ f, f < 3 → InRatio r r'' [1 / 5, 1 / 80, 1 / 5] [2 / 5, 1 / 100, 1 / 10] f 2 := by
  have valid : sample.validate = .ok () := toOption_eq_some.mp (by decide +kernel)
  have logged : sample.hasLog = .ok true := toOption_eq_some.mp (by decide +kernel)
  have same : sample.SameHumidity "H2O" [1 / 5, 1 / 80, 1 / 5] [2 / 5, 1 / 80, 1 / 10] := by
    intro _ h index
    rw [show sample.humidityIndex? "H2O" = some 1 by decide +kernel, Option.some.injEq] at index
    subst index
    rfl
  obtain ⟨amounts, _⟩ := vectorGrids_sample.extract_amounts valid logged ⟨1, 1, 1⟩ "H2O" 3 251 (-1)
    (v := [1 / 5, 1 / 80, 1 / 5]) (w := [2 / 5, 1 / 80, 1 / 10]) rfl rfl
  obtain ⟨_, linear⟩ := vectorGrids_sample.extract_amounts valid logged ⟨1, 1, 1⟩ "H2O" 3 251 (-1)
    (v := [1 / 5, 1 / 80, 1 / 5]) (w := [2 / 5, 1 / 100, 1 / 10]) rfl rfl
  have succeeds : (sample.extract ⟨1, 1, 1⟩ "H2O" ⟨3, 251, [1 / 5, 1 / 80, 1 / 5]⟩
      (-1)).toOption.isSome = true := by
    decide +kernel
  have succeeds' : (sample.extract ⟨1, 1, 1⟩ "H2O" ⟨3, 251, [2 / 5, 1 / 100, 1 / 10]⟩
      (-1)).toOption.isSome = true := by
    decide +kernel
  obtain ⟨r'', found⟩ := Option.isSome_iff_exists.mp succeeds'
  have extracted'' := toOption_eq_some.mp found
  obtain ⟨r, r', extracted, extracted', _, ratio⟩ | ⟨e, failed, _⟩ := amounts same
  · exact ⟨r, r', r'', vectorGrids_sample, valid, logged, same, extracted, extracted', ratio,
      extracted'', fun f bound => linear r r'' extracted extracted'' f 2 bound (by decide)
        (by decide)⟩
  · rw [failed] at succeeds
    cases succeeds

end Table
end Absorption
