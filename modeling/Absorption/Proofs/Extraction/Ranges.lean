import Absorption.Proofs.Extraction.Kept
import Absorption.Proofs.Extraction.Refusals

set_option autoImplicit false

/-!
What an extraction says when it refuses a pressure, a temperature or a humidity as out of range.
Half a bin more at each end of a grid leaves its points inside (`Grid.covered_contains`), so what is
refused misses the range that is reported, and what lies in that range is placed. Zero is the
exception among the pressures: a range that is cut there admits it, and it is refused.
-/

namespace Absorption

variable {α : Type} [Scalar α]

/-- A number misses a range that it is below or above. What is not a number misses all. -/
def Bounds.Misses (b : Bounds α) (x : α) : Prop := ¬ x ≤ x ∨ x < b.lower ∨ b.upper < x

theorem Bounds.contains_iff {b : Bounds α} {x : α} :
    b.contains x = true ↔ b.lower ≤ x ∧ x ≤ b.upper := by
  rw [contains, Bool.and_eq_true, decide_eq_true_eq, decide_eq_true_eq]

theorem Bounds.misses_of_outside [OrderedScalar α] {b : Bounds α} {x : α}
    (lower : b.lower ≤ b.lower) (upper : b.upper ≤ b.upper) (outside : b.contains x = false) :
    b.Misses x := by
  by_cases number : x ≤ x
  · by_cases above : b.lower ≤ x
    · by_cases below : x ≤ b.upper
      · rw [contains_iff.mpr ⟨above, below⟩] at outside
        cases outside
      · exact .inr (.inr (OrderedScalar.lt_of_not_le upper number below))
    · exact .inr (.inl (OrderedScalar.lt_of_not_le number lower above))
  · exact .inl number

/-- Of a number and zero the larger is not less than either. -/
theorem Scalar.le_atLeastZero [OrderedScalar α] {a : α} (zero : (0 : α) ≤ 0) (number : a ≤ a) :
    a ≤ Scalar.atLeastZero a ∧ 0 ≤ Scalar.atLeastZero a := by
  rw [atLeastZero]
  split
  · next negative => exact ⟨(OrderedScalar.lt_iff.mp negative).1, zero⟩
  · next positive => exact ⟨number, OrderedScalar.le_of_not_lt zero number positive⟩

namespace Grid

section Margin

variable [MarginScalar α] {grid : List α}

/-- The points of a grid that increases lie between the ends of its range. -/
theorem ascendingRange_contains (rising : grid.Pairwise (· < ·)) {range : Bounds α}
    (covers : ascendingRange grid = .ok range) {x : α} (point : x ∈ grid) (number : x ≤ x) :
    range.lower ≤ x ∧ x ≤ range.upper := by
  have le_of_lt {a b : α} (below : a < b) : a ≤ b := (OrderedScalar.lt_iff.mp below).1
  cases grid with
  | nil => cases point
  | cons a grid =>
      cases grid with
      | nil =>
          rw [ascendingRange, Except.ok.injEq] at covers
          rw [List.mem_singleton] at point
          subst covers point
          exact ⟨number, number⟩
      | cons b rest =>
          have falling := List.pairwise_reverse.mpr rising
          have mirrored := List.mem_reverse.mpr point
          obtain ⟨z, y, more, reversed, ends⟩ := ascendingRange_of_several a b rest
          rw [ends, Except.ok.injEq] at covers
          rw [reversed] at falling mirrored
          subst covers
          have first := (List.pairwise_cons.mp rising).1
          have last := (List.pairwise_cons.mp falling).1
          have lower := MarginScalar.sub_margin (first b List.mem_cons_self)
          have upper := MarginScalar.add_margin (last y List.mem_cons_self)
          constructor
          · rcases List.mem_cons.mp point with rfl | later
            · exact lower
            · exact OrderedScalar.le_trans lower (le_of_lt (first x later))
          · rcases List.mem_cons.mp mirrored with rfl | earlier
            · exact upper
            · exact OrderedScalar.le_trans (le_of_lt (last x earlier)) upper

/-- The points of a grid in either direction lie between the ends of its range. -/
theorem covered_contains
    (strict : grid.Pairwise (· < ·) ∨ grid.Pairwise (fun a b => b < a)) {x : α} (point : x ∈ grid)
    (number : x ≤ x) : (covered grid).lower ≤ x ∧ x ≤ (covered grid).upper := by
  obtain ⟨first, rest, rfl⟩ := List.exists_cons_of_ne_nil (List.ne_nil_of_mem point)
  -- The ends decide whether the grid is read backwards; they cannot mislead a strict order.
  have covers := extendedRange_eq (List.cons_ne_nil first rest)
  rw [extendedRange, List.head?_cons, List.getLast?_cons] at covers
  simp only at covers
  split at covers
  · next falls =>
      refine ascendingRange_contains ?_ covers (List.mem_reverse.mpr point) number
      refine List.pairwise_reverse.mpr (strict.resolve_left fun rising => ?_)
      cases last : rest.getLast? with
      | none =>
          rw [last, Option.getD_none] at falls
          exact OrderedScalar.lt_irrefl first falls
      | some l =>
          rw [last, Option.getD_some] at falls
          have above := (List.pairwise_cons.mp rising).1 l (List.mem_of_getLast? last)
          exact OrderedScalar.lt_irrefl first (OrderedScalar.lt_trans above falls)
  · next rises =>
      refine ascendingRange_contains (strict.elim id fun falling => ?_) covers point number
      cases last : rest.getLast? with
      | none =>
          rw [List.getLast?_eq_none_iff.mp last]
          exact List.pairwise_singleton _ first
      | some l =>
          rw [last, Option.getD_some] at rises
          exact absurd ((List.pairwise_cons.mp falling).1 l (List.mem_of_getLast? last)) rises

/-- What is not in the range of a grid that increases misses it, unless the only point of the grid
is not a number. -/
theorem misses_of_covered (rising : grid.Pairwise (· < ·)) (nonempty : grid ≠ []) {x : α}
    (outside : (covered grid).contains x = false) :
    (covered grid).Misses x ∨ ∃ q, grid = [q] ∧ ¬ q ≤ q := by
  by_cases some : ∃ q ∈ grid, q ≤ q
  · obtain ⟨q, point, number⟩ := some
    obtain ⟨lower, upper⟩ := covered_contains (.inl rising) point number
    exact .inl (Bounds.misses_of_outside (OrderedScalar.le_self lower).1
      (OrderedScalar.le_self upper).2 outside)
  · obtain ⟨q, rest, rfl⟩ := List.exists_cons_of_ne_nil nonempty
    refine .inr ⟨q, ?_, fun number => some ⟨q, List.mem_cons_self, number⟩⟩
    cases rest with
    | nil => rfl
    | cons b rest =>
        have below := (List.pairwise_cons.mp rising).1 b List.mem_cons_self
        have number := (OrderedScalar.le_self (OrderedScalar.lt_iff.mp below).1).1
        exact absurd ⟨q, List.mem_cons_self, number⟩ some

end Margin

end Grid

namespace Table

variable {t : Table α} {o : Orders} {molecule : String} {air : Air α} {frequency : Int}

/-- The temperature axis and its range, if there is one. -/
def temperatureAxis (t : Table α) : Outcome α (Option (Tensor α × Bounds α)) :=
  perturbations t.temperaturePerturbations (t.temperaturePerturbations.toList.length != 0)

/-- The humidity axis and its range, if there are nonlinear species. -/
def humidityAxis (t : Table α) : Outcome α (Option (Tensor α × Bounds α)) :=
  perturbations t.humidityPerturbations (!t.nonlinear.isEmpty)

/-- What holds of a pressure that is refused, and of the range that is reported. -/
structure PressureMissed (t : Table α) (order : Int) (pressure : α) (b : Bounds α) : Prop where
  ordered : b.lower ≤ b.upper
  missed : b.Misses pressure ∨ Scalar.same pressure 0 = true ∧ Scalar.same b.lower 0 = true
  placed : ∀ x, b.contains x = true → ((∃ p, t.pressurePosition order x = .ok p) ↔ 0 < x)

/-- What holds of an offset from the temperature of a level that is refused, and of the range that
is reported. -/
structure TemperatureMissed (t : Table α) (order : Int) (air : Air α) (level : Nat) (offset : α)
    (b : Bounds α) (reference : α) : Prop where
  known : t.referenceTemperature.get? [level] = some reference
  relative : offset = air.temperature - reference
  missed : b.Misses offset ∨ ∃ q, t.temperaturePerturbations.toList = [q] ∧ ¬ q ≤ q
  placed : ∃ axis, t.temperatureAxis = .ok axis ∧ ∀ air' : Air α,
    (∃ p, t.temperaturePosition order air' level axis = .ok p) ↔
      b.contains (air'.temperature - reference) = true

/-- What holds of a fraction of the humidity of a level that is refused, and of the range that is
reported. Where the reference is not positive no humidity is placed. -/
structure HumidityMissed (t : Table α) (order : Int) (species : Nat) (air : Air α) (level : Nat)
    (fraction : Option α) (b : Bounds α) (reference : α) : Prop where
  known : t.referenceVmr.get? [species, level] = some reference
  relative : fraction =
    if 0 < reference then some (air.vmrs.getD species 0 / reference) else Scalar.infinity?
  missed : (∀ x, fraction = some x → b.Misses x) ∨
    ∃ q, t.humidityPerturbations.toList = [q] ∧ ¬ q ≤ q
  placed : ∃ axis, t.humidityAxis = .ok axis ∧ ∀ air' : Air α,
    air'.vmrs.length = t.species.length →
    ((∃ p, t.humidityPosition order (Int.ofNat species) air' level axis = .ok p) ↔
      0 < reference ∧ b.contains (air'.vmrs.getD species 0 / reference) = true)

/-- The range of pressures as it is reported. -/
def allowedPressures (t : Table α) : Bounds α :=
  { Grid.covered t.pressures.toList with
    lower := Scalar.atLeastZero (Grid.covered t.pressures.toList).lower }

/-- The range that is reported is the range of the grid above zero. -/
theorem Fitting.allowedPressures_spec [MarginScalar α] (fits : t.Fitting)
    (positive : ∀ p ∈ t.pressures.toList, 0 < p) (nonempty : t.pressures.toList ≠ []) :
    (0 : α) ≤ 0 ∧
    (Grid.covered t.pressures.toList).lower ≤ t.allowedPressures.lower ∧
    0 ≤ t.allowedPressures.lower ∧ t.allowedPressures.lower ≤ t.allowedPressures.upper := by
  obtain ⟨p, rest, points⟩ := List.exists_cons_of_ne_nil nonempty
  have point : p ∈ t.pressures.toList := points ▸ List.mem_cons_self
  have above := (OrderedScalar.lt_iff.mp (positive p point)).1
  obtain ⟨zero, number⟩ := OrderedScalar.le_self above
  obtain ⟨lower, upper⟩ := Grid.covered_contains
    (.inr (Grid.isDecreasing_iff.mp fits.pressures)) point number
  obtain ⟨least, least'⟩ := Scalar.le_atLeastZero zero (OrderedScalar.le_self lower).1
  refine ⟨zero, least, least', ?_⟩
  rw [allowedPressures, Scalar.atLeastZero]
  split
  · exact OrderedScalar.le_trans above upper
  · exact OrderedScalar.le_trans lower upper

/-- A pressure that is not in the range of the grid, or not positive, misses the range that is
reported or is zero where that starts at zero. -/
theorem Fitting.missed_pressure [MarginScalar α] (fits : t.Fitting)
    (positive : ∀ p ∈ t.pressures.toList, 0 < p) (nonempty : t.pressures.toList ≠ [])
    {pressure : α} (outside : (Grid.covered t.pressures.toList).contains pressure = false ∨
      pressure ≤ 0) : t.allowedPressures.Misses pressure ∨
      Scalar.same pressure 0 = true ∧ Scalar.same t.allowedPressures.lower 0 = true := by
  obtain ⟨_, least, bottom, ends⟩ := fits.allowedPressures_spec positive nonempty
  rcases outside with outside | low
  · have upper := (OrderedScalar.le_self ends).2
    refine .inl ?_
    rcases Bounds.misses_of_outside (OrderedScalar.le_self least).1 upper outside with
      absent | below | above
    · exact .inl absent
    · exact .inr (.inl (OrderedScalar.lt_of_lt_of_le below least))
    · exact .inr (.inr above)
  · have number := (OrderedScalar.le_self low).1
    have lower := (OrderedScalar.le_self bottom).2
    by_cases reached : t.allowedPressures.lower ≤ pressure
    · have cut := OrderedScalar.le_trans reached low
      have above := OrderedScalar.le_trans bottom reached
      refine .inr ⟨?_, ?_⟩
      · simp [Scalar.same, low, above]
      · simp [Scalar.same, cut, bottom]
    · exact .inl (.inr (.inl (OrderedScalar.lt_of_not_le number lower reached)))

namespace Fitting

variable (fits : t.Fitting) (grids : t.VectorGrids) (logged : t.hasLog = .ok true)
include fits grids logged

/-- Of the pressures in the range that is reported just the positive ones are placed. -/
theorem exists_pressurePosition [MarginScalar α] (positive : ∀ p ∈ t.pressures.toList, 0 < p)
    {order : Int} (lower : 0 ≤ order) (upper : order < t.pressures.toList.length) {x : α}
    (inside : t.allowedPressures.contains x = true) :
    (∃ p, t.pressurePosition order x = .ok p) ↔ 0 < x := by
  have nonempty := List.ne_nil_of_length_pos (Int.natCast_pos.mp (Int.lt_of_le_of_lt lower upper))
  obtain ⟨zero, least, _, _⟩ := fits.allowedPressures_spec positive nonempty
  obtain ⟨above, below⟩ := Bounds.contains_iff.mp inside
  have number := (OrderedScalar.le_self above).2
  have covered : (Grid.covered t.pressures.toList).contains x = true :=
    Bounds.contains_iff.mpr ⟨OrderedScalar.le_trans least above, below⟩
  rw [(grids.meets_pressurePosition logged lower upper x).succeeds_iff]
  simp only [pressureDemands, covered, List.forall_mem_cons, List.not_mem_nil, false_implies,
    implies_true, and_true, true_and, Bool.not_eq_true', decide_eq_false_iff_not]
  constructor
  · exact OrderedScalar.lt_of_not_le zero number
  · intro positive low
    exact (OrderedScalar.lt_iff.mp positive).2 low

theorem pressure_missed [MarginScalar α] (positive : ∀ p ∈ t.pressures.toList, 0 < p)
    {value : α} {b : Bounds α} {cause : PressureCause α}
    (refused : t.extract o molecule air frequency = refuse (.pressureRange value b cause)) :
    value = air.pressure ∧ t.PressureMissed o.pressure value b := by
  obtain ⟨early, d, unmet, failure, range⟩ :=
    fits.refused_for_range grids logged refused (.inl rfl)
  have demanded : d ∈ t.pressureDemands air.pressure := by
    rcases range with ⟨_, outside⟩ | ⟨_, _, ⟨other, _⟩ | ⟨other, _⟩⟩
    · exact outside
    · cases other
    · cases other
  have reported : b = t.allowedPressures ∧ value = air.pressure ∧
      ((Grid.covered t.pressures.toList).contains value = false ∨ value ≤ 0) := by
    simp only [pressureDemands, List.mem_cons, List.not_mem_nil, or_false] at demanded
    rcases demanded with rfl | rfl
    · simp only [Failure.refused.injEq, Refusal.pressureRange.injEq] at failure
      obtain ⟨rfl, rfl, _⟩ := failure
      exact ⟨rfl, rfl, .inl unmet⟩
    · simp only [Failure.refused.injEq, Refusal.pressureRange.injEq] at failure
      obtain ⟨rfl, rfl, _⟩ := failure
      exact ⟨rfl, rfl, .inr (by simpa using unmet)⟩
  obtain ⟨rfl, same, outside⟩ := reported
  have ordered := (grids.ordered_of_early early).1
  obtain ⟨⟨lower, _, _⟩, upper, _⟩ := grids.checkOrders_eq_ok.mp ordered
  have nonempty := List.ne_nil_of_length_pos (Int.natCast_pos.mp (Int.lt_of_le_of_lt lower upper))
  obtain ⟨_, _, _, ends⟩ := fits.allowedPressures_spec positive nonempty
  refine ⟨same, ends, fits.missed_pressure positive nonempty outside, ?_⟩
  intro x inside
  exact fits.exists_pressurePosition grids logged positive lower upper inside

omit fits in
/-- A level that takes part lies in the table. -/
theorem level_inside (ordered : t.checkOrders o = .ok ()) {level : Nat}
    (takesPart : level ∈ t.levels o.pressure air.pressure) : level < t.pressures.toList.length := by
  obtain ⟨⟨lower, _, _⟩, upper, _⟩ := grids.checkOrders_eq_ok.mp ordered
  obtain ⟨first, within, points⟩ := grids.levels_eq_range' logged lower upper air.pressure
  rw [points, List.mem_range'_1] at takesPart
  omega

theorem temperature_missed [MarginScalar α] {offset temperature pressure : α} {b : Bounds α}
    (refused : t.extract o molecule air frequency =
      refuse (.temperatureRange offset b temperature pressure)) :
    temperature = air.temperature ∧ pressure = air.pressure ∧
      ∃ level ∈ t.levels o.pressure air.pressure, ∃ reference,
        t.TemperatureMissed o.temperature air level offset b reference := by
  obtain ⟨early, d, unmet, failure, range⟩ :=
    fits.refused_for_range grids logged refused (.inr (.inl rfl))
  obtain ⟨level, takesPart, demanded⟩ : ∃ level ∈ t.levels o.pressure air.pressure,
      d ∈ t.temperatureDemands air level := by
    rcases range with ⟨other, _⟩ | ⟨level, takesPart, ⟨_, outside⟩ | ⟨other, _⟩⟩
    · cases other
    · exact ⟨level, takesPart, outside⟩
    · cases other
  have ordered := (grids.ordered_of_early early).1
  obtain ⟨⟨_, lower, _⟩, _, _, upper⟩ := grids.checkOrders_eq_ok.mp ordered
  have inside := level_inside grids logged ordered takesPart
  obtain ⟨reference, known⟩ := fits.exists_temperature inside
  simp only [temperatureDemands, known, Option.getD_some, List.mem_ite_nil_left,
    List.mem_singleton] at demanded
  obtain ⟨needed, rfl⟩ := demanded
  simp only [Failure.refused.injEq, Refusal.temperatureRange.injEq] at failure
  obtain ⟨rfl, rfl, rfl, rfl⟩ := failure
  have nonempty : t.temperaturePerturbations.toList ≠ [] := by simpa using needed
  have rising := Grid.isIncreasing_iff.mp fits.temperatures
  obtain ⟨axis, present⟩ : ∃ axis, t.temperatureAxis = .ok axis :=
    exists_perturbations grids.temperatures (fun _ => nonempty)
  refine ⟨rfl, rfl, level, takesPart, reference, known, rfl,
    Grid.misses_of_covered rising nonempty unmet, axis, present, ?_⟩
  intro air'
  rw [(fits.meets_temperaturePosition grids lower upper present air' inside).succeeds_iff]
  simp [temperatureDemands, known, nonempty]

theorem humidity_missed [MarginScalar α] {fraction : Option α} {b : Bounds α} {species : Int}
    {vmr pressure reference : α} (refused : t.extract o molecule air frequency =
      refuse (.humidityRange fraction b species vmr pressure reference)) :
    ∃ h, t.humidityIndex? molecule = some h ∧ species = h ∧ vmr = air.vmrs.getD h 0 ∧
      pressure = air.pressure ∧ ∃ level ∈ t.levels o.pressure air.pressure,
        t.HumidityMissed o.humidity h air level fraction b reference := by
  obtain ⟨early, d, unmet, failure, range⟩ :=
    fits.refused_for_range grids logged refused (.inr (.inr rfl))
  obtain ⟨level, takesPart, demanded⟩ : ∃ level ∈ t.levels o.pressure air.pressure,
      d ∈ t.humidityDemands ((t.humidityIndex? molecule).getD 0) air level := by
    rcases range with ⟨other, _⟩ | ⟨level, takesPart, ⟨other, _⟩ | ⟨_, outside⟩⟩
    · cases other
    · cases other
    · exact ⟨level, takesPart, outside⟩
  obtain ⟨ordered, complete, found⟩ := grids.ordered_of_early early
  obtain ⟨⟨_, _, lower⟩, _, upper, _⟩ := grids.checkOrders_eq_ok.mp ordered
  have inside := level_inside grids logged ordered takesPart
  simp only [humidityDemands, List.mem_ite_nil_left, List.mem_singleton] at demanded
  obtain ⟨needed, rfl⟩ := demanded
  have nonlinear : t.nonlinear ≠ [] := by simpa using needed
  have nonempty : t.humidityPerturbations.toList ≠ [] := mt fits.perturbed.mp nonlinear
  obtain ⟨h, index⟩ := found.resolve_left nonlinear
  have bound := lt_of_humidityIndex? index
  obtain ⟨x, known⟩ := fits.exists_vmr bound inside
  simp only [index, Option.getD_some, known, Failure.refused.injEq, Refusal.humidityRange.injEq]
    at failure unmet
  obtain ⟨rfl, rfl, rfl, rfl, rfl, rfl⟩ := failure
  have rising := Grid.isIncreasing_iff.mp fits.humidities
  obtain ⟨axis, present⟩ : ∃ axis, t.humidityAxis = .ok axis :=
    exists_perturbations grids.humidities (fun _ => nonempty)
  refine ⟨h, index, rfl, rfl, rfl, level, takesPart, known, rfl, ?_, axis, present, ?_⟩
  · generalize (if 0 < x then some (air.vmrs.getD h 0 / x) else Scalar.infinity?) = fraction
      at unmet
    cases fraction with
    | none =>
        refine .inl fun y same => ?_
        cases same
    | some y =>
        rcases Grid.misses_of_covered rising nonempty unmet with missed | absent
        · refine .inl fun y' same => ?_
          rwa [← Option.some.inj same]
        · exact .inr absent
  · intro air' complete'
    rw [(fits.meets_humidityPosition grids lower upper present complete' (fun _ => ⟨rfl, bound⟩)
      inside).succeeds_iff]
    simp only [humidityDemands, known, Option.getD_some, List.isEmpty_eq_false_iff.mpr nonlinear,
      Bool.false_eq_true, ↓reduceIte, List.forall_mem_singleton]
    by_cases positive : 0 < x
    · simp only [positive, ↓reduceIte, Option.any_some, true_and]
    · simp only [positive, ↓reduceIte, false_and, iff_false, Bool.not_eq_true] at unmet ⊢
      exact unmet

end Fitting

/-- Where an extraction refuses a number as out of range, it misses the range that is reported, and
what lies in that range passes the check that failed. The exceptions are a pressure of zero where
the range starts at zero, and an axis whose only point is not a number. -/
theorem VectorGrids.range_refusals [MarginScalar α] (grids : t.VectorGrids)
    (valid : t.validate = .ok ()) (logged : t.hasLog = .ok true)
    (positive : ∀ p ∈ t.pressures.toList, 0 < p) (o : Orders) (molecule : String) (air : Air α)
    (frequency : Int) :
    (∀ value b cause, t.extract o molecule air frequency = refuse (.pressureRange value b cause) →
      value = air.pressure ∧ t.PressureMissed o.pressure value b) ∧
    (∀ offset b temperature pressure, t.extract o molecule air frequency =
        refuse (.temperatureRange offset b temperature pressure) →
      temperature = air.temperature ∧ pressure = air.pressure ∧
        ∃ level ∈ t.levels o.pressure air.pressure, ∃ reference,
          t.TemperatureMissed o.temperature air level offset b reference) ∧
    ∀ fraction b species vmr pressure reference, t.extract o molecule air frequency =
        refuse (.humidityRange fraction b species vmr pressure reference) →
      ∃ h, t.humidityIndex? molecule = some h ∧ species = h ∧ vmr = air.vmrs.getD h 0 ∧
        pressure = air.pressure ∧ ∃ level ∈ t.levels o.pressure air.pressure,
          t.HumidityMissed o.humidity h air level fraction b reference := by
  have fits := (grids.validate_eq_ok_iff.mp valid).toFitting
  refine ⟨?_, ?_, ?_⟩
  · intro value b cause refused
    exact fits.pressure_missed grids logged positive refused
  · intro offset b temperature pressure refused
    exact fits.temperature_missed grids logged refused
  · intro fraction b species vmr pressure reference refused
    exact fits.humidity_missed grids logged refused

/-- At 40 Pa the pressure of the sample is missed, at 231 K its temperature, and with a tenth of
water its humidity. -/
theorem range_refusals_sample : sample.VectorGrids ∧ sample.validate = .ok () ∧
    sample.hasLog = .ok true ∧ (∀ p ∈ sample.pressures.toList, 0 < p) ∧
    (∃ value b cause, sample.extract ⟨1, 1, 1⟩ "H2O" { sampleAir with pressure := 40 } (-1) =
        refuse (.pressureRange value b cause) ∧ sample.PressureMissed 1 value b) ∧
    (∃ offset b temperature pressure level reference,
      sample.extract ⟨1, 1, 1⟩ "H2O" { sampleAir with temperature := 231 } (-1) =
        refuse (.temperatureRange offset b temperature pressure) ∧
      sample.TemperatureMissed 1 { sampleAir with temperature := 231 } level offset b reference) ∧
    ∃ fraction b species vmr pressure reference h level,
      sample.extract ⟨1, 1, 1⟩ "H2O" { sampleAir with vmrs := [1 / 5, 1 / 10, 1 / 5] } (-1) =
        refuse (.humidityRange fraction b species vmr pressure reference) ∧
      sample.HumidityMissed 1 h { sampleAir with vmrs := [1 / 5, 1 / 10, 1 / 5] } level fraction b
        reference := by
  have valid : sample.validate = .ok () := toOption_eq_some.mp (by decide +kernel)
  have logged : sample.hasLog = .ok true := toOption_eq_some.mp (by decide +kernel)
  have positive : ∀ p ∈ sample.pressures.toList, 0 < p := by decide +kernel
  have high : (match sample.extract ⟨1, 1, 1⟩ "H2O" { sampleAir with pressure := 40 } (-1) with
      | .error (.refused (.pressureRange ..)) => true
      | _ => false) = true := by decide +kernel
  have cold : (match sample.extract ⟨1, 1, 1⟩ "H2O" { sampleAir with temperature := 231 } (-1) with
      | .error (.refused (.temperatureRange ..)) => true
      | _ => false) = true := by decide +kernel
  have wet : (match sample.extract ⟨1, 1, 1⟩ "H2O"
        { sampleAir with vmrs := [1 / 5, 1 / 10, 1 / 5] } (-1) with
      | .error (.refused (.humidityRange ..)) => true
      | _ => false) = true := by decide +kernel
  refine ⟨vectorGrids_sample, valid, logged, positive, ?_, ?_, ?_⟩
  · split at high
    · next value b cause refused =>
        obtain ⟨pressures, _⟩ := vectorGrids_sample.range_refusals valid logged positive ⟨1, 1, 1⟩
          "H2O" { sampleAir with pressure := 40 } (-1)
        exact ⟨value, b, cause, refused, (pressures value b cause refused).2⟩
    · cases high
  · split at cold
    · next offset b temperature pressure refused =>
        obtain ⟨_, temperatures, _⟩ := vectorGrids_sample.range_refusals valid logged positive
          ⟨1, 1, 1⟩ "H2O" { sampleAir with temperature := 231 } (-1)
        obtain ⟨_, _, level, _, reference, missed⟩ :=
          temperatures offset b temperature pressure refused
        exact ⟨offset, b, temperature, pressure, level, reference, refused, missed⟩
    · cases cold
  · split at wet
    · next fraction b species vmr pressure reference refused =>
        obtain ⟨_, _, humidities⟩ := vectorGrids_sample.range_refusals valid logged positive
          ⟨1, 1, 1⟩ "H2O" { sampleAir with vmrs := [1 / 5, 1 / 10, 1 / 5] } (-1)
        obtain ⟨h, _, _, _, _, level, _, missed⟩ :=
          humidities fraction b species vmr pressure reference refused
        exact ⟨fraction, b, species, vmr, pressure, reference, h, level, refused, missed⟩
    · cases wet

/-- A pressure of zero is refused with a range that starts at zero. -/
theorem zero_refused : ∃ value b cause, (Tabled.levels [4, 2, 0.5]).VectorGrids ∧
    (Tabled.levels [4, 2, 0.5]).validate = .ok () ∧
    (Tabled.levels [4, 2, 0.5]).hasLog = .ok true ∧
    (∀ p ∈ (Tabled.levels [4, 2, 0.5]).pressures.toList, 0 < p) ∧
    (Tabled.levels [4, 2, 0.5]).extract ⟨2, 0, 0⟩ "H2O" { Tabled.levelsAir with pressure := 0 }
      (-1) = refuse (.pressureRange value b cause) ∧
    ¬ b.Misses value ∧ b.contains value = true ∧
    Fails ((Tabled.levels [4, 2, 0.5]).pressurePosition 2 value) := by
  have low : (match (Tabled.levels [4, 2, 0.5]).extract ⟨2, 0, 0⟩ "H2O"
        { Tabled.levelsAir with pressure := 0 } (-1) with
      | .error (.refused (.pressureRange value b _)) =>
        (decide (¬ value ≤ value ∨ value < b.lower ∨ b.upper < value), b.contains value,
          ((Tabled.levels [4, 2, 0.5]).pressurePosition 2 value).toOption.isSome)
      | _ => (true, true, true)) = (false, true, false) := by decide +kernel
  split at low
  · next value b cause refused =>
      simp only [Prod.mk.injEq, decide_eq_false_iff_not] at low
      obtain ⟨missed, inside, failed⟩ := low
      exact ⟨value, b, cause, ⟨rfl, rfl, rfl, rfl⟩, toOption_eq_some.mp (by decide +kernel),
        toOption_eq_some.mp (by decide +kernel), by decide +kernel, refused, missed, inside,
        fails_iff.mpr failed⟩
  · cases low

end Table
end Absorption
