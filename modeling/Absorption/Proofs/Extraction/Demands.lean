import Absorption.Proofs.Demand
import Absorption.Proofs.Extraction.Course
import Absorption.Proofs.Grid.Congruence

set_option autoImplicit false

/-!
What an extraction demands, in the order in which it is looked at. An extraction from a consistent
table whose logarithms are up to date has no other way to fail (`VectorGrids.extract_meets`): all
that it reads is there.
-/

namespace Absorption

variable {α : Type}

namespace Table

/-- Without nonlinear species none of the humidity molecule is needed. -/
def referenceDemand (t : Table α) (molecule : String) : Demand α :=
  ⟨t.nonlinear.isEmpty || (t.humidityIndex? molecule).isSome,
    .refused (.noHumidityReference molecule)⟩

/-- An axis has more points than its order, or none if it may be absent. -/
def pointsDemand (axis : String) (points : Nat) (order : Int) (optional : Bool) : Demand α :=
  ⟨optional && points == 0 || decide (order < points),
    .refused (.insufficientGrid axis points order)⟩

def orderDemands (t : Table α) (o : Orders) : List (Demand α) :=
  [⟨decide (0 ≤ o.pressure ∧ 0 ≤ o.temperature ∧ 0 ≤ o.humidity),
      .refused (.negativeOrder o.pressure o.temperature o.humidity)⟩,
    pointsDemand "pressure" t.pressures.toList.length o.pressure false,
    pointsDemand "humidity perturbation" t.humidityPerturbations.toList.length o.humidity true,
    pointsDemand "temperature perturbation" t.temperaturePerturbations.toList.length o.temperature
      true]

/-- There is a mixing ratio for each species. -/
def countDemand (t : Table α) (air : Air α) : Demand α :=
  ⟨air.vmrs.length == t.species.length, .refused (.vmrCount t.species.length air.vmrs.length)⟩

/-- The frequency that is asked for exists. -/
def frequencyDemand (t : Table α) (frequency : Int) : Demand α :=
  ⟨decide (frequency < t.frequencies.toList.length),
    .refused (.frequencyIndex frequency t.frequencies.toList.length)⟩

theorem meets_humiditySpecies (t : Table α) (molecule : String) :
    Meets [t.referenceDemand molecule] (t.humiditySpecies molecule) := by
  rw [humiditySpecies]
  refine Meets.single ?_ ?_
  · intro fails
    simp only [referenceDemand, Bool.or_eq_false_iff, Option.isSome_eq_false_iff,
      Option.isNone_iff_eq_none] at fails
    rw [if_neg (by simp [fails.1]), fails.2]
    rfl
  · intro holds
    split
    · exact ⟨_, rfl⟩
    · next some =>
        cases index : t.humidityIndex? molecule with
        | some i => exact ⟨_, rfl⟩
        | none => simp [referenceDemand, index, some] at holds

namespace VectorGrids

variable {t : Table α} (grids : t.VectorGrids)
include grids

theorem meets_checkOrders (o : Orders) : Meets (t.orderDemands o) (t.checkOrders o) := by
  have signs : (!(decide (o.pressure < 0) || decide (o.temperature < 0) ||
      decide (o.humidity < 0))) =
      decide (0 ≤ o.pressure ∧ 0 ≤ o.temperature ∧ 0 ≤ o.humidity) := by
    grind
  have needed (n : Nat) (order : Int) :
      (!decide ((n : Int) < order + 1)) = (false && n == 0 || decide (order < n)) := by
    grind
  have optional (n : Nat) (order : Int) :
      (!(n != 0 && decide ((n : Int) < order + 1))) = (true && n == 0 || decide (order < n)) := by
    grind
  rw [checkOrders, grids.pressures.length, grids.humidities.length, grids.temperatures.length]
  refine .bind (.require signs _) fun _ _ => ?_
  refine .bind (.require (needed _ _) _) fun _ _ => ?_
  refine .bind (.require (optional _ _) _) fun _ _ => ?_
  exact .require (optional _ _) _

theorem meets_frequencyRange (frequency : Int) :
    Meets [t.frequencyDemand frequency] (t.frequencyRange frequency) := by
  rw [frequencyRange, grids.frequencies.length, ok_bind]
  refine Meets.single ?_ ?_
  · intro fails
    have beyond := of_decide_eq_false fails
    rw [if_neg (by omega), if_pos (by omega)]
    rfl
  · intro holds
    have below := of_decide_eq_true holds
    split
    · exact ⟨_, rfl⟩
    · rw [if_neg (by omega)]
      exact ⟨_, rfl⟩

end VectorGrids

end Table

variable [Scalar α]

/-- The range that a grid covers, with half a bin more at each end. -/
def Grid.covered (grid : List α) : Bounds α :=
  (extendedRange grid).toOption.getD ⟨0, 0⟩

/-- A grid of several points ends in two points that set the bin at this end. -/
theorem Grid.ascendingRange_of_several (a b : α) (rest : List α) : ∃ z y more,
    (a :: b :: rest).reverse = z :: y :: more ∧ ascendingRange (a :: b :: rest) =
      .ok ⟨a - Scalar.half * (b - a), z + Scalar.half * (z - y)⟩ := by
  have length : (a :: b :: rest).reverse.length = rest.length + 2 := by simp
  rw [ascendingRange]
  rcases reversed : (a :: b :: rest).reverse with _ | ⟨z, _ | ⟨y, more⟩⟩
  · simp [reversed] at length
  · simp [reversed] at length
  · exact ⟨z, y, more, rfl, rfl⟩

theorem Grid.exists_ascendingRange {grid : List α} (nonempty : grid ≠ []) :
    ∃ range, ascendingRange grid = .ok range := by
  cases grid with
  | nil => exact absurd rfl nonempty
  | cons a grid =>
      cases grid with
      | nil => exact ⟨_, rfl⟩
      | cons b rest =>
          obtain ⟨_, _, _, _, range⟩ := ascendingRange_of_several a b rest
          exact ⟨_, range⟩

theorem Grid.extendedRange_eq {grid : List α} (nonempty : grid ≠ []) :
    extendedRange grid = .ok (covered grid) := by
  have range (l : List α) (some : l ≠ []) :
      ascendingRange l = .ok ((ascendingRange l).toOption.getD ⟨0, 0⟩) := by
    obtain ⟨r, found⟩ := exists_ascendingRange some
    rw [found]
    rfl
  obtain ⟨first, rest, rfl⟩ := List.exists_cons_of_ne_nil nonempty
  rw [covered, extendedRange, List.head?_cons, List.getLast?_cons]
  simp only
  apply range
  split <;> simp

namespace Table

def pressureDemands (t : Table α) (pressure : α) : List (Demand α) :=
  let grid := t.pressures.toList
  let range := Grid.covered grid
  let allowed := { range with lower := Scalar.atLeastZero range.lower }
  [⟨range.contains pressure,
      .refused (.pressureRange pressure allowed (.outsideGrid (grid.getLastD 0) (grid.headD 0)))⟩,
    ⟨!decide (pressure ≤ 0), .refused (.pressureRange pressure allowed .notPositive)⟩]

/-- The levels that take part for a pressure. -/
def levels (t : Table α) (order : Int) (pressure : α) : List Nat :=
  match t.logPressures with
  | some logs => Grid.stencil logs.toList (Scalar.log pressure) (order.toNat + 1)
  | none => []

/-- With a temperature axis the offset from the reference of a level is in its range. -/
def temperatureDemands (t : Table α) (air : Air α) (level : Nat) : List (Demand α) :=
  let range := Grid.covered t.temperaturePerturbations.toList
  let offset := air.temperature - (t.referenceTemperature.get? [level]).getD 0
  if t.temperaturePerturbations.toList.isEmpty then []
  else [⟨range.contains offset,
    .refused (.temperatureRange offset range air.temperature air.pressure)⟩]

/-- With nonlinear species the fraction of the reference humidity of a level is in the range of the
humidity axis. -/
def humidityDemands (t : Table α) (species : Nat) (air : Air α) (level : Nat) : List (Demand α) :=
  let range := Grid.covered t.humidityPerturbations.toList
  let reference := (t.referenceVmr.get? [species, level]).getD 0
  let vmr := air.vmrs.getD species 0
  let fraction := if 0 < reference then some (vmr / reference) else Scalar.infinity?
  if t.nonlinear.isEmpty then []
  else [⟨fraction.any range.contains,
    .refused (.humidityRange fraction range species vmr air.pressure reference)⟩]

/-- A number density needs an energy to divide by. -/
def densityDemand (air : Air α) : Demand α :=
  ⟨!Scalar.same (Scalar.boltzmann * air.temperature) 0, .fault .divisionByZero⟩

/-- All that an extraction demands. -/
def demands (t : Table α) (o : Orders) (molecule : String) (air : Air α) (frequency : Int) :
    List (Demand α) :=
  let species := (t.humidityIndex? molecule).getD 0
  [t.referenceDemand molecule] ++ t.orderDemands o ++
    [t.countDemand air, t.frequencyDemand frequency] ++ t.pressureDemands air.pressure ++
    (t.levels o.pressure air.pressure).flatMap (fun level =>
      t.temperatureDemands air level ++ t.humidityDemands species air level) ++
    [densityDemand air]

/-- Logarithms that count as those of the pressures are as many. -/
theorem VectorGrids.logs {t : Table α} (grids : t.VectorGrids) (logged : t.hasLog = .ok true) :
    ∃ logs, t.logPressures = some logs ∧ logs.IsVector ∧
      logs.toList.length = t.pressures.toList.length := by
  obtain ⟨logs, taken, agree⟩ := logged_of_hasLog logged
  obtain ⟨shape, equal⟩ := Grid.same_iff.mp agree
  have length := equal.length_eq
  rw [Tensor.toList_map, List.length_map] at length
  refine ⟨logs, taken, ?_, length⟩
  rw [Tensor.IsVector, shape, length]
  exact grids.pressures

theorem VectorGrids.meets_pressurePosition {t : Table α} (grids : t.VectorGrids)
    (logged : t.hasLog = .ok true) {order : Int} (lower : 0 ≤ order)
    (upper : order < t.pressures.toList.length) (pressure : α) :
    Meets (t.pressureDemands pressure) (t.pressurePosition order pressure) := by
  obtain ⟨logs, taken, vector, length⟩ := grids.logs logged
  have nonempty := List.ne_nil_of_length_pos (Int.natCast_pos.mp (Int.lt_of_le_of_lt lower upper))
  have head : t.pressures.toList.head? = some (t.pressures.toList.headD 0) := by
    obtain ⟨first, rest, grid⟩ := List.exists_cons_of_ne_nil nonempty
    rw [grid]
    rfl
  have last : t.pressures.toList.getLast? = some (t.pressures.toList.getLastD 0) := by
    rw [List.getLastD_eq_getLast?, List.getLast?_eq_getLast_of_ne_nil nonempty, Option.getD_some]
  rw [pressurePosition, grids.pressures.points, ok_bind, Grid.extendedRange_eq nonempty, ok_bind,
    head, last]
  refine .cons ?_ fun inside => .single ?_ ?_
  · intro outside
    have range : (Grid.covered t.pressures.toList).contains pressure = false := outside
    simp only [range, grids.pressures.hasRows]
    rfl
  · intro fails
    have range : (Grid.covered t.pressures.toList).contains pressure = true := inside
    have low : pressure ≤ 0 := by simpa using fails
    simp only [range, low, ↓reduceIte]
    rfl
  · intro holds
    have range : (Grid.covered t.pressures.toList).contains pressure = true := inside
    have high : ¬ pressure ≤ 0 := by simpa using holds
    obtain ⟨p, found, _⟩ := Grid.exists_position (Scalar.log pressure) "pressure" lower
      (length ▸ upper)
    simp only [range, high, ↓reduceIte, taken, orFail_some, ok_bind,
      Grid.positionIn_of_isVector vector]
    exact ⟨p, found⟩

/-- The levels that take part follow each other and lie in the table. -/
theorem VectorGrids.levels_eq_range' {t : Table α} (grids : t.VectorGrids)
    (logged : t.hasLog = .ok true) {order : Int} (lower : 0 ≤ order)
    (upper : order < t.pressures.toList.length) (pressure : α) :
    ∃ first, first + (order.toNat + 1) ≤ t.pressures.toList.length ∧
      t.levels order pressure = List.range' first (order.toNat + 1) := by
  obtain ⟨logs, taken, _, length⟩ := grids.logs logged
  have nonempty : logs.toList ≠ [] := by
    intro empty
    rw [empty, List.length_nil] at length
    omega
  obtain ⟨first, inside, points⟩ := Grid.stencil_eq_range' (Scalar.log pressure) nonempty
    (show order.toNat + 1 ≤ logs.toList.length by omega)
  refine ⟨first, length ▸ inside, ?_⟩
  rw [levels, taken]
  exact points

theorem VectorGrids.indices_pressurePosition {t : Table α} (grids : t.VectorGrids)
    (logged : t.hasLog = .ok true) {order : Int} (lower : 0 ≤ order)
    (upper : order < t.pressures.toList.length) {pressure : α} {p : Position α}
    (found : t.pressurePosition order pressure = .ok p) : p.indices = t.levels order pressure := by
  obtain ⟨logs, taken, vector, length⟩ := grids.logs logged
  obtain ⟨logs', taken', position⟩ := pressurePosition_eq_ok found
  rw [taken, Option.some.injEq] at taken'
  rw [← taken', Grid.positionIn_of_isVector vector] at position
  obtain ⟨p', position', points⟩ := Grid.exists_position (Scalar.log pressure) "pressure" lower
    (length ▸ upper)
  rw [position, Except.ok.injEq] at position'
  rw [position', points, levels, taken]

/-- A value is found if all nodes are in the block of the species and in the table. -/
theorem exists_levelValue {t : Table α} {temperatures expanded stored pressures : Nat}
    (shape : t.coefficients.shape = [temperatures, expanded, stored, pressures])
    {p : LevelPosition α} {level f : Nat} {isNonlinear : Bool} {b : Block}
    (inside : level < pressures) (known : f < stored) (some : 0 < temperatures)
    (warm : ∀ q, p.temperature = .some q → ∀ a ∈ q.indices, a < temperatures)
    (humid : isNonlinear = true → ∃ q, p.humidity = .some q ∧ ∀ e ∈ q.indices, e < b.length)
    (single : isNonlinear = false → 0 < b.length) (fitting : b.stop ≤ expanded) :
    ∃ y, t.levelValue p level f isNonlinear b = .ok y := by
  have read (a e : Nat) (temperature : a < temperatures) (place : e < b.length) :
      ∃ y, t.coefficients.valueAt [Int.ofNat a, Int.ofNat (b.offset + e), Int.ofNat f,
        Int.ofNat level] = .ok y := by
    have stop : b.offset + e < expanded := by
      rw [Block.stop] at fitting
      omega
    obtain ⟨y, here⟩ : ∃ y, t.coefficients.get? [a, b.offset + e, f, level] = .some y :=
      Tensor.get?_eq_some_of_within (by simp [shape, temperature, stop, known, inside])
    exact ⟨y, (read_eq_ok (by rw [shape]; rfl)).mpr here⟩
  have inBlock (a e : Nat) (temperature : a < temperatures) (place : e < b.length) :
      ∃ y, (if e < b.length then t.coefficients.valueAt [Int.ofNat a, Int.ofNat (b.offset + e),
        Int.ofNat f, Int.ofNat level] else fail .outOfBounds) = .ok y := by
    rw [if_pos place]
    exact read a e temperature place
  obtain ⟨tp, hp⟩ := p
  cases isNonlinear with
  | false =>
      cases tp with
      | none => exact read 0 0 some (single rfl)
      | some q =>
          obtain ⟨ys, values⟩ := exists_mapM fun a member =>
            read a 0 (warm q rfl a member) (single rfl)
          exact ⟨_, bind_eq_ok.mpr ⟨ys, values, rfl⟩⟩
  | true =>
      obtain ⟨r, rfl, places⟩ := humid rfl
      cases tp with
      | none =>
          obtain ⟨ys, values⟩ := exists_mapM fun e member => inBlock 0 e some (places e member)
          exact ⟨_, bind_eq_ok.mpr ⟨ys, values, rfl⟩⟩
      | some q =>
          obtain ⟨ys, values⟩ := exists_mapM fun a member => exists_mapM fun e node =>
            inBlock a e (warm q rfl a member) (places e node)
          exact ⟨_, bind_eq_ok.mpr ⟨ys, values, rfl⟩⟩

/-- A position in temperature lies on the axis. -/
theorem VectorGrids.temperature_inside {t : Table α} (grids : t.VectorGrids) {order : Int}
    {air : Air α} {level : Nat} {axis : Option (Tensor α × Bounds α)} {present : Bool}
    (axes : perturbations t.temperaturePerturbations present = .ok axis)
    {found : Option (Position α)}
    (placed : t.temperaturePosition order air level axis = .ok found) :
    ∀ q, found = some q → ∀ a ∈ q.indices, a < t.temperaturePerturbations.toList.length := by
  rintro q rfl a member
  obtain ⟨_, rfl⟩ | ⟨_, range, _, rfl⟩ := perturbations_eq_ok.mp axes
  · cases placed
  · obtain ⟨_, _, _, p, position, same⟩ := temperaturePosition_eq_ok.mp placed
    rw [Option.some.injEq] at same
    rw [Grid.positionIn_of_isVector grids.temperatures] at position
    exact Grid.lt_of_mem_indices position (same ▸ member)

/-- With nonlinear species there is a position in humidity, and it lies on the axis. -/
theorem VectorGrids.humidity_inside {t : Table α} (grids : t.VectorGrids) {order h : Int}
    {air : Air α} {level : Nat} {axis : Option (Tensor α × Bounds α)}
    (axes : perturbations t.humidityPerturbations (!t.nonlinear.isEmpty) = .ok axis)
    {found : Option (Position α)} (placed : t.humidityPosition order h air level axis = .ok found)
    (some : t.nonlinear ≠ []) :
    ∃ q, found = .some q ∧ ∀ e ∈ q.indices, e < t.humidityPerturbations.toList.length := by
  obtain ⟨absent, _⟩ | ⟨_, range, _, rfl⟩ := perturbations_eq_ok.mp axes
  · exact absurd (by simpa using absent) some
  · obtain ⟨_, _, _, p, _, _, position, rfl⟩ := humidityPosition_eq_ok.mp placed
    rw [Grid.positionIn_of_isVector grids.humidities] at position
    exact ⟨p, rfl, fun e member => Grid.lt_of_mem_indices position member⟩

/-- With a humidity axis the fraction is in its range, and has a position, or is refused. -/
theorem humidityPosition_eq {t : Table α} {order species : Int} {air : Air α} {level : Nat}
    {grid : Tensor α} {range : Bounds α} {reference vmr : α}
    (entry : t.referenceVmr.entry [species, Int.ofNat level] = .ok ⟨reference, false⟩)
    (amount : air.vmr species = .ok vmr) :
    t.humidityPosition order species air level (some (grid, range)) =
      let fraction := if 0 < reference then some (vmr / reference) else Scalar.infinity?
      let outside := refuse (.humidityRange fraction range species vmr air.pressure reference)
      match fraction with
      | some x =>
        if range.contains x then do
          return some (← Grid.positionIn grid x order "humidity perturbation")
        else outside
      | none => outside := by
  rw [humidityPosition, entry, ok_bind]
  by_cases positive : 0 < reference
  · simp only [positive, ↓reduceIte, amount]
    rfl
  · simp only [positive, ↓reduceIte, amount]
    rfl

namespace Fitting

variable {t : Table α} (fits : t.Fitting) (grids : t.VectorGrids)
include fits

theorem exists_temperature {level : Nat} (inside : level < t.pressures.toList.length) :
    ∃ x, t.referenceTemperature.get? [level] = some x :=
  Tensor.get?_eq_some_of_within (by simpa [fits.referenceTemperature] using inside)

theorem exists_vmr {species level : Nat} (known : species < t.species.length)
    (inside : level < t.pressures.toList.length) :
    ∃ x, t.referenceVmr.get? [species, level] = some x :=
  Tensor.get?_eq_some_of_within (by simpa [fits.referenceVmr] using ⟨known, inside⟩)

include grids

/-- The temperature of a level that exists can only be out of range. -/
theorem meets_temperaturePosition {order : Int} (lower : 0 ≤ order)
    (upper : t.temperaturePerturbations.toList = [] ∨
      order < t.temperaturePerturbations.toList.length)
    {axis : Option (Tensor α × Bounds α)} (present : perturbations t.temperaturePerturbations
      (t.temperaturePerturbations.toList.length != 0) = .ok axis) (air : Air α) {level : Nat}
    (inside : level < t.pressures.toList.length) :
    Meets (t.temperatureDemands air level) (t.temperaturePosition order air level axis) := by
  by_cases absent : t.temperaturePerturbations.toList = []
  · simp only [absent, List.length_nil, bne_self_eq_false, perturbations, Bool.false_eq_true,
      ↓reduceIte, Except.ok.injEq] at present
    rw [temperatureDemands, absent, ← present]
    exact .ok none
  · obtain ⟨gone, _⟩ | ⟨_, range, covers, rfl⟩ := perturbations_eq_ok.mp present
    · exact absurd (by simpa using gone) absent
    · rw [grids.temperatures.eq_ofList, Grid.rangeOf_ofList, Grid.extendedRange_eq absent,
        Except.ok.injEq] at covers
      obtain ⟨reference, here⟩ := fits.exists_temperature inside
      have entry : t.referenceTemperature.entry [Int.ofNat level] = .ok ⟨reference, false⟩ :=
        (Tensor.entry_eq_ok (p := [level]) (by rw [fits.referenceTemperature]; rfl)).mpr
          ⟨reference, here, rfl⟩
      obtain ⟨p, position, _⟩ := Grid.exists_position (air.temperature - reference)
        "temperature perturbation" lower (upper.resolve_left absent)
      subst covers
      rw [temperatureDemands, if_neg (by simpa using absent), here, Option.getD_some,
        temperaturePosition, entry, ok_bind]
      refine .single ?_ ?_
      · intro outside
        simp only at outside
        simp only [outside]
        rfl
      · intro within
        simp only at within
        simp only [within, ↓reduceIte, Grid.positionIn_of_isVector grids.temperatures, position]
        exact ⟨_, rfl⟩

/-- The humidity at a level that exists can only be out of range. -/
theorem meets_humidityPosition {order : Int} (lower : 0 ≤ order)
    (upper : t.humidityPerturbations.toList = [] ∨ order < t.humidityPerturbations.toList.length)
    {axis : Option (Tensor α × Bounds α)}
    (present : perturbations t.humidityPerturbations (!t.nonlinear.isEmpty) = .ok axis)
    {air : Air α} (complete : air.vmrs.length = t.species.length) {h : Int} {species : Nat}
    (existing : t.nonlinear ≠ [] → h = Int.ofNat species ∧ species < t.species.length)
    {level : Nat} (inside : level < t.pressures.toList.length) :
    Meets (t.humidityDemands species air level)
      (t.humidityPosition order h air level axis) := by
  by_cases absent : t.nonlinear = []
  · simp only [absent, List.isEmpty_nil, Bool.not_true, perturbations, Bool.false_eq_true,
      ↓reduceIte, Except.ok.injEq] at present
    rw [humidityDemands, absent, ← present]
    exact .ok none
  · obtain ⟨gone, _⟩ | ⟨_, range, covers, rfl⟩ := perturbations_eq_ok.mp present
    · exact absurd (by simpa using gone) absent
    · have nonempty : t.humidityPerturbations.toList ≠ [] :=
        fun empty => absent (fits.perturbed.mp empty)
      obtain ⟨rfl, bound⟩ := existing absent
      rw [grids.humidities.eq_ofList, Grid.rangeOf_ofList, Grid.extendedRange_eq nonempty,
        Except.ok.injEq] at covers
      obtain ⟨reference, here⟩ := fits.exists_vmr bound inside
      have entry : t.referenceVmr.entry [Int.ofNat species, Int.ofNat level] =
          .ok ⟨reference, false⟩ :=
        (Tensor.entry_eq_ok (p := [species, level]) (by rw [fits.referenceVmr]; rfl)).mpr
          ⟨reference, here, rfl⟩
      have amount : air.vmr (Int.ofNat species) = .ok (air.vmrs.getD species 0) := by
        rw [Air.vmr_ofNat, orFail_eq_ok, List.getD_eq_getElem?_getD,
          List.getElem?_eq_getElem (complete ▸ bound), Option.getD_some]
      subst covers
      rw [humidityDemands, if_neg (by simpa using absent), here, Option.getD_some,
        humidityPosition_eq entry amount]
      generalize (if 0 < reference then some (air.vmrs.getD species 0 / reference)
        else Scalar.infinity?) = f
      refine .single ?_ ?_
      · intro outside
        cases f with
        | none => rfl
        | some x =>
            simp only [Option.any_some] at outside
            simp only [outside]
            rfl
      · intro within
        cases f with
        | none => simp at within
        | some x =>
            obtain ⟨p, position, _⟩ := Grid.exists_position x "humidity perturbation" lower
              (upper.resolve_left nonempty)
            simp only [Option.any_some] at within
            simp only [within, ↓reduceIte, Grid.positionIn_of_isVector grids.humidities, position]
            exact ⟨_, rfl⟩

/-- At positions within the axes of the table a level has its columns. -/
theorem exists_columns {p : LevelPosition α} {level first count : Nat}
    (inside : level < t.pressures.toList.length)
    (known : first + count ≤ t.frequencies.toList.length)
    (warm : ∀ q, p.temperature = some q →
      ∀ a ∈ q.indices, a < t.temperaturePerturbations.toList.length)
    (humid : t.nonlinear ≠ [] → ∃ q, p.humidity = some q ∧
      ∀ e ∈ q.indices, e < t.humidityPerturbations.toList.length) :
    ∃ columns, (t.flags.zip t.blocks).zipIdx.mapM
      (fun s => t.levelColumn p level first count s.2 s.1.1 s.1.2) = .ok columns := by
  apply exists_mapM
  rintro ⟨⟨isNonlinear, b⟩, i⟩ member
  obtain ⟨k, index⟩ := List.getElem?_of_mem member
  obtain ⟨flag, block, same⟩ := getElem?_zipIdx_zip.mp index
  simp only at flag block same
  subst same
  have existing := lt_of_flag flag
  have stop : b.stop ≤ extent t.humidityPerturbations.toList.length t.flags := by
    have bound := stop_le_extent block
    omega
  have length := length_block flag block
  have marked (nonlinear : isNonlinear = true) : ∃ q, p.humidity = some q ∧
      ∀ e ∈ q.indices, e < b.length := by
    subst nonlinear
    rw [length]
    exact humid (nonlinear_ne_nil (List.mem_of_getElem? flag))
  have fitting (linear : isNonlinear = false) :
      b.offset < extent t.humidityPerturbations.toList.length t.flags := by
    subst linear
    exact offset_lt_extent flag block
  obtain ⟨column, values⟩ : ∃ column, (List.range' first count).mapM
      (fun f => t.levelValue p level f isNonlinear b) = .ok column := by
    apply exists_mapM
    intro f frequency
    rw [List.mem_range'_1] at frequency
    refine exists_levelValue (fits.shape_coefficients grids) inside (by omega) (by omega) ?_ marked
      ?_ stop
    · intro q found a node
      have bound := warm q found a node
      omega
    · rintro rfl
      simp [length]
  exact ⟨column, (levelColumn_eq_ok (fits.shape_coefficients grids) (by omega) known existing
    (fun nonlinear => by obtain ⟨q, found, _⟩ := marked nonlinear; rw [found]; rfl)
    fitting).mpr values⟩

/-- At a level that exists only the ranges of temperature and humidity can be left. -/
theorem meets_sampleLevel {o : Orders} (ordered : t.checkOrders o = .ok ())
    {temperatures humidities : Option (Tensor α × Bounds α)}
    (warm : perturbations t.temperaturePerturbations
      (t.temperaturePerturbations.toList.length != 0) = .ok temperatures)
    (humid : perturbations t.humidityPerturbations (!t.nonlinear.isEmpty) = .ok humidities)
    {air : Air α} (complete : air.vmrs.length = t.species.length) {h : Int} {species : Nat}
    (existing : t.nonlinear ≠ [] → h = Int.ofNat species ∧ species < t.species.length)
    {first count level : Nat} (known : first + count ≤ t.frequencies.toList.length)
    (inside : level < t.pressures.toList.length) :
    Meets (t.temperatureDemands air level ++ t.humidityDemands species air level)
      (Extractor.sampleLevel ⟨o, h, ⟨t.flags, t.blocks⟩⟩ t air first count temperatures humidities
        level) := by
  obtain ⟨⟨_, offsets, fractions⟩, _, wet, hot⟩ := grids.checkOrders_eq_ok.mp ordered
  refine .bind (fits.meets_temperaturePosition grids offsets hot warm air inside)
    fun tp placed => ?_
  refine .bind_ok (fits.meets_humidityPosition grids fractions wet humid complete existing inside)
    fun hp placed' => ?_
  have exists_level : t.checkLevel level = .ok () := by
    simp [checkLevel, fits.shape_coefficients grids, inside]
  rw [exists_level, ok_bind]
  exact fits.exists_columns grids inside known (grids.temperature_inside warm placed)
    (grids.humidity_inside humid placed')

theorem prepare_eq_ok {o : Orders} {molecule : String} {x : Extractor}
    (prepared : t.prepare o molecule = .ok x) : t.checkOrders o = .ok () ∧
      ∃ h, t.humiditySpecies molecule = .ok h ∧ x = ⟨o, h, ⟨t.flags, t.blocks⟩⟩ := by
  simp only [prepare, grids.layout_eq fits.existing, bind_eq_ok, pure_eq_ok] at prepared
  obtain ⟨h, reference, _, _, _, _, _, ordered, _, layout, rfl⟩ := prepared
  exact ⟨ordered, h, reference, by rw [Except.ok.inj layout]⟩

end Fitting

theorem exists_perturbations {a : Tensor α} (vector : a.IsVector) {present : Bool}
    (some : present = true → a.toList ≠ []) : ∃ axis, perturbations a present = .ok axis := by
  cases present with
  | false => exact ⟨none, rfl⟩
  | true =>
      have range : Grid.rangeOf a = .ok (Grid.covered a.toList) := by
        rw [vector.eq_ofList, Grid.rangeOf_ofList, Tensor.toList_ofList]
        exact Grid.extendedRange_eq (some rfl)
      exact ⟨_, perturbations_eq_ok.mpr (.inr ⟨rfl, _, range, rfl⟩)⟩

theorem meets_numberDensity (air : Air α) :
    Meets [densityDemand air] (Gas.numberDensity air.pressure air.temperature) := by
  rw [Gas.numberDensity]
  refine .single ?_ ?_
  · intro fails
    rw [densityDemand, Bool.not_eq_false'] at fails
    rw [if_pos fails]
    rfl
  · intro holds
    rw [densityDemand, Bool.not_eq_true'] at holds
    exact ⟨_, if_neg (by simp [holds])⟩

namespace Fitting

variable {t : Table α} (fits : t.Fitting) (grids : t.VectorGrids) (logged : t.hasLog = .ok true)
include fits grids logged

theorem meets_prepare (o : Orders) (molecule : String) :
    Meets ([t.referenceDemand molecule] ++ t.orderDemands o) (t.prepare o molecule) := by
  have shape : t.checkShape = .ok () := grids.checkShape_eq_ok.mpr fits.coefficients
  have current : t.checkLog = .ok () := checkLog_eq_ok.mpr logged
  refine .bind (t.meets_humiditySpecies molecule) fun h _ => ?_
  rw [shape, ok_bind, current, ok_bind]
  refine .bind_ok (grids.meets_checkOrders o) fun _ _ => ?_
  rw [grids.layout_eq fits.existing]
  exact ⟨_, rfl⟩

theorem meets_sample {o : Orders} (ordered : t.checkOrders o = .ok ()) {h : Int} {species : Nat}
    (existing : t.nonlinear ≠ [] → h = Int.ofNat species ∧ species < t.species.length)
    (air : Air α) (frequency : Int) :
    Meets ([t.countDemand air] ++ ([t.frequencyDemand frequency] ++
        (t.pressureDemands air.pressure ++ (t.levels o.pressure air.pressure).flatMap fun level =>
          t.temperatureDemands air level ++ t.humidityDemands species air level)))
      (Extractor.sample ⟨o, h, ⟨t.flags, t.blocks⟩⟩ t air frequency) := by
  obtain ⟨⟨lower, _, _⟩, upper, _⟩ := grids.checkOrders_eq_ok.mp ordered
  obtain ⟨temperatures, warm⟩ : ∃ axis, perturbations t.temperaturePerturbations
      (t.temperaturePerturbations.toList.length != 0) = .ok axis :=
    exists_perturbations grids.temperatures (by simp)
  obtain ⟨humidities, humid⟩ : ∃ axis,
      perturbations t.humidityPerturbations (!t.nonlinear.isEmpty) = .ok axis :=
    exists_perturbations grids.humidities (by simpa using mt fits.perturbed.mp)
  rw [Extractor.sample, grids.frequencies.length, ok_bind]
  refine .bind (.require rfl _) fun _ counted => ?_
  have complete : air.vmrs.length = t.species.length := by simpa using require_eq_ok.mp counted
  refine .bind (grids.meets_frequencyRange frequency) fun range selected => ?_
  have known := grids.frequencyRange_inside selected
  refine .bind (grids.meets_pressurePosition logged lower upper air.pressure) fun p placed => ?_
  rw [grids.temperatures.length, ok_bind, warm, ok_bind, humid, ok_bind,
    grids.indices_pressurePosition logged lower upper placed]
  refine .bind_ok (.mapM fun level member => ?_) fun levels _ => ⟨_, rfl⟩
  obtain ⟨first, within, points⟩ := grids.levels_eq_range' logged lower upper air.pressure
  rw [points, List.mem_range'_1] at member
  exact fits.meets_sampleLevel grids ordered warm humid complete existing known (by omega)

/-- An extraction does what its demands ask for. -/
theorem meets_extract (o : Orders) (molecule : String) (air : Air α) (frequency : Int) :
    Meets (t.demands o molecule air frequency) (t.extract o molecule air frequency) := by
  have listed : t.demands o molecule air frequency =
      ([t.referenceDemand molecule] ++ t.orderDemands o) ++ (([t.countDemand air] ++
        ([t.frequencyDemand frequency] ++ (t.pressureDemands air.pressure ++
          (t.levels o.pressure air.pressure).flatMap fun level => t.temperatureDemands air level ++
            t.humidityDemands ((t.humidityIndex? molecule).getD 0) air level))) ++
        [densityDemand air]) := by
    simp [demands]
  rw [listed]
  refine .bind (fits.meets_prepare grids logged o molecule) fun x prepared => ?_
  obtain ⟨ordered, h, reference, rfl⟩ := fits.prepare_eq_ok grids prepared
  have existing (some : t.nonlinear ≠ []) :
      h = Int.ofNat ((t.humidityIndex? molecule).getD 0) ∧
        (t.humidityIndex? molecule).getD 0 < t.species.length := by
    obtain ⟨i, index, rfl⟩ := (humiditySpecies_eq_ok some).mp reference
    rw [index]
    exact ⟨rfl, lt_of_humidityIndex? index⟩
  refine .bind (fits.meets_sample grids logged ordered existing air frequency) fun s _ => ?_
  exact .bind_ok (meets_numberDensity air) fun density _ => ⟨_, rfl⟩

end Fitting

/-- An extraction from a consistent table whose logarithms are up to date succeeds exactly if all
its demands are met, and has then the entries that were asked for; otherwise it fails with the
first demand that is not met. -/
theorem VectorGrids.extract_outcome {t : Table α} (grids : t.VectorGrids)
    (valid : t.validate = .ok ()) (logged : t.hasLog = .ok true) (o : Orders) (molecule : String)
    (air : Air α) (frequency : Int) :
    ((∃ result, t.extract o molecule air frequency = .ok result) ↔
      ∀ d ∈ t.demands o molecule air frequency, d.holds = true) ∧
    (∀ result, t.extract o molecule air frequency = .ok result → result.shape =
      [if frequency < 0 then t.frequencies.toList.length else 1, t.species.length]) ∧
    (∀ d, unmet? (t.demands o molecule air frequency) = some d →
      t.extract o molecule air frequency = .error d.failure) ∧
    (0 ≤ o.pressure → o.pressure < t.pressures.toList.length → ∃ first,
      first + (o.pressure.toNat + 1) ≤ t.pressures.toList.length ∧
      t.levels o.pressure air.pressure = List.range' first (o.pressure.toNat + 1)) := by
  have fits := (grids.validate_eq_ok_iff.mp valid).toFitting
  have meets := fits.meets_extract grids logged o molecule air frequency
  refine ⟨meets.succeeds_iff, ?_, fun d found => meets.fails_with found,
    fun lower upper => grids.levels_eq_range' logged lower upper air.pressure⟩
  intro result extracted
  obtain ⟨c, rfl⟩ := (fits.extract_eq_ok grids).mp extracted
  rw [Course.result, Tensor.shape_ofFn]
  obtain ⟨all, _, count⟩ | ⟨one, _, count⟩ := grids.frequencyRange_eq_ok.mp c.selected
  · rw [if_pos all, count]
  · rw [if_neg (by omega), count]

/-- At 251 K an extraction from the sample succeeds; at 231 K it fails, at the second of the two
levels that take part. -/
theorem extract_outcome_sample : ∃ result r, sample.VectorGrids ∧ sample.validate = .ok () ∧
    sample.hasLog = .ok true ∧ sample.extract ⟨1, 1, 1⟩ "H2O" sampleAir (-1) = .ok result ∧
    result.shape = [3, 3] ∧
    sample.extract ⟨1, 1, 1⟩ "H2O" { sampleAir with temperature := 231 } (-1) =
      .error (.refused r) ∧ r.kind = .temperatureRange := by
  have valid : sample.validate = .ok () := toOption_eq_some.mp (by decide +kernel)
  have logged : sample.hasLog = .ok true := toOption_eq_some.mp (by decide +kernel)
  have met : ∀ d ∈ sample.demands ⟨1, 1, 1⟩ "H2O" sampleAir (-1), d.holds = true := by
    decide +kernel
  have cold : (unmet? (sample.demands ⟨1, 1, 1⟩ "H2O" { sampleAir with temperature := 231 }
      (-1))).any (fun d => match d.failure with
        | .refused r => r.kind == .temperatureRange
        | .fault _ => false) = true := by
    decide +kernel
  obtain ⟨succeeds, shape, _⟩ :=
    vectorGrids_sample.extract_outcome valid logged ⟨1, 1, 1⟩ "H2O" sampleAir (-1)
  obtain ⟨_, _, fails, _⟩ := vectorGrids_sample.extract_outcome valid logged ⟨1, 1, 1⟩ "H2O"
    { sampleAir with temperature := 231 } (-1)
  obtain ⟨result, extracted⟩ := succeeds.mpr met
  cases found : unmet? (sample.demands ⟨1, 1, 1⟩ "H2O" { sampleAir with temperature := 231 }
      (-1)) with
  | none =>
      rw [found] at cold
      cases cold
  | some d =>
      rw [found, Option.any_some] at cold
      have failed := fails d found
      split at cold
      · next r refused =>
          rw [refused] at failed
          exact ⟨result, r, vectorGrids_sample, valid, logged, extracted, shape result extracted,
            failed, beq_iff_eq.mp cold⟩
      · cases cold

end Table
end Absorption
