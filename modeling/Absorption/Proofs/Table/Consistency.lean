import Mathlib.Data.List.Chain
import Absorption.Proofs.Numbers
import Absorption.Proofs.Tensor

set_option autoImplicit false

/-!
What the checks of a table establish when its grids have one axis each (`validate_eq_ok_iff`).
-/

namespace Absorption

theorem Grid.chained_eq_true {α : Type} {r : α → α → Bool} {xs : List α} :
    Grid.chained r xs = true ↔ xs.IsChain (fun a b => r a b = true) := by
  induction xs with
  | nil => simp [chained]
  | cons a xs ih =>
      cases xs with
      | nil => simp [chained]
      | cons b xs => rw [chained, Bool.and_eq_true, ih, List.isChain_cons_cons]

theorem Grid.chained_lt_iff {xs : List Int} :
    Grid.chained (fun i j => decide (i < j)) xs = true ↔ xs.Pairwise (· < ·) := by
  rw [chained_eq_true, ← List.isChain_iff_pairwise]
  simp

theorem Grid.increases_of_isVector {α : Type} [Scalar α] {t : Tensor α} (h : t.IsVector) :
    Grid.increases t = .ok (Grid.isIncreasing t.toList) := by
  simp [increases, h.lines, pure, Except.pure]

theorem Grid.decreases_of_isVector {α : Type} [Scalar α] {t : Tensor α} (h : t.IsVector) :
    Grid.decreases t = .ok (Grid.isDecreasing t.toList) := by
  simp [decreases, h.lines, pure, Except.pure]

/-- Neighbours that differ by a positive amount make an increasing list. -/
theorem Grid.isIncreasing_iff {α : Type} [Scalar α] [OrderedScalar α] {xs : List α} :
    Grid.isIncreasing xs = true ↔ xs.Pairwise (· < ·) := by
  have : IsTrans α (· < ·) := ⟨fun _ _ _ => OrderedScalar.lt_trans⟩
  rw [Grid.isIncreasing, Grid.chained_eq_true, ← List.isChain_iff_pairwise]
  simp [OrderedScalar.zero_lt_sub]

theorem Grid.isDecreasing_iff {α : Type} [Scalar α] [OrderedScalar α] {xs : List α} :
    Grid.isDecreasing xs = true ↔ xs.Pairwise (fun a b => b < a) := by
  have : IsTrans α (fun a b => b < a) :=
    ⟨fun _ _ _ first second => OrderedScalar.lt_trans second first⟩
  rw [Grid.isDecreasing, Grid.chained_eq_true, ← List.isChain_iff_pairwise]
  simp [OrderedScalar.sub_lt_zero]

theorem Grid.nodup_of_isIncreasing {α : Type} [Scalar α] [OrderedScalar α] {xs : List α}
    (increasing : Grid.isIncreasing xs = true) : xs.Nodup := by
  refine (Grid.isIncreasing_iff.mp increasing).imp ?_
  rintro a _ below rfl
  exact OrderedScalar.lt_irrefl a below

namespace Table

variable {α : Type}

/-- The four grids have one axis each. -/
structure VectorGrids (t : Table α) : Prop where
  frequencies : t.frequencies.IsVector
  pressures : t.pressures.IsVector
  temperatures : t.temperaturePerturbations.IsVector
  humidities : t.humidityPerturbations.IsVector

/-- All that the parts of a consistent table satisfy, the order of the frequencies apart. -/
structure Fitting [Scalar α] (t : Table α) : Prop where
  species : t.species ≠ []
  ascending : t.nonlinear.Pairwise (· < ·)
  existing : ∀ i ∈ t.nonlinear, 0 ≤ i ∧ i < t.species.length
  pressures : Grid.isDecreasing t.pressures.toList = true
  temperatures : Grid.isIncreasing t.temperaturePerturbations.toList = true
  humidities : Grid.isIncreasing t.humidityPerturbations.toList = true
  referenceVmr : t.referenceVmr.shape = [t.species.length, t.pressures.toList.length]
  referenceTemperature : t.referenceTemperature.shape = [t.pressures.toList.length]
  perturbed : t.humidityPerturbations.toList = [] ↔ t.nonlinear = []
  coefficients : t.expectedShape = .ok (t.coefficients.shape.map Int.ofNat)

/-- The parts of the table fit together. -/
structure Consistent [Scalar α] (t : Table α) : Prop extends Fitting t where
  frequencies : Grid.isIncreasing t.frequencies.toList = true

theorem strayIndex?_eq_none {species : Nat} {nonlinear : List Int} :
    strayIndex? species nonlinear = none ↔ ∀ i ∈ nonlinear, 0 ≤ i ∧ i < species := by
  simp only [strayIndex?, List.find?_eq_none, Bool.not_eq_true', Bool.not_eq_false,
    Bool.and_eq_true, decide_eq_true_eq]
  constructor
  · intro inside i member
    obtain ⟨k, bound, rfl⟩ := List.getElem_of_mem member
    exact inside (nonlinear[k], k) (List.mk_mem_zipIdx_iff_getElem?.mpr (by simp [bound]))
  · intro inside i member
    exact inside i.1 (List.fst_mem_of_mem_zipIdx member)

theorem checkNonlinear_eq_ok {t : Table α} {u : Unit} :
    t.checkNonlinear = .ok u ↔
      t.nonlinear.Pairwise (· < ·) ∧ ∀ i ∈ t.nonlinear, 0 ≤ i ∧ i < t.species.length := by
  simp only [checkNonlinear, bind_eq_ok, require_eq_ok, decide_eq_true_eq]
  cases stray : strayIndex? t.species.length t.nonlinear with
  | none =>
      rw [strayIndex?_eq_none] at stray
      simp only [require_eq_ok, Grid.chained_lt_iff]
      constructor
      · intro checked
        obtain ⟨_, _, ascending⟩ := checked
        exact ⟨ascending, stray⟩
      · intro both
        obtain ⟨ascending, _⟩ := both
        exact ⟨(), ascending.imp (fun below => Int.ne_of_lt below), ascending⟩
  | some index =>
      have absent : ¬ ∀ i ∈ t.nonlinear, 0 ≤ i ∧ i < t.species.length := by
        rw [← strayIndex?_eq_none, stray]
        simp
      simp [absent]

theorem expectedShape_eq_ok {t : Table α} {h n f p : Nat}
    (humidities : t.humidityPerturbations.length = .ok h)
    (temperatures : t.temperaturePerturbations.length = .ok n)
    (frequencies : t.frequencies.length = .ok f) (pressures : t.pressures.length = .ok p) :
    t.expectedShape = .ok
      [max (n : Int) 1, t.species.length + t.nonlinear.length * ((h : Int) - 1), f, p] := by
  rw [expectedShape, humidities, temperatures, frequencies, pressures]
  rfl

theorem checkShape_eq_ok {t : Table α} {n : Nat} {u : Unit}
    (temperatures : t.temperaturePerturbations.length = .ok n) :
    t.checkShape = .ok u ↔ t.expectedShape = .ok (t.coefficients.shape.map Int.ofNat) := by
  simp only [checkShape, temperatures, ok_bind, bind_eq_ok, require_eq_ok, beq_iff_eq,
    exists_eq_right']

theorem checkProfiles_eq_ok [Scalar α] {t : Table α} {h pressures : Nat} {u : Unit}
    (humidities : t.humidityPerturbations.length = .ok h) :
    t.checkProfiles pressures = .ok u ↔
      t.referenceVmr.shape = [t.species.length, pressures] ∧
      t.referenceTemperature.shape = [pressures] ∧ (h = 0 ↔ t.nonlinear = []) := by
  simp only [checkProfiles, humidities, bind_eq_ok, require_eq_ok, beq_iff_eq,
    Except.ok.injEq, exists_eq_left', Bool.not_eq_true', Bool.and_eq_false_iff, bne_eq_false_iff_eq,
    beq_eq_false_iff_ne, List.isEmpty_eq_false_iff, ne_eq, Bool.not_eq_false', List.isEmpty_iff]
  constructor
  · intro checked
    obtain ⟨_, vmr, _, temperature, _, absent, present⟩ := checked
    refine ⟨vmr, temperature, ?_, ?_⟩
    · intro none
      exact present.resolve_right (fun some => some none)
    · intro none
      exact absent.resolve_left (fun some => some none)
  · intro fits
    obtain ⟨vmr, temperature, perturbed⟩ := fits
    refine ⟨(), vmr, (), temperature, (), ?_, ?_⟩
    · by_cases none : t.nonlinear = []
      · exact .inr (perturbed.mpr none)
      · exact .inl none
    · by_cases none : t.nonlinear = []
      · exact .inl none
      · exact .inr (fun some => none (perturbed.mp some))

namespace VectorGrids

variable {t : Table α} (grids : t.VectorGrids)
include grids

theorem expectedShape_eq : t.expectedShape = .ok
    [max (t.temperaturePerturbations.toList.length : Int) 1,
      t.species.length + t.nonlinear.length * ((t.humidityPerturbations.toList.length : Int) - 1),
      t.frequencies.toList.length, t.pressures.toList.length] :=
  expectedShape_eq_ok grids.humidities.length grids.temperatures.length grids.frequencies.length
    grids.pressures.length

theorem checkShape_eq_ok {u : Unit} :
    t.checkShape = .ok u ↔ t.expectedShape = .ok (t.coefficients.shape.map Int.ofNat) :=
  Table.checkShape_eq_ok grids.temperatures.length

variable [Scalar α]

theorem checkProfiles_eq_ok {u : Unit} :
    t.checkProfiles t.pressures.toList.length = .ok u ↔
      t.referenceVmr.shape = [t.species.length, t.pressures.toList.length] ∧
      t.referenceTemperature.shape = [t.pressures.toList.length] ∧
      (t.humidityPerturbations.toList = [] ↔ t.nonlinear = []) := by
  rw [Table.checkProfiles_eq_ok grids.humidities.length, List.length_eq_zero_iff]

theorem checkGrids_eq : t.checkGrids = (do
    require (Grid.isIncreasing t.frequencies.toList) (.gridOrder .frequency)
    require (Grid.isDecreasing t.pressures.toList) (.gridOrder .pressure)
    require (Grid.isIncreasing t.temperaturePerturbations.toList) (.gridOrder .temperature)
    require (Grid.isIncreasing t.humidityPerturbations.toList) (.gridOrder .humidity)) := by
  simp only [checkGrids, Grid.increases_of_isVector grids.frequencies,
    Grid.decreases_of_isVector grids.pressures, Grid.increases_of_isVector grids.temperatures,
    Grid.increases_of_isVector grids.humidities, ok_bind]

/-- Once all else fits, only the order of the frequencies is left to check. -/
theorem validate_eq_of_fitting (fits : t.Fitting) :
    t.validate = require (Grid.isIncreasing t.frequencies.toList) (.gridOrder .frequency) := by
  have species : (!t.species.isEmpty) = true := by simp [fits.species]
  have nonlinear : t.checkNonlinear = .ok () :=
    checkNonlinear_eq_ok.mpr ⟨fits.ascending, fits.existing⟩
  have profiles : t.checkProfiles t.pressures.toList.length = .ok () :=
    grids.checkProfiles_eq_ok.mpr
      ⟨fits.referenceVmr, fits.referenceTemperature, fits.perturbed⟩
  have shape : t.checkShape = .ok () := grids.checkShape_eq_ok.mpr fits.coefficients
  rw [validate, grids.pressures.length, ok_bind, require_bind species, nonlinear, ok_bind,
    grids.checkGrids_eq]
  cases Grid.isIncreasing t.frequencies.toList with
  | false => rfl
  | true =>
      rw [require_bind rfl, require_bind fits.pressures, require_bind fits.temperatures, require,
        if_pos fits.humidities, ok_bind, profiles, ok_bind, shape]
      rfl

theorem validate_eq_ok_iff {u : Unit} : t.validate = .ok u ↔ t.Consistent := by
  constructor
  · intro valid
    simp only [validate, grids.pressures.length, grids.checkGrids_eq, bind_eq_ok, require_eq_ok,
      Except.ok.injEq, exists_eq_left', grids.checkShape_eq_ok] at valid
    obtain ⟨_, species, _, nonlinear, _, ⟨_, frequencies, _, pressures, _, temperatures,
      humidities⟩, _, profiles, coefficients⟩ := valid
    obtain ⟨ascending, existing⟩ := checkNonlinear_eq_ok.mp nonlinear
    obtain ⟨vmr, temperature, perturbed⟩ := grids.checkProfiles_eq_ok.mp profiles
    exact ⟨⟨by simpa using species, ascending, existing, pressures, temperatures, humidities, vmr,
      temperature, perturbed, coefficients⟩, frequencies⟩
  · intro consistent
    rw [grids.validate_eq_of_fitting consistent.toFitting, require_eq_ok]
    exact consistent.frequencies

end VectorGrids

/-- A table of three species, of which the second is nonlinear. -/
def sample : Table ℚ := initializeLog {
  species := ["O2", "H2O", "N2"]
  nonlinear := [1]
  frequencies := .ofList [100, 200, 300]
  pressures := .ofList [4, 2, 1]
  referenceVmr := .ofFn [3, 3] fun p => match p with
    | [i, _] => if i = 1 then 1 / 100 else 1 / 5
    | _ => 0
  referenceTemperature := .ofList [250, 252, 254]
  temperaturePerturbations := .ofList [-10, 10]
  humidityPerturbations := .ofList [1 / 2, 2]
  coefficients := .ofFn [2, 4, 3, 3] fun p => match p with
    | [a, e, f, l] => 1000 * a + 100 * e + 10 * f + l
    | _ => 0
  logPressures := none }

theorem vectorGrids_sample : sample.VectorGrids := ⟨rfl, rfl, rfl, rfl⟩

end Table
end Absorption
