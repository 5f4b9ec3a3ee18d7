import Absorption.Proofs.Extraction.Kept
import Absorption.Proofs.Extraction.Refusals
import Absorption.Proofs.Table.Selection

set_option autoImplicit false

/-!
Whether an adapted table is ready for extraction. Adaptation takes the logarithms of the pressures,
but these count as up to date only if they equal those that are taken anew, which no logarithm does
that is not a number (`hasLog_initializeLog`). The checks of a table let negative pressures through.
-/

namespace Absorption

variable {α : Type} [Scalar α]

namespace Table

theorem checkLog_of_hasLog {t : Table α} {b : Bool} (found : t.hasLog = .ok b) :
    t.checkLog = require b .notAdapted := by
  rw [checkLog, found, ok_bind]

/-- With logarithms that are not up to date an extraction from a table whose parts fit together is
refused, after the search for the humidity species. -/
theorem Fitting.extract_outdated {t : Table α} (fits : t.Fitting) (grids : t.VectorGrids)
    (outdated : t.hasLog = .ok false) (o : Orders) (molecule : String) (air : Air α)
    (frequency : Int) : t.extract o molecule air frequency =
      (t.humiditySpecies molecule >>= fun _ => refuse .notAdapted) := by
  have shape : t.checkShape = .ok () := grids.checkShape_eq_ok.mpr fits.coefficients
  rw [extract, prepare, checkLog_of_hasLog outdated, shape]
  cases t.humiditySpecies molecule <;> rfl

/-- With logarithms that are up to date an extraction fails for other reasons only. -/
theorem Fitting.extract_ne_notAdapted {t : Table α} (fits : t.Fitting) (grids : t.VectorGrids)
    (logged : t.hasLog = .ok true) (o : Orders) (molecule : String) (air : Air α)
    (frequency : Int) : t.extract o molecule air frequency ≠ refuse .notAdapted := by
  intro refused
  have kind := fits.kind_of_refused grids logged refused
  simp [Refusal.kind, Kind.OfRange] at kind

/-- An adapted table is ready for extraction exactly if no pressure is negative or is not a number,
where just the logarithms of these are not numbers. No extraction from it asks for an adaptation
then, and else all do that find the humidity species. -/
theorem VectorGrids.ready_of_adapt {t n : Table α} (grids : t.VectorGrids) {r : Request α}
    {s : Selection} (adapted : t.adapt r = .ok (n, s))
    (logs : ∀ p : α, Scalar.log p ≤ Scalar.log p ↔ 0 ≤ p) :
    n.pressures = t.pressures ∧
    n.hasLog = .ok (decide (∀ p ∈ n.pressures.toList, 0 ≤ p)) ∧
    ∀ (o : Orders) molecule air frequency,
      ((∀ p ∈ n.pressures.toList, 0 ≤ p) →
        n.extract o molecule air frequency ≠ refuse .notAdapted) ∧
      ((∃ p ∈ n.pressures.toList, ¬ 0 ≤ p) → n.extract o molecule air frequency =
        (n.humiditySpecies molecule >>= fun _ => refuse .notAdapted)) := by
  obtain ⟨chosen, rfl⟩ := grids.chosen_of_adapt adapted
  have fits := chosen.fitting_subset grids
  have ready : (t.subset t.blocks s).hasLog =
      .ok (decide (∀ p ∈ (t.subset t.blocks s).pressures.toList, 0 ≤ p)) := by
    have anew := hasLog_initializeLog (grids.subset s).pressures
    simp only [logs] at anew
    exact anew
  refine ⟨rfl, ready, ?_⟩
  intro o molecule air frequency
  constructor
  · intro positive
    rw [decide_eq_true positive] at ready
    exact fits.extract_ne_notAdapted (grids.subset s) ready o molecule air frequency
  · intro negative
    rw [decide_eq_false (by simpa using negative)] at ready
    exact fits.extract_outdated (grids.subset s) ready o molecule air frequency

end Table

/-- Binary64 numbers with the logarithms of one, two and four. Negative numbers have none. -/
def Charted : Type := Float

namespace Charted

/-- The logarithm of the next of the three numbers, or what is not a number. -/
def log (p : Float) : Float := if 0 ≤ p then Tabled.log p else 0 / 0

instance scalar : Scalar Charted := { (inferInstance : Scalar Float) with log := Charted.log }

/-- Just the numbers that are not negative have a logarithm. -/
theorem log_le_self (p : Charted) : Scalar.log p ≤ Scalar.log p ↔ 0 ≤ p := by
  have read (p : Float) : log p ≤ log p ↔ 0 ≤ p := by
    rw [log]
    split
    · next positive =>
        refine iff_of_true ?_ positive
        rw [Tabled.log]
        split
        · decide +kernel
        · split <;> decide +kernel
    · next negative => exact iff_of_false (by decide +kernel) negative
  exact read p

/-- A table of one linear species on two levels. -/
def levels (pressures : List Float) : Table Charted where
  species := ["O2"]
  nonlinear := []
  frequencies := .ofList [(100 : Float)]
  pressures := .ofList pressures
  referenceVmr := .ofFn [1, 2] fun _ => (0.2 : Float)
  referenceTemperature := .ofFn [2] fun _ => (250 : Float)
  temperaturePerturbations := .ofList []
  humidityPerturbations := .ofList []
  coefficients := .ofFn [1, 1, 1, 2] fun _ => (1 : Float)
  logPressures := none

/-- All that these tables hold. -/
def request : Request Charted := ⟨["O2"], .ofList [(100 : Float)], (1 : Float)⟩

/-- A state of the air between the two levels. -/
def air : Air Charted := ⟨(1.5 : Float), (250 : Float), [(0.2 : Float)]⟩

end Charted

namespace Table

theorem ready_levels : ∃ n s, (Charted.levels [2, 1]).VectorGrids ∧
    (Charted.levels [2, 1]).adapt Charted.request = .ok (n, s) ∧ n.hasLog = .ok true ∧
    n.extract ⟨1, 0, 0⟩ "H2O" Charted.air (-1) ≠ refuse .notAdapted := by
  have grids : (Charted.levels [2, 1]).VectorGrids := ⟨rfl, rfl, rfl, rfl⟩
  have adapts : ((Charted.levels [2, 1]).adapt Charted.request).toOption.isSome = true := by
    decide +kernel
  obtain ⟨⟨n, s⟩, found⟩ := Option.isSome_iff_exists.mp adapts
  have adapted := toOption_eq_some.mp found
  obtain ⟨pressures, ready, extracts⟩ := grids.ready_of_adapt adapted Charted.log_le_self
  have positive : ∀ p ∈ n.pressures.toList, 0 ≤ p := by
    rw [pressures]
    decide +kernel
  rw [decide_eq_true positive] at ready
  exact ⟨n, s, grids, adapted, ready, (extracts _ _ _ _).1 positive⟩

/-- A table with a negative pressure passes its checks and is adapted, and no extraction from the
result is possible. -/
theorem outdated_levels : ∃ n s, (Charted.levels [2, -1]).VectorGrids ∧
    (Charted.levels [2, -1]).validate = .ok () ∧
    (Charted.levels [2, -1]).adapt Charted.request = .ok (n, s) ∧ n.hasLog = .ok false ∧
    n.extract ⟨1, 0, 0⟩ "H2O" Charted.air (-1) = refuse .notAdapted := by
  have grids : (Charted.levels [2, -1]).VectorGrids := ⟨rfl, rfl, rfl, rfl⟩
  have outdated : ((Charted.levels [2, -1]).adapt Charted.request).toOption.bind (fun a =>
      a.1.hasLog.toOption.map fun logged => (logged, a.1.nonlinear.isEmpty)) =
        some (false, true) := by
    decide +kernel
  obtain ⟨⟨n, s⟩, found, outdated⟩ := Option.bind_eq_some_iff.mp outdated
  obtain ⟨logged, old, outdated⟩ := Option.map_eq_some_iff.mp outdated
  rw [Prod.mk.injEq] at outdated
  obtain ⟨rfl, linear⟩ := outdated
  rw [toOption_eq_some] at found old
  obtain ⟨chosen, rfl⟩ := grids.chosen_of_adapt found
  refine ⟨_, s, grids, grids.validate_eq_ok_iff.mpr chosen.consistent, found, old, ?_⟩
  rw [(chosen.fitting_subset grids).extract_outdated (grids.subset s) old, humiditySpecies,
    if_pos linear, ok_bind]

end Table
end Absorption
