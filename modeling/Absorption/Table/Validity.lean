import Absorption.Grid.Order
import Absorption.Table.Basic

set_option autoImplicit false

/-!
When the parts of a table fit together. Of several conditions that do not hold the first in the
order below is reported.
-/

namespace Absorption.Table

variable {α : Type}

/-- A refusal unless a condition holds. -/
def require (condition : Bool) (r : Refusal α) : Outcome α Unit :=
  if condition then .ok () else refuse r

/-- The first index that names no species, with its place among the indices. -/
def strayIndex? (species : Nat) (nonlinear : List Int) : Option (Int × Nat) :=
  nonlinear.zipIdx.find? fun i => !(decide (0 ≤ i.1) && decide (i.1 < species))

/-- The nonlinear species are given once each, exist and come in ascending order. -/
def checkNonlinear (t : Table α) : Outcome α Unit := do
  require (decide t.nonlinear.Nodup) (.duplicateNonlinear t.nonlinear)
  match strayIndex? t.species.length t.nonlinear with
  | some (index, position) => refuse (.nonlinearOutOfRange position index t.species.length)
  | none =>
    require (Grid.chained (fun i j => decide (i < j)) t.nonlinear) (.nonlinearOrder t.nonlinear)

/-- The coefficients have the shape that the grids ask for. -/
def checkShape (t : Table α) : Outcome α Unit := do
  let expected ← t.expectedShape
  let temperatures ← t.temperaturePerturbations.length
  require (t.coefficients.shape.map Int.ofNat == expected)
    (.coefficientShape t.coefficients.shape expected (!t.nonlinear.isEmpty)
      (decide (0 < temperatures)))

variable [Scalar α]

/-- The grids run strictly in their directions. -/
def checkGrids (t : Table α) : Outcome α Unit := do
  require (← Grid.increases t.frequencies) (.gridOrder .frequency)
  require (← Grid.decreases t.pressures) (.gridOrder .pressure)
  require (← Grid.increases t.temperaturePerturbations) (.gridOrder .temperature)
  require (← Grid.increases t.humidityPerturbations) (.gridOrder .humidity)

/-- The reference profiles cover the pressures, and humidity is perturbed if and only if there are
nonlinear species. -/
def checkProfiles (t : Table α) (pressures : Nat) : Outcome α Unit := do
  require (t.referenceVmr.shape == [t.species.length, pressures])
    (.vmrShape t.referenceVmr.shape t.species.length pressures)
  require (t.referenceTemperature.shape == [pressures])
    (.temperatureShape t.referenceTemperature.shape pressures)
  let humidities ← t.humidityPerturbations.length
  require (!(t.nonlinear.isEmpty && humidities != 0)) .unexpectedHumidity
  require (!(!t.nonlinear.isEmpty && humidities == 0)) .missingHumidity

/-- The table is consistent. -/
def validate (t : Table α) : Outcome α Unit := do
  let pressures ← t.pressures.length
  require (!t.species.isEmpty) .emptyTable
  t.checkNonlinear
  t.checkGrids
  t.checkProfiles pressures
  t.checkShape

end Absorption.Table
