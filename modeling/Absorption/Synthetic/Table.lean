import Absorption.Synthetic.CrossSection
import Absorption.Table.Basic
import Absorption.Tensor.Part

set_option autoImplicit false

/-!
Small consistent tables filled from the analytic cross sections. The first axis of a grid becomes
the axis of the table. The grids are stretched to three axes in common, and the arrays that this
gives for the species, one for each of their humidity fractions, are laid side by side.
-/

namespace Absorption.Synthetic

/-- `count` equally spaced numbers, both ends among them. -/
def linearGrid (first last : Float) (count : Nat) : List Float :=
  (List.range count).map fun i =>
    if i + 1 = count ∧ 1 < count then last
    else first + i.toFloat * ((last - first) / (count - 1 : Nat).toFloat)

/-- `count` numbers of equal ratios, both ends among them. -/
def geometricGrid (first last : Float) (count : Nat) : List Float :=
  let low := Float.log10 first
  let step := (Float.log10 last - low) / (count - 1 : Nat).toFloat
  (List.range count).map fun i =>
    if i = 0 then first
    else if i + 1 = count then last
    else Float.pow 10.0 (low + i.toFloat * step)

/-- What a synthetic table is made of. -/
structure Recipe where
  species : List String := ["H2O", "O2", "N2"]
  /-- The indices of the nonlinear species, in any order. -/
  nonlinear : List Int := [0]
  /-- Hz. -/
  frequencies : Tensor Float := .ofList (linearGrid 1e11 2e11 11)
  /-- Pa. -/
  pressures : Tensor Float :=
    .ofList [1e5, 5e4, 2e4, 1e4, 5e3, 2e3, 1e3, 500.0, 200.0, 100.0]
  /-- K; empty for a table without temperature axis. -/
  temperaturePerturbations : Tensor Float :=
    .ofList [-100.0, -80.0, -60.0, -40.0, -20.0, 0.0, 20.0, 40.0, 60.0, 80.0, 100.0]
  /-- Not used without nonlinear species. -/
  humidityPerturbations : Tensor Float := .ofList [0.0, 0.5, 1.0, 1.5, 2.0, 5.0, 10.0]
  /-- m². -/
  scale : Float := 1e-24
  /-- Whether the logarithms of the pressures are taken. -/
  takesLog : Bool := false

/-- The humidity fractions along the first axis of a grid. -/
def fractions (humidities : Tensor Float) : Outcome Float (List (Tensor Float)) := do
  let count ← humidities.length
  return (List.range count).filterMap fun i => humidities.part? [Int.ofNat i]

/-- The temperatures of all offsets at all pressures. -/
def temperatures [Powers] (pressures offsets : Tensor Float) : Outcome Float (Tensor Float) :=
  if pressures.shape.isEmpty then fail .outOfBounds
  else
    orFail .malformed (Tensor.combine (· + ·) 0.0
      ((pressures.map referenceTemperature).unitAxis 0) (offsets.unitAxis 1))

/-- The cross sections of one species, one array for each of its places on the expanded axis. -/
def layers [Powers] (r : Recipe) (nonlinear : List Int) (humidities temperatures : Tensor Float)
    (species : Nat) : Outcome Float (List (Tensor Float)) := do
  let layer (h : Option (Tensor Float)) : Outcome Float (Tensor Float) :=
    (crossSections species.toFloat ((r.frequencies.unitAxis 0).unitAxis 2)
      ((r.pressures.unitAxis 0).unitAxis 0) (temperatures.unitAxis 1) h r.scale).mapError .fault
  if nonlinear.contains (Int.ofNat species) then
    (← fractions humidities).mapM fun h => layer (some h)
  else return [← layer none]

/-- The cross sections of a recipe, by offset of the temperature, expanded species, frequency and
pressure. -/
def coefficients [Powers] (r : Recipe) (nonlinear : List Int) (offsets humidities : Tensor Float) :
    Outcome Float (Tensor Float) := do
  let temperatures ← temperatures r.pressures offsets
  if r.frequencies.shape.isEmpty then fail .outOfBounds
  else
    let layers ← (List.range r.species.length).mapM
      (layers r nonlinear humidities temperatures)
    orFail .malformed (Tensor.layered layers.flatten)

/-- Indices sorted, each once. -/
def sortedOnce (indices : List Int) : List Int :=
  (indices.mergeSort (· ≤ ·)).eraseReps

/-- The table of a recipe. -/
def table [Powers] (r : Recipe) : Outcome Float (Table Float) := do
  let humidityPerturbations :=
    if r.nonlinear.isEmpty then Tensor.ofList [] else r.humidityPerturbations
  let nonlinear := sortedOnce r.nonlinear
  let temperatureCount ← r.temperaturePerturbations.length
  let offsets :=
    if temperatureCount = 0 then Tensor.ofList [0.0] else r.temperaturePerturbations
  let coefficients ← coefficients r nonlinear offsets humidityPerturbations
  if !nonlinear.all Table.fitsIndex then fail .tooLarge
  else
    let tags := r.species.toArray
    let t : Table Float := {
      species := r.species
      nonlinear
      frequencies := r.frequencies
      pressures := r.pressures
      referenceVmr := .ofFn (tags.size :: r.pressures.shape) fun p => match p with
        | i :: q => referenceVmr (tags.getD i "") ((r.pressures.get? q).getD 0.0)
        | [] => 0.0
      referenceTemperature := r.pressures.map referenceTemperature
      temperaturePerturbations := r.temperaturePerturbations
      humidityPerturbations
      coefficients
      logPressures := none }
    return if r.takesLog then t.initializeLog else t

end Absorption.Synthetic
