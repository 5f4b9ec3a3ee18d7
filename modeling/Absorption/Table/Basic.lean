import Absorption.Gas
import Absorption.Tensor.Basic

set_option autoImplicit false

/-!
Lookup tables of gas absorption. The cross sections lie in an array of four axes: temperature
perturbation, expanded species, frequency and pressure. On the second axis an ordinary species
takes one place and a nonlinear species one for each humidity perturbation. A table without
temperature perturbations has one place on the first axis.

A table holds what it was given. Whether its parts fit together is the subject of
`Absorption.Table.Validity`.
-/

namespace Absorption

/-- A lookup table. -/
structure Table (α : Type) where
  /-- The tags of the species. -/
  species : List String
  /-- The indices of the species whose absorption depends on humidity. -/
  nonlinear : List Int
  /-- Hz, strictly increasing. -/
  frequencies : Tensor α
  /-- Pa, strictly decreasing. -/
  pressures : Tensor α
  /-- Volume mixing ratios by species and pressure. -/
  referenceVmr : Tensor α
  /-- K, by pressure. -/
  referenceTemperature : Tensor α
  /-- K, strictly increasing; empty without a temperature axis. -/
  temperaturePerturbations : Tensor α
  /-- Fractions of the reference humidity, strictly increasing; empty without nonlinear species. -/
  humidityPerturbations : Tensor α
  /-- m². -/
  coefficients : Tensor α
  /-- The logarithms of the pressures, if they were taken. -/
  logPressures : Option (Tensor α)

namespace Table

variable {α : Type}

/-- Indices of species are kept in 64 bits. -/
def fitsIndex (n : Int) : Bool := -9223372036854775808 ≤ n && n ≤ 9223372036854775807

/-- The sizes of the axes that the coefficients must have. The second size is negative where more
species are nonlinear than there are and no humidity is perturbed. -/
def expectedShape (t : Table α) : Outcome α (List Int) := do
  let humidities ← t.humidityPerturbations.length
  let temperatures ← t.temperaturePerturbations.length
  let frequencies ← t.frequencies.length
  let pressures ← t.pressures.length
  return [max temperatures 1,
    t.species.length + t.nonlinear.length * ((humidities : Int) - 1), frequencies, pressures]

/-- The index of the first species of a molecule. -/
def humidityIndex? (t : Table α) (molecule : String) : Option Nat :=
  t.species.findIdx? (Species.molecule · == molecule)

/-- One line about the sizes of a table. -/
def summary (t : Table α) : Outcome α String := do
  let frequencies ← t.frequencies.length
  let pressures ← t.pressures.length
  let temperatures ← t.temperaturePerturbations.length
  let humidities ← t.humidityPerturbations.length
  let n (k : Nat) := Text.intText k
  return "GasAbsLookup(" ++ n t.species.length ++ " species, " ++ n t.nonlinear.length ++
    " nonlinear, " ++ n frequencies ++ " frequencies, " ++ n pressures ++ " pressures, " ++
    n temperatures ++ " T perturbations, " ++ n humidities ++ " H2O perturbations)"

/-- The table with the logarithms of its pressures taken anew. -/
def initializeLog [Scalar α] (t : Table α) : Table α :=
  { t with logPressures := some (t.pressures.map Scalar.log) }

/-- Whether the logarithms that were taken are those of the present pressures. -/
def hasLog [Scalar α] (t : Table α) : Outcome α Bool :=
  match t.logPressures with
  | none => .ok false
  | some logs => do
    let taken ← logs.length
    let present ← t.pressures.length
    return taken == present && logs.same (t.pressures.map Scalar.log)

/-- Whether two tables hold the same species and equal numbers. The logarithms do not count. -/
def agrees [Scalar α] (t u : Table α) : Bool :=
  t.species == u.species && t.nonlinear == u.nonlinear && t.frequencies.same u.frequencies &&
    t.pressures.same u.pressures && t.referenceVmr.same u.referenceVmr &&
    t.referenceTemperature.same u.referenceTemperature &&
    t.temperaturePerturbations.same u.temperaturePerturbations &&
    t.humidityPerturbations.same u.humidityPerturbations && t.coefficients.same u.coefficients

end Table
end Absorption
