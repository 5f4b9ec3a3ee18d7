import Absorption.Failure.Basic
import Absorption.Value

set_option autoImplicit false

/-!
The messages of refusals. The wordings take their numbers as text, so that they serve refusals of
tables (`Refusal.message`) and refusals announced with values of any kind (`Kind.announce`).
-/

namespace Absorption

namespace Wording

def speciesNotFound (tag : String) (available : List String) : String :=
  "Species " ++ tag ++ " not found in lookup table. Available species: " ++
    Value.joined ", " available

def ambiguousSpecies (tag count : String) : String :=
  "Species " ++ tag ++ " occurs " ++ count ++
    " times in the lookup table, it must occur exactly once."

def gridPointNotFound (index value tolerance : String) : String :=
  "Cannot find new grid point " ++ index ++ " (" ++ value ++
    ") in the lookup table grid (tolerance " ++ tolerance ++ ")."

def insufficientGrid (axis points order : String) : String :=
  "The number of " ++ axis ++ " grid points in the table (" ++ points ++
    ") is not enough for the desired order of interpolation (" ++ order ++ ")."

def outOfRange (quantity value lower upper : String) : String :=
  quantity ++ " " ++ value ++
    " is outside the range covered by the lookup table. The allowed range is " ++ lower ++ " to " ++
    upper ++ "."

/-- A further sentence behind a message. -/
def detailed (message detail : String) : String := message ++ " " ++ detail

/-- The quantity that a range refusal speaks of. -/
def quantity : Kind → String
  | .pressureRange => "Pressure"
  | .temperatureRange => "Temperature offset"
  | .humidityRange => "Fractional humidity"
  | _ => "Value"

/-- The sizes of the axes in parentheses; a single one is followed by a comma. -/
def shape (sizes : List Int) : String :=
  match sizes with
  | [n] => "(" ++ Text.intText n ++ ",)"
  | _ => "(" ++ Value.joined ", " (sizes.map Text.intText) ++ ")"

/-- Numbers in brackets. -/
def numbers (ns : List Int) : String := "[" ++ Value.joined ", " (ns.map Text.intText) ++ "]"

end Wording

/-- The field of a table that holds a grid. -/
def GridName.field : GridName → String
  | frequency => "frequency_grid"
  | pressure => "pressure_grid"
  | temperature => "temperature_perturbations"
  | humidity => "humidity_perturbations"

/-- The direction in which a grid must run. -/
def GridName.direction : GridName → String
  | pressure => "decreasing"
  | _ => "increasing"

open Decimal (generalText exactText)

/-- The text of a refusal. -/
def Refusal.message : Refusal Float → String
  | emptyTable => "The lookup table should have at least one species."
  | duplicateNonlinear indices =>
    "The table must not have duplicate nonlinear species. Value of nonlinear_species: " ++
      Wording.numbers indices
  | nonlinearOutOfRange position index species =>
    "nonlinear_species[" ++ Text.intText position ++ "] = " ++ Text.intText index ++
      " is out of range [0, " ++ Text.intText ((species : Int) - 1) ++ "]."
  | nonlinearOrder indices =>
    "nonlinear_species must be in ascending species order. Value of nonlinear_species: " ++
      Wording.numbers indices
  | gridOrder grid => grid.field ++ " must be strictly " ++ grid.direction ++ "."
  | requestOrder => "The requested frequency grid must be strictly increasing."
  | vmrShape shape species pressures =>
    "reference_vmr has shape " ++ Wording.shape (shape.map Int.ofNat) ++ ", expected " ++
      Wording.shape [species, pressures] ++ "."
  | temperatureShape shape pressures =>
    "reference_temperature has shape " ++ Wording.shape (shape.map Int.ofNat) ++ ", expected " ++
      Wording.shape [pressures] ++ "."
  | unexpectedHumidity =>
    "humidity_perturbations must be empty if the table has no nonlinear species."
  | missingHumidity =>
    "humidity_perturbations should contain the perturbations for the nonlinear species, " ++
      "but it is empty."
  | coefficientShape shape expected nonlinear temperatureAxis =>
    "coefficients has shape " ++ Wording.shape (shape.map Int.ofNat) ++ ", expected " ++
      Wording.shape expected ++ " for a table with " ++
      (if nonlinear then "nonlinear species with humidity perturbations"
       else if temperatureAxis then "temperature perturbations, no nonlinear species"
       else "no temperature perturbations, no nonlinear species") ++ "."
  | emptyRequest => "The list of current species should not be empty."
  | speciesNotFound tag available => Wording.speciesNotFound (Text.quoted tag) available
  | ambiguousSpecies tag count => Wording.ambiguousSpecies (Text.quoted tag) (Text.intText count)
  | gridPointNotFound index value tolerance =>
    Wording.gridPointNotFound (Text.intText index) (exactText value) (exactText tolerance)
  | vmrCount species vmrs =>
    "Number of species in lookup table (" ++ Text.intText species ++
      ") does not match the number of VMRs (" ++ Text.intText vmrs ++
      "). Has the table been adapted?"
  | negativeOrder p t h =>
    "Interpolation orders must be non-negative, got pressure=" ++ Text.intText p ++
      ", temperature=" ++ Text.intText t ++ ", humidity=" ++ Text.intText h ++ "."
  | insufficientGrid axis points order =>
    Wording.insufficientGrid axis (Text.intText points) (Text.intText order)
  | frequencyIndex index frequencies =>
    "Frequency index " ++ Text.intText index ++ " is too high, the largest allowed value is " ++
      Text.intText ((frequencies : Int) - 1) ++ "."
  | notAdapted =>
    "The lookup table internal log-pressure grid is not initialized. " ++
      "Adapt the table before extracting."
  | noHumidityReference molecule =>
    "With nonlinear species, at least one species must be a " ++ molecule ++ " species."
  | pressureRange value allowed cause =>
    Wording.detailed
      (Wording.outOfRange "Pressure" (generalText value) (generalText allowed.lower)
        (generalText allowed.upper))
      (match cause with
        | .outsideGrid last first =>
          "The pressure grid range in the table is " ++ generalText last ++ " to " ++
            generalText first ++ "."
        | .notPositive => "Pressure must be positive.")
  | temperatureRange offset allowed temperature pressure =>
    Wording.detailed
      (Wording.outOfRange "Temperature offset" (generalText offset) (generalText allowed.lower)
        (generalText allowed.upper))
      ("Your temperature was " ++ generalText temperature ++ " K at a pressure of " ++
        generalText pressure ++ " Pa.")
  | humidityRange fraction allowed species vmr pressure reference =>
    Wording.detailed
      (Wording.outOfRange "Fractional humidity" ((fraction.map generalText).getD "inf")
        (generalText allowed.lower) (generalText allowed.upper))
      ("VMR of species " ++ Text.intText species ++ " was " ++ generalText vmr ++
        " at a pressure of " ++ generalText pressure ++ " Pa, reference VMR " ++
        generalText reference ++ ".")

/-- The value and the allowed range that a range refusal carries. -/
def Refusal.range? : Refusal Float → Option (Float × Bounds Float)
  | pressureRange value allowed _ => some (value, allowed)
  | temperatureRange offset allowed _ _ => some (offset, allowed)
  | humidityRange fraction allowed .. => some (fraction.getD (1.0 / 0.0), allowed)
  | _ => none

end Absorption
