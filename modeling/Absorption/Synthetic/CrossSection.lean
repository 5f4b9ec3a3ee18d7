import Absorption.Gas
import Absorption.Tensor.Broadcast

set_option autoImplicit false

/-!
Simple reference profiles, and an analytic model of absorption cross sections. The model is linear
in frequency and in the humidity fraction, so that linear interpolation along these axes reproduces
it.
-/

namespace Absorption

/-- Powers of binary64 numbers. A number alone and the numbers of an array are raised by two
routines, which may round to different neighbours. -/
class Powers where
  ofNumber : Float → Float → Float
  ofArray : Float → Float → Float

instance : Powers := ⟨Float.pow, Float.pow⟩

namespace Synthetic

/-- A power of a number in an array: of one half, it is the root. -/
def powerInArray [Powers] (x exponent : Float) : Float :=
  if exponent == 0.5 then Float.sqrt x else Powers.ofArray x exponent

/-- A power of the numbers of an array with such axes. One without axes holds a number alone. -/
def power [Powers] (shape : List Nat) : Float → Float → Float :=
  if shape.isEmpty then Powers.ofNumber else powerInArray

/-- The larger of two numbers; what is not a number stays so. -/
def atLeast (x least : Float) : Float := if x < least then least else x

/-- The reference temperature in K at a pressure in Pa: it falls with height down to 210 K. -/
def referenceTemperature [Powers] (pressure : Float) : Float :=
  atLeast (288.15 * powerInArray (pressure / 1e5) 0.19) 210.0

/-- The volume mixing ratio of a well mixed gas. -/
def wellMixed (molecule : String) : Float :=
  match molecule with
  | "N2" => 0.7808
  | "O2" => 0.2095
  | "CO2" => 420e-6
  | "CH4" => 1.9e-6
  | "N2O" => 335e-9
  | _ => 1e-6

/-- The reference mixing ratio of a species at a pressure in Pa. Water falls with the third power of
the pressure down to 3 ppm; other gases are well mixed. -/
def referenceVmr [Powers] (tag : String) (pressure : Float) : Float :=
  let molecule := Species.molecule tag
  if molecule = "H2O" then atLeast (1e-2 * powerInArray (pressure / 1e5) 3.0) 3e-6
  else wellMixed molecule

/-- The cross section in m² of the species with an index, at a frequency in Hz, a pressure in Pa and
a temperature in K; `humidity` is the humidity fraction of a nonlinear species. Powers of the
pressure and of the temperature are taken as given. -/
def crossSection (ofPressure ofTemperature : Float → Float → Float)
    (index frequency pressure temperature : Float) (humidity : Option Float) (scale : Float) :
    Float :=
  let dry := scale * (1.0 + 0.1 * index) * (frequency / 1e11) * ofPressure (pressure / 1e5) 0.5 *
    ofTemperature (300.0 / temperature) 1.5
  match humidity with
  | some h => dry * (1.0 + 0.5 * h)
  | none => dry

/-- Cross sections of whole arrays of states, stretched to a common shape. -/
def crossSections [Powers] (index : Float) (frequency pressure temperature : Tensor Float)
    (humidity : Option (Tensor Float)) (scale : Float) : Except Fault (Tensor Float) :=
  match Tensor.commonShapes ([frequency.shape, pressure.shape, temperature.shape] ++
    (humidity.map Tensor.shape).toList) with
  | none => .error .malformed
  | some shape =>
    let value (t : Tensor Float) (p : List Nat) : Float := (t.stretched? p).getD 0.0
    .ok (.ofFn shape fun p =>
      crossSection (power pressure.shape) (power temperature.shape) index (value frequency p)
        (value pressure p) (value temperature p) (humidity.map (value · p)) scale)

end Synthetic
end Absorption
