import Absorption.Gas
import Absorption.LogLevel

set_option autoImplicit false

/-!
Settings of a calculation: orders of interpolation, the tolerance for frequencies, the molecule that
humidity is taken from, and the level of logging. A setting keeps the value it was given, of
whatever kind, until the configuration is checked for what cannot be used.
-/

namespace Absorption

structure Config where
  pressureOrder : Value := .int 5
  temperatureOrder : Value := .int 7
  humidityOrder : Value := .int 5
  /-- Hz. -/
  frequencyTolerance : Value := .float Gas.frequencyTolerance
  humiditySpecies : Value := .text Gas.humidityMolecule
  logLevel : Value := .text "INFO"

namespace Config

/-- A setting that cannot be used. -/
inductive Problem where
  /-- The order is no integer, or it is negative. -/
  | order (setting : String)
  /-- The tolerance is zero or negative. -/
  | tolerance
  /-- No molecule is named. -/
  | humiditySpecies
  /-- The level has no such name. -/
  | logLevel (level : Value)

def Problem.message : Problem → String
  | order setting => setting ++ " must be a non-negative integer"
  | tolerance => "frequency_tolerance must be positive"
  | humiditySpecies => "humidity_species must not be empty"
  | logLevel level => "Invalid log level: " ++ level.display

/-- An integer that is not negative; truth values count as zero and one. -/
def isOrder : Value → Bool
  | .bool _ => true
  | .int n => 0 ≤ n
  | _ => false

/-- The number is zero or negative. What is not a number at all is neither, and only numbers can be
asked. -/
def isNotPositive : Value → Except Fault Bool
  | .bool b => .ok !b
  | .int n => .ok (n ≤ 0)
  | .float x => .ok (x ≤ 0.0)
  | _ => .error .wrongKind

/-- A problem, if there is one. -/
def report (wrong : Bool) (p : Problem) : List Problem := if wrong then [p] else []

/-- All that is wrong with a configuration, in the order of the settings. -/
def problems (c : Config) : Except Fault (List Problem) := do
  let badTolerance ← isNotPositive c.frequencyTolerance
  return report (!isOrder c.pressureOrder) (.order "pressure_order") ++
    report (!isOrder c.temperatureOrder) (.order "temperature_order") ++
    report (!isOrder c.humidityOrder) (.order "humidity_order") ++
    report badTolerance .tolerance ++
    report (!c.humiditySpecies.isTruthy) .humiditySpecies ++
    report (LogLevel.ofName? c.logLevel.display).isNone (.logLevel c.logLevel)

end Config
end Absorption
