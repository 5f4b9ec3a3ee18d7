import Absorption.Config.Problem
import Absorption.Json.Reader
import Absorption.Json.Writer

set_option autoImplicit false

/-!
Configurations as mappings and as JSON texts.
-/

namespace Absorption.Config

/-- Why there is no configuration. -/
inductive LoadError where
  /-- The text is no value. -/
  | unreadable (e : ReadError)
  /-- Something else stands where a mapping is needed. -/
  | notMapping
  deriving DecidableEq, Repr

/-- The entries of the mapping under a key; without that key there are none. -/
def section? (key : String) (entries : List (Key × Value)) :
    Except LoadError (List (Key × Value)) :=
  match Value.named key entries with
  | none => .ok []
  | some (.map inner) => .ok inner
  | some _ => .error .notMapping

/-- The configuration that a mapping describes. Settings that it lacks have their defaults, and
other entries do not count. -/
def ofValue (v : Value) : Except LoadError Config :=
  match v with
  | .map entries => do
    let interpolation ← section? "interpolation" entries
    let adapt ← section? "adapt" entries
    let d : Config := {}
    return {
      pressureOrder := (Value.named "pressure_order" interpolation).getD d.pressureOrder
      temperatureOrder := (Value.named "temperature_order" interpolation).getD d.temperatureOrder
      humidityOrder := (Value.named "humidity_order" interpolation).getD d.humidityOrder
      frequencyTolerance := (Value.named "frequency_tolerance" adapt).getD d.frequencyTolerance
      humiditySpecies := (Value.named "humidity_species" entries).getD d.humiditySpecies
      logLevel := (Value.named "log_level" entries).getD d.logLevel }
  | _ => .error .notMapping

/-- The entries of the mapping that describes a configuration, by name. -/
def entries (c : Config) : List (String × Value) :=
  [("interpolation", .record [("pressure_order", c.pressureOrder),
      ("temperature_order", c.temperatureOrder), ("humidity_order", c.humidityOrder)]),
    ("adapt", .record [("frequency_tolerance", c.frequencyTolerance)]),
    ("humidity_species", c.humiditySpecies), ("log_level", c.logLevel)]

/-- The mapping that describes a configuration. -/
def toValue (c : Config) : Value := .record c.entries

/-- A configuration is the one that its mapping describes. -/
theorem ofValue_toValue (c : Config) : ofValue c.toValue = .ok c := rfl

/-- The settings are equal; `sameNaN` tells whether what is no number equals itself. -/
def agrees (sameNaN : Bool) (c d : Config) : Bool := Value.agrees sameNaN c.toValue d.toValue

/-- The configuration that a JSON text describes. -/
def ofJson (s : String) : Except LoadError Config :=
  match Json.read s with
  | .ok v => ofValue v
  | .error e => .error (.unreadable e)

/-- A configuration as a JSON text. -/
def toJson (l : Json.Layout) (c : Config) : Except Fault String :=
  if Json.isWritable c.toValue then .ok (Json.write l c.toValue) else .error .wrongKind

end Absorption.Config
