import Absorption.Gas
import Absorption.Value

set_option autoImplicit false

/-!
What a release offers: its version, the names that a client finds, and constants in SI units.
-/

namespace Absorption
namespace Release

def version : String := "0.1.0"

/-- The names that a client finds, sorted. -/
def offers : List String :=
  ["AdaptReport", "GasAbsLookup", "InterpolationConfig", "LookupConfig", "LookupExtractor",
    "__version__", "adapt", "adapt_with_report", "create_simple_lookup_table", "extract"]

end Release

namespace Gas

/-- J/K. -/
def boltzmannConstant : Float := 1.380649e-23

/-- mol⁻¹. -/
def avogadroNumber : Float := 6.02214076e23

/-- Pa. -/
def standardPressure : Float := 101325.0

/-- K. -/
def standardTemperature : Float := 273.15

/-- Molecules in a cubic metre at 273.15 K and one atmosphere. -/
def loschmidtConstant : Float := 2.6867811e25

/-- The constants by name. -/
def constants : List (String × Value) :=
  [("BOLTZMANN_CONSTANT", .float boltzmannConstant),
    ("AVOGADRO_NUMBER", .float avogadroNumber),
    ("STANDARD_PRESSURE", .float standardPressure),
    ("STANDARD_TEMPERATURE", .float standardTemperature),
    ("LOSCHMIDT_CONSTANT", .float loschmidtConstant),
    ("FREQUENCY_TOLERANCE", .float frequencyTolerance),
    ("HUMIDITY_REFERENCE_MOLECULE", .text humidityMolecule)]

end Gas
end Absorption
