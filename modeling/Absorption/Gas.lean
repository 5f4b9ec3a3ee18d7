import Absorption.Failure.Basic
import Absorption.Text.Characters

set_option autoImplicit false

/-!
Gases: the tags that name them and the ideal gas law. A tag is a list of parts with commas between
them, and a part is a molecule that dashes set off from the model used for it: `H2O`, `H2O-PWR98`,
`H2O,H2O-SelfContCKD`.
-/

namespace Absorption
namespace Species

/-- The molecule of a tag: the first part up to its first dash, without blanks at the ends. -/
def moleculeChars (tag : List Char) : List Char :=
  Text.strip ((tag.takeWhile (· ≠ ',')).takeWhile (· ≠ '-'))

/-- The molecule of a tag. -/
def molecule (tag : String) : String := String.ofList (moleculeChars tag.toList)

/-- The tag without zero characters at its end. -/
def trimmed (tag : String) : String :=
  String.ofList (tag.toList.reverse.dropWhile fun c => c.toNat = 0).reverse

end Species

namespace Gas

/-- How far apart two frequencies may be that count as one, in Hz. -/
def frequencyTolerance : Float := 1.0

/-- The molecule whose amount the nonlinear species depend on. -/
def humidityMolecule : String := "H2O"

/-- Molecules of an ideal gas in a cubic metre, at a pressure in Pa and a temperature in K. -/
def numberDensity {α : Type} [Scalar α] (pressure temperature : α) : Outcome α α :=
  let energy := Scalar.boltzmann * temperature
  if Scalar.same energy 0 then fail .divisionByZero else .ok (pressure / energy)

end Gas
end Absorption
