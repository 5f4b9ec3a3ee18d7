import Absorption.Config.Problem
import Absorption.Config.Yaml
import Absorption.Extraction.Basic
import Absorption.Synthetic.Table
import Absorption.Table.Adapt

set_option autoImplicit false

/-!
A report on the absorption along a profile of the air: a synthetic table of five species is made,
adapted to three of them and every fourth frequency, and extracted at twelve pressures.
-/

namespace Absorption.Profile

/-- What ends a report early. -/
inductive Stop where
  | unloaded (e : Config.LoadError)
  | failed (f : Failure Float)

/-- A report that is being written: the lines so far, and what ended it. -/
abbrev Writing := ExceptT Stop (StateM (List String))

/-- Lines at the end of a report. -/
def print (lines : List String) : Writing Unit := modify (· ++ lines)

/-- The result of an operation on a table; a failure ends the report. -/
def proceed {β : Type} (o : Outcome Float β) : Writing β := ExceptT.mk (pure (o.mapError .failed))

def rule (c : Char) (count : Nat) : String := String.ofList (List.replicate count c)

def margin : String := "   "

def title : List String :=
  [rule '=' 70, "Gas Absorption Lookup Table: Adapt and Extract", rule '=' 70, ""]

def heading (name : String) : List String := [name, rule '-' 40]

/-- The settings without a file. -/
def defaultConfig : Config :=
  { pressureOrder := .int 3, temperatureOrder := .int 3, humidityOrder := .int 1 }

def recipe : Synthetic.Recipe :=
  { species := ["H2O", "O2", "N2", "O3", "CO2"]
    nonlinear := [0]
    frequencies := .ofList (Synthetic.linearGrid 1e11 3e11 41)
    pressures := .ofList (Synthetic.geometricGrid 1.1e5 10.0 30) }

/-- Every fourth item of a list. -/
def everyFourth {β : Type} (xs : List β) : List β :=
  (xs.zipIdx.filter fun x => x.2 % 4 = 0).map (·.1)

/-- A number of a checked configuration as a binary64 number. -/
def tolerance (v : Value) : Outcome Float Float :=
  match v.number? with
  | some (.inr x) => .ok x
  | some (.inl n) => orFail .tooLarge (Decimal.ofInt? n)
  | none => fail .wrongKind

/-- An order of a checked configuration. -/
def order (v : Value) : Outcome Float Int :=
  match v.number? with
  | some (.inl n) => .ok n
  | _ => fail .wrongKind

/-- The orders of a checked configuration. -/
def orders (c : Config) : Outcome Float Orders := do
  return ⟨← order c.pressureOrder, ← order c.temperatureOrder, ← order c.humidityOrder⟩

/-- The adapted table, with the steps to it in the report. -/
def writeTable (c : Config) : Writing (Table Float) := do
  print (heading "1. Generic Lookup Table")
  let generic ← proceed (Synthetic.table recipe)
  print [margin ++ (← proceed generic.summary), ""]
  print (heading "2. Adapting to Species and Frequencies")
  let frequencies ← proceed generic.frequencies.vector
  let tolerance ← proceed (tolerance c.frequencyTolerance)
  let (table, s) ← proceed
    (generic.adapt ⟨["O2", "H2O", "CO2"], .ofList (everyFourth frequencies), tolerance⟩)
  print [
    margin ++ "Species indices in generic table: " ++
      Wording.numbers (s.speciesIndices.map Int.ofNat),
    margin ++ "Nonlinear species kept: " ++ Text.intText s.nonlinearCount,
    margin ++ "Adapted: " ++ (← proceed table.summary), ""]
  return table

/-- One level of the profile: three kelvins above the reference temperature, with the reference
humidity. -/
def airAt (pressure : Float) : Air Float :=
  ⟨pressure, Synthetic.referenceTemperature pressure + 3.0,
    [0.2095, Synthetic.referenceVmr "H2O" pressure, 420e-6]⟩

/-- Texts in columns of given widths, with a blank between two. -/
def row (columns : List (Nat × String)) : String :=
  margin ++ Value.joined " " (columns.map fun c => Decimal.padded c.1 c.2)

/-- The mean over the frequencies for one species. -/
def mean (absorption : Tensor Float) (species : Nat) : Float :=
  match absorption.shape with
  | frequencies :: _ =>
    (List.range frequencies).foldl
      (fun total f => total + (absorption.get? [f, species]).getD 0.0) 0.0 / frequencies.toFloat
  | [] => 0.0

/-- The line of one level. -/
def levelRow (air : Air Float) (absorption : Tensor Float) : String :=
  row ([(10, Decimal.fixedText 1 air.pressure), (8, Decimal.fixedText 2 air.temperature)] ++
    [0, 1, 2].map fun i => (12, Decimal.scientificText 4 (mean absorption i)))

/-- The profile, from the highest pressure to the lowest. -/
def writeLevels (table : Table Float) (x : Extractor) : List Float → Writing Unit
  | [] => return
  | pressure :: pressures => do
    let air := airAt pressure
    print [levelRow air (← proceed (x.call table air (-1)))]
    writeLevels table x pressures

/-- The sections of the report under a checked configuration. -/
def writeSections (c : Config) : Writing Unit := do
  let table ← writeTable c
  print (heading "3. Extraction Along a Profile")
  let x ← proceed (table.bind (← proceed (orders c)) c.humiditySpecies.display)
  print [row [(10, "p [Pa]"), (8, "T [K]"), (12, "O2 [1/m]"), (12, "H2O [1/m]"), (12, "CO2 [1/m]")]]
  writeLevels table x (Synthetic.geometricGrid 9e4 100.0 12)
  print ["", "Done."]

/-- The report for a configuration file with a content, or without a file. It ends with the exit
code of the program, which is one if the configuration has problems. -/
def write (content : Option String) : Writing Nat := do
  print title
  let config ← match content with
    | none => pure defaultConfig
    | some s => ExceptT.mk (pure ((Config.ofYaml s).mapError .unloaded))
  let problems ← proceed (config.problems.mapError .fault)
  if problems.isEmpty then
    writeSections config
    return 0
  else
    print (problems.map fun p => margin ++ "Config error: " ++ p.message)
    return 1

/-- The lines of a report, and how it ended. -/
def report (content : Option String) : List String × Except Stop Nat :=
  let (ending, lines) := (write content).run []
  (lines, ending)

end Absorption.Profile
