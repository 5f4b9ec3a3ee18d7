import Absorption.Failure.Announce
import Absorption.Table.Edit
import Absorption.Tensor.OfValue
import Absorption.Text.Characters
import Absorption.Text.Digits
import Absorption.Value

set_option autoImplicit false

/-!
The fields of a table by name, and tables and edits from plain values.
-/

namespace Absorption

/-- A field of a table. -/
inductive Field where
  | species
  | nonlinear
  | array (a : ArrayField)
  deriving DecidableEq, Repr

namespace Field

/-- The fields in order, with their names. All but the last must be given. -/
def names : List (String × Field) :=
  [("species", species), ("nonlinear_species", nonlinear),
    ("frequency_grid", array .frequencies), ("pressure_grid", array .pressures),
    ("reference_vmr", array .referenceVmr), ("reference_temperature", array .referenceTemperature),
    ("temperature_perturbations", array .temperaturePerturbations),
    ("humidity_perturbations", array .humidityPerturbations),
    ("coefficients", array .coefficients), ("log_pressure_grid", array .logPressures)]

def ofName? (name : String) : Option Field := names.lookup name

end Field

/-- The tags of a sequence of values, each as its own text. -/
def tagsOf (v : Value) : Except Fault (List String) :=
  match v.elements? with
  | some vs => .ok (vs.map Value.display)
  | none => .error .wrongKind

/-- A number cut to an integer. -/
def truncated (x : Float) : Except Fault Int :=
  match Decimal.Binary.ofFloat x with
  | .nan => .error .malformed
  | .infinite _ => .error .tooLarge
  | .finite negative m q =>
    let f := Decimal.Fraction.scaled m 2 q
    let n : Int := (f.numerator / f.denominator : Nat)
    .ok (if negative then -n else n)

/-- The integer that a text stands for: decimal digits with or without a sign. -/
def integerOfText (s : String) : Except Fault Int :=
  let (negative, digits) := match Text.strip s.toList with
    | '-' :: rest => (true, rest)
    | '+' :: rest => (false, rest)
    | rest => (false, rest)
  match Text.ungrouped? digits with
  | some digits =>
    if digitLimit < digits.length then .error .malformed
    else
      let n : Int := Text.value digits
      .ok (if negative then -n else n)
  | none => .error .malformed

/-- An integer of any size; numbers are cut towards zero. -/
def integerOf : Value → Except Fault Int
  | .bool b => .ok (if b then 1 else 0)
  | .int n => .ok n
  | .float x => truncated x
  | .text s => integerOfText s
  | _ => .error .wrongKind

/-- An integer of 64 bits. -/
def indexOf (v : Value) : Except Fault Int := do
  let n ← integerOf v
  if Table.fitsIndex n then return n else .error .tooLarge

/-- The integers of nested lists as one list. -/
def indicesOf (v : Value) : Except Fault (List Int) :=
  match v.nestedShape? with
  | none => .error .malformed
  | some shape =>
    if Tensor.axisLimit < shape.length then .error .malformed else v.leaves.mapM indexOf

namespace Field

/-- The edit that assigns a value to a field. -/
def assignment (f : Field) (v : Value) : Except Fault (Edit Float) :=
  match f, v with
  | species, v => (tagsOf v).map .assignSpecies
  | nonlinear, v => (indicesOf v).map .assignNonlinear
  | array .logPressures, .null => .ok .dropLog
  | array a, v => (Tensor.ofValue v).map (.assign a)

end Field

/-- The table with the elements of a field overwritten whose position starts with `index`. The tags
are fixed, and the position is looked up before the value is read. -/
def Table.put (t : Table Float) (f : Field) (index : List Int) (v : Value) :
    Outcome Float (Table Float) :=
  match f with
  | .species => fail .wrongKind
  | .nonlinear =>
    if (Tensor.span? [t.nonlinear.length] index).isNone then fail .outOfBounds
    else do
      let n ← (indexOf v).mapError .fault
      t.apply (.overwriteNonlinear index n)
  | .array a => do
    let array ← orFail .wrongKind (t.array? a)
    if (Tensor.span? array.shape index).isNone then fail .outOfBounds
    else
      let x ← (Tensor.numberOf v).mapError .fault
      t.apply (.overwrite a index x)

/-- A table without anything in it. -/
def Table.blank : Table Float where
  species := []
  nonlinear := []
  frequencies := .ofList []
  pressures := .ofList []
  referenceVmr := .ofList []
  referenceTemperature := .ofList []
  temperaturePerturbations := .ofList []
  humidityPerturbations := .ofList []
  coefficients := .ofList []
  logPressures := none

/-- The table with the given fields. Each field must have one of the names, and all but the
logarithms must be there. -/
def Table.ofFields (fields : List (String × Value)) : Outcome Float (Table Float) := do
  if fields.any (fun f => (Field.ofName? f.1).isNone) then fail .wrongKind
  else if Field.names.any (fun n =>
      n.2 ≠ .array .logPressures && (fields.lookup n.1).isNone) then fail .wrongKind
  else
    Field.names.foldlM (fun t n =>
      match fields.lookup n.1 with
      | none => return t
      | some v => match n.2.assignment v with
        | .ok e => t.apply e
        | .error f => fail f) Table.blank

end Absorption
