import Absorption.Table.Basic

set_option autoImplicit false

/-!
Edits of a table. A new pressure grid drops the logarithms that were taken; a pressure overwritten
in place does not, and leaves them to be found out of date.
-/

namespace Absorption

/-- The arrays of a table. -/
inductive ArrayField where
  | frequencies
  | pressures
  | referenceVmr
  | referenceTemperature
  | temperaturePerturbations
  | humidityPerturbations
  | coefficients
  | logPressures
  deriving DecidableEq, Repr

/-- One edit of a table. -/
inductive Edit (α : Type) where
  /-- An array is replaced. -/
  | assign (field : ArrayField) (value : Tensor α)
  /-- The elements whose position starts with `index` are overwritten. -/
  | overwrite (field : ArrayField) (index : List Int) (value : α)
  | dropLog
  | initializeLog
  | assignSpecies (tags : List String)
  | assignNonlinear (indices : List Int)
  | overwriteNonlinear (index : List Int) (value : Int)

namespace Table

variable {α : Type}

/-- An array of a table; the logarithms may be missing. -/
def array? (t : Table α) : ArrayField → Option (Tensor α)
  | .frequencies => some t.frequencies
  | .pressures => some t.pressures
  | .referenceVmr => some t.referenceVmr
  | .referenceTemperature => some t.referenceTemperature
  | .temperaturePerturbations => some t.temperaturePerturbations
  | .humidityPerturbations => some t.humidityPerturbations
  | .coefficients => some t.coefficients
  | .logPressures => t.logPressures

/-- The table with one array replaced and all else kept, the logarithms too. -/
def withArray (t : Table α) (field : ArrayField) (a : Tensor α) : Table α :=
  match field with
  | .frequencies => { t with frequencies := a }
  | .pressures => { t with pressures := a }
  | .referenceVmr => { t with referenceVmr := a }
  | .referenceTemperature => { t with referenceTemperature := a }
  | .temperaturePerturbations => { t with temperaturePerturbations := a }
  | .humidityPerturbations => { t with humidityPerturbations := a }
  | .coefficients => { t with coefficients := a }
  | .logPressures => { t with logPressures := some a }

@[simp] theorem array?_withArray (t : Table α) (field : ArrayField) (a : Tensor α) :
    (t.withArray field a).array? field = some a := by cases field <;> rfl

/-- The table after an edit. -/
def apply [Scalar α] (t : Table α) : Edit α → Outcome α (Table α)
  | .assign .pressures a => .ok { t with pressures := a, logPressures := none }
  | .assign field a => .ok (t.withArray field a)
  | .overwrite field index x => do
    let a ← orFail .wrongKind (t.array? field)
    return t.withArray field (← a.write index x)
  | .dropLog => .ok { t with logPressures := none }
  | .initializeLog => .ok t.initializeLog
  | .assignSpecies tags => .ok { t with species := tags }
  | .assignNonlinear indices => .ok { t with nonlinear := indices }
  | .overwriteNonlinear index x =>
    match Tensor.span? [t.nonlinear.length] index with
    | none => fail .outOfBounds
    | some (k, count) => .ok { t with
        nonlinear := t.nonlinear.mapIdx fun i y => if k ≤ i ∧ i < k + count then x else y }

end Table
end Absorption
