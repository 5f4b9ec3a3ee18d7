import Absorption.Failure.Kind
import Absorption.Scalar

set_option autoImplicit false

/-!
What can go wrong with a table. A `Refusal` names a condition of the domain that does not hold,
with all numbers that its message shows; a `Fault` is any other misuse of the data.
-/

namespace Absorption

/-- The four grids of a table. -/
inductive GridName where
  | frequency
  | pressure
  | temperature
  | humidity
  deriving DecidableEq, Repr

/-- Why a pressure is refused. -/
inductive PressureCause (α : Type) where
  /-- It is outside the grid, whose last and first points are shown. -/
  | outsideGrid (last first : α)
  | notPositive

/-- A condition of the domain that does not hold. -/
inductive Refusal (α : Type) where
  | emptyTable
  | duplicateNonlinear (indices : List Int)
  | nonlinearOutOfRange (position : Nat) (index : Int) (species : Nat)
  | nonlinearOrder (indices : List Int)
  | gridOrder (grid : GridName)
  | requestOrder
  | vmrShape (shape : List Nat) (species pressures : Nat)
  | temperatureShape (shape : List Nat) (pressures : Nat)
  | unexpectedHumidity
  | missingHumidity
  | coefficientShape (shape : List Nat) (expected : List Int) (nonlinear temperatureAxis : Bool)
  | emptyRequest
  | speciesNotFound (tag : String) (available : List String)
  | ambiguousSpecies (tag : String) (count : Nat)
  | gridPointNotFound (index : Nat) (value tolerance : α)
  | vmrCount (species vmrs : Nat)
  | negativeOrder (pressure temperature humidity : Int)
  | insufficientGrid (axis : String) (points : Nat) (order : Int)
  | frequencyIndex (index : Int) (frequencies : Nat)
  | notAdapted
  | noHumidityReference (molecule : String)
  | pressureRange (value : α) (allowed : Bounds α) (cause : PressureCause α)
  | temperatureRange (offset : α) (allowed : Bounds α) (temperature pressure : α)
  /-- The fraction is absent if it is beyond all numbers. -/
  | humidityRange (fraction : Option α) (allowed : Bounds α) (species : Int)
      (vmr pressure reference : α)

/-- The kind under which a refusal is reported. -/
def Refusal.kind {α : Type} : Refusal α → Kind
  | emptyTable => .emptyTable
  | duplicateNonlinear .. | nonlinearOutOfRange .. | nonlinearOrder .. => .nonlinearSpecies
  | gridOrder .. | requestOrder => .gridOrder
  | vmrShape .. | temperatureShape .. | unexpectedHumidity | missingHumidity => .referenceProfile
  | coefficientShape .. => .shapeMismatch
  | emptyRequest => .emptyRequest
  | speciesNotFound .. => .speciesNotFound
  | ambiguousSpecies .. => .ambiguousSpecies
  | gridPointNotFound .. => .gridPointNotFound
  | vmrCount .. => .dimensionMismatch
  | negativeOrder .. => .request
  | insufficientGrid .. => .insufficientGrid
  | frequencyIndex .. => .indexOutOfRange
  | notAdapted => .notAdapted
  | noHumidityReference .. => .noHumidityReference
  | pressureRange .. => .pressureRange
  | temperatureRange .. => .temperatureRange
  | humidityRange .. => .humidityRange

/-- A misuse of the data that is no condition of the domain. -/
inductive Fault where
  /-- An index beyond the data. -/
  | outOfBounds
  /-- Data of the right kind that do not fit together. -/
  | malformed
  /-- Data of the wrong kind. -/
  | wrongKind
  /-- An integer too large for its place. -/
  | tooLarge
  | divisionByZero
  /-- A position on an axis that was not taken. -/
  | unplaced
  deriving DecidableEq, Repr

/-- Why an operation on a table gives no result. -/
inductive Failure (α : Type) where
  | refused (r : Refusal α)
  | fault (f : Fault)

/-- The outcome of an operation on tables of numbers `α`. -/
abbrev Outcome (α β : Type) := Except (Failure α) β

/-- The operation ends in a refusal. -/
def refuse {α β : Type} (r : Refusal α) : Outcome α β := .error (.refused r)

/-- The operation ends in a fault. -/
def fail {α β : Type} (f : Fault) : Outcome α β := .error (.fault f)

/-- The value, or a fault if there is none. -/
def orFail {α β : Type} (f : Fault) : Option β → Outcome α β
  | some b => .ok b
  | none => fail f

end Absorption
