set_option autoImplicit false

/-!
The kinds of refusals, in three categories: the table is malformed, the request asks for something
the table cannot provide, or the state of the air lies outside the range of the table.
-/

namespace Absorption

/-- A kind of refusal, or one of the categories of kinds. -/
inductive Kind where
  | any
  | structural
  | emptyTable
  | nonlinearSpecies
  | gridOrder
  | referenceProfile
  | shapeMismatch
  | request
  | emptyRequest
  | speciesNotFound
  | ambiguousSpecies
  | gridPointNotFound
  | dimensionMismatch
  | insufficientGrid
  | indexOutOfRange
  | notAdapted
  | noHumidityReference
  | range
  | pressureRange
  | temperatureRange
  | humidityRange
  deriving DecidableEq, Repr

namespace Kind

def all : List Kind :=
  [any, structural, emptyTable, nonlinearSpecies, gridOrder, referenceProfile, shapeMismatch,
    request, emptyRequest, speciesNotFound, ambiguousSpecies, gridPointNotFound, dimensionMismatch,
    insufficientGrid, indexOutOfRange, notAdapted, noHumidityReference, range, pressureRange,
    temperatureRange, humidityRange]

/-- The name under which a kind is reported. -/
def name : Kind → String
  | any => "LookupTableError"
  | structural => "TableStructureError"
  | emptyTable => "EmptyTableError"
  | nonlinearSpecies => "NonlinearSpeciesError"
  | gridOrder => "GridOrderError"
  | referenceProfile => "ReferenceProfileError"
  | shapeMismatch => "ShapeMismatch"
  | request => "LookupRequestError"
  | emptyRequest => "EmptyRequestError"
  | speciesNotFound => "SpeciesNotFound"
  | ambiguousSpecies => "AmbiguousSpecies"
  | gridPointNotFound => "GridPointNotFound"
  | dimensionMismatch => "DimensionMismatch"
  | insufficientGrid => "InsufficientGridForOrder"
  | indexOutOfRange => "IndexOutOfRange"
  | notAdapted => "TableNotAdapted"
  | noHumidityReference => "NoHumidityReferenceSpecies"
  | range => "LookupRangeError"
  | pressureRange => "PressureOutOfRange"
  | temperatureRange => "TemperatureOutOfRange"
  | humidityRange => "HumidityOutOfRange"

/-- The kind with a given name. -/
def ofName? (name : String) : Option Kind := all.find? fun k => k.name == name

/-- The categories that a kind belongs to, the narrowest first. -/
def categories : Kind → List Kind
  | any => []
  | structural | request | range => [any]
  | emptyTable | nonlinearSpecies | gridOrder | referenceProfile | shapeMismatch =>
    [structural, any]
  | emptyRequest | speciesNotFound | ambiguousSpecies | gridPointNotFound | dimensionMismatch
  | insufficientGrid | indexOutOfRange | notAdapted | noHumidityReference => [request, any]
  | pressureRange | temperatureRange | humidityRange => [range, any]

/-- Whether a refusal of this kind blames a value: all of them do, beside the bare category. -/
def blamesValue (k : Kind) : Bool := k ≠ any

end Kind
end Absorption
