import Absorption.Grid.Nested
import Absorption.Table.Layout
import Absorption.Table.Validity

set_option autoImplicit false

/-!
Adaptation of a table to the species and frequencies of a calculation. The table is checked, each
species and each frequency that is asked for is found in it (`Table.select`), and what was found
makes a table of its own (`Table.subset`).
-/

namespace Absorption

/-- What a calculation asks of a table. -/
structure Request (α : Type) where
  species : List String
  /-- Hz, strictly increasing. -/
  frequencies : Tensor α
  /-- How far a frequency of the table may be from the one asked for, in Hz. -/
  tolerance : α

/-- What of a table was selected. -/
structure Selection where
  speciesIndices : List Nat
  frequencyIndices : List Nat
  /-- For each selected species whether it is nonlinear. -/
  nonlinear : List Bool
  /-- How many species and frequencies the table has. -/
  tableSpecies : Nat
  tableFrequencies : Nat
  deriving DecidableEq, Repr

/-- The number of selected species that are nonlinear. -/
def Selection.nonlinearCount (s : Selection) : Nat := s.nonlinear.countP (· = true)

namespace Table

variable {α : Type}

/-- The indices of the species with a tag. -/
def matchesOf (t : Table α) (tag : String) : List Nat :=
  (t.species.zipIdx.filter fun s => s.1 == tag).map (·.2)

/-- The index of the only species with a tag. -/
def findSpecies (t : Table α) (tag : String) : Outcome α Nat :=
  match t.matchesOf tag with
  | [] => refuse (.speciesNotFound tag t.species)
  | [i] => .ok i
  | found => refuse (.ambiguousSpecies tag found.length)

variable [Scalar α]

/-- The checks of a request that need no search. -/
def checkRequest (r : Request α) : Outcome α Unit := do
  require (!r.species.isEmpty) .emptyRequest
  require (← Grid.increases r.frequencies) .requestOrder

/-- Where a table has the species and frequencies of a request. -/
def select (t : Table α) (r : Request α) : Outcome α Selection := do
  let tableFrequencies ← t.frequencies.length
  let _ ← r.frequencies.length
  t.validate
  checkRequest r
  let speciesIndices ← r.species.mapM t.findSpecies
  let mask ← t.mask
  let frequencyIndices ← Grid.locateIn t.frequencies r.frequencies r.tolerance
  return {
    speciesIndices
    frequencyIndices
    nonlinear := speciesIndices.map fun i => mask.getD i false
    tableSpecies := t.species.length
    tableFrequencies }

/-- The places on the expanded axis of some species, one block behind the other. -/
def expandedPlaces (blocks : List Block) (species : List Nat) : List Nat :=
  species.flatMap fun i => match blocks[i]? with
    | some b => List.range' b.offset b.length
    | none => []

/-- The elements of an array of four axes at some places of the second and the third. -/
def pickMiddle (a : Tensor α) (seconds thirds : Array Nat) : Tensor α :=
  match a.shape with
  | [n, _, _, m] => .ofFn [n, seconds.size, thirds.size, m] fun p => match p with
    | [i, j, k, l] =>
      (seconds[j]?.bind fun second => thirds[k]?.bind fun third => a.get? [i, second, third, l])
        |>.getD 0
    | _ => 0
  | _ => a

/-- The indices at which a list is true. -/
def trueIndices (mask : List Bool) : List Nat :=
  (mask.zipIdx.filter (·.1)).map (·.2)

/-- The table of what was selected, with the logarithms of its pressures. Humidity perturbations
are kept as long as a nonlinear species is. -/
def subset (t : Table α) (blocks : List Block) (s : Selection) : Table α :=
  Table.initializeLog {
    species := s.speciesIndices.map fun i => t.species.getD i ""
    nonlinear := (trueIndices s.nonlinear).map Int.ofNat
    frequencies := t.frequencies.rows s.frequencyIndices.toArray
    pressures := t.pressures
    referenceVmr := t.referenceVmr.rows s.speciesIndices.toArray
    referenceTemperature := t.referenceTemperature
    temperaturePerturbations := t.temperaturePerturbations
    humidityPerturbations :=
      if s.nonlinear.any id then t.humidityPerturbations else .ofList []
    coefficients :=
      pickMiddle t.coefficients (expandedPlaces blocks s.speciesIndices).toArray
        s.frequencyIndices.toArray
    logPressures := none }

/-- The table of just the species and frequencies that are asked for, ready for extraction, and
what was selected. -/
def adapt (t : Table α) (r : Request α) : Outcome α (Table α × Selection) := do
  let s ← t.select r
  let layout ← t.layout
  return (t.subset layout.blocks s, s)

/-- The steps of finding species, up to the first that is not found. -/
def speciesNotes (t : Table α) : List String → List String
  | [] => []
  | tag :: tags => match t.findSpecies tag with
    | .ok i => ("  " ++ tag ++ ": found, index = " ++ Text.intText i ++ ".") :: speciesNotes t tags
    | .error _ => []

/-- The steps of an adaptation in words, up to the one that fails. -/
def adaptNotes (t : Table α) (r : Request α) : List String :=
  match t.frequencies.length, r.frequencies.length with
  | .ok held, .ok want =>
    let n (k : Nat) := Text.intText k
    let opening := "Original table: " ++ n t.species.length ++ " species, " ++ n held ++
      " frequencies. Adapt to: " ++ n r.species.length ++ " species, " ++ n want ++ " frequencies."
    match t.validate with
    | .error _ => [opening]
    | .ok _ =>
      let lacks :=
        (if t.nonlinear.isEmpty then ["Table contains no nonlinear species."] else []) ++
        (if t.temperaturePerturbations.shape.head? = some 0 then
          ["Table contains no temperature perturbations."] else [])
      opening :: lacks ++ match checkRequest r with
        | .error _ => []
        | .ok _ =>
          "Looking for species in lookup table:" :: speciesNotes t r.species ++
            match r.species.mapM t.findSpecies, t.mask with
            | .ok indices, .ok mask =>
              let nonlinear := (r.species.zip indices).filter fun s => mask.getD s.2 false
              nonlinear.map (fun s => "  " ++ Species.trimmed s.1 ++ " is nonlinear.") ++
                "Looking for frequencies in lookup table:" ::
                match t.adapt r with
                | .ok (adapted, _) => match adapted.summary with
                  | .ok line => ["Adapted table: " ++ line]
                  | .error _ => []
                | .error _ => []
            | _, _ => []
  | _, _ => []

end Table
end Absorption
