import Absorption.Failure.Message
import Absorption.Grid.Nested
import Absorption.Table.Layout
import Absorption.Table.Validity
import Absorption.WeightedSum

set_option autoImplicit false

/-!
Extraction of absorption coefficients for one state of the air. At each pressure level that takes
part the table is interpolated in temperature and, for nonlinear species, in humidity, relative to
the reference values of that very level. The levels are then combined with the weights of the
pressures and scaled with the number density of each species.
-/

namespace Absorption

/-- Orders of interpolation. -/
structure Orders where
  pressure : Int := 5
  temperature : Int := 7
  humidity : Int := 5
  deriving DecidableEq, Repr

/-- A state of the air. -/
structure Air (α : Type) where
  /-- Pa. -/
  pressure : α
  /-- K. -/
  temperature : α
  /-- The volume mixing ratio of each species of the table. -/
  vmrs : List α

/-- What is fixed before an extraction: the orders, the species that humidity is taken from, and
where the species lie in the table. The humidity species is minus one, which counts from the end,
if the table had no nonlinear species. -/
structure Extractor where
  orders : Orders
  humiditySpecies : Int
  layout : Layout

/-- The grid positions at one level; an axis that the table lacks has none. -/
structure LevelPosition (α : Type) where
  temperature : Option (Position α)
  humidity : Option (Position α)

/-- The interpolated table at all levels that take part: for each level and species the values at
the frequencies. -/
structure Sample (α : Type) where
  pressures : Position α
  frequencies : Nat
  species : Nat
  levels : List (List (List α))

variable {α : Type}

/-- The mixing ratio of a species, whose index may count from the end. -/
def Air.vmr (air : Air α) (species : Int) : Outcome α α :=
  orFail .outOfBounds ((Tensor.wrap? air.vmrs.length species).bind (air.vmrs[·]?))

namespace Table

/-- The species that humidity is taken from, or minus one without nonlinear species. -/
def humiditySpecies (t : Table α) (molecule : String) : Outcome α Int :=
  if t.nonlinear.isEmpty then .ok (-1)
  else match t.humidityIndex? molecule with
    | some i => .ok i
    | none => refuse (.noHumidityReference molecule)

/-- Orders are not negative, and each axis has more points than its order. -/
def checkOrders (t : Table α) (o : Orders) : Outcome α Unit := do
  require (!(o.pressure < 0 || o.temperature < 0 || o.humidity < 0))
    (.negativeOrder o.pressure o.temperature o.humidity)
  let pressures ← t.pressures.length
  require (!(pressures < o.pressure + 1)) (.insufficientGrid "pressure" pressures o.pressure)
  let humidities ← t.humidityPerturbations.length
  require (!(humidities != 0 && humidities < o.humidity + 1))
    (.insufficientGrid "humidity perturbation" humidities o.humidity)
  let temperatures ← t.temperaturePerturbations.length
  require (!(temperatures != 0 && temperatures < o.temperature + 1))
    (.insufficientGrid "temperature perturbation" temperatures o.temperature)

variable [Scalar α]

/-- The logarithms of the pressures were taken and are those of the present pressures. -/
def checkLog (t : Table α) : Outcome α Unit := do
  require (← t.hasLog) .notAdapted

/-- The checks of a single extraction, in their order. -/
def prepare (t : Table α) (o : Orders) (molecule : String) : Outcome α Extractor := do
  let humiditySpecies ← t.humiditySpecies molecule
  t.checkShape
  t.checkLog
  t.checkOrders o
  return ⟨o, humiditySpecies, ← t.layout⟩

/-- The checks of an extractor that is kept, in their order. -/
def bind (t : Table α) (o : Orders) (molecule : String) : Outcome α Extractor := do
  t.checkLog
  let humiditySpecies ← t.humiditySpecies molecule
  t.checkShape
  t.checkOrders o
  return ⟨o, humiditySpecies, ← t.layout⟩

/-- The first frequency and the number of frequencies that an index asks for: all of them if it is
negative. -/
def frequencyRange (t : Table α) (index : Int) : Outcome α (Nat × Nat) := do
  let frequencies ← t.frequencies.length
  if index < 0 then return (0, frequencies)
  else if frequencies ≤ index then refuse (.frequencyIndex index frequencies)
  else return (index.toNat, 1)

/-- The position of a pressure. Its range is checked on the pressures themselves, and its place is
taken among their logarithms. -/
def pressurePosition (t : Table α) (order : Int) (pressure : α) : Outcome α (Position α) := do
  let grid ← t.pressures.points
  let range ← Grid.extendedRange grid
  let allowed := { range with lower := Scalar.atLeastZero range.lower }
  match range.contains pressure, grid.getLast?, grid.head? with
  | false, some last, some first =>
    if t.pressures.hasRows then fail .wrongKind
    else refuse (.pressureRange pressure allowed (.outsideGrid last first))
  | _, _, _ =>
    if pressure ≤ 0 then refuse (.pressureRange pressure allowed .notPositive)
    else
      let logs ← orFail .wrongKind t.logPressures
      Grid.positionIn logs (Scalar.log pressure) order "pressure"

/-- A perturbation grid and the range it covers, if the table has perturbations. -/
def perturbations (a : Tensor α) (present : Bool) : Outcome α (Option (Tensor α × Bounds α)) :=
  if present then do
    let range ← Grid.rangeOf a
    return some (a, range)
  else .ok none

/-- The position of the temperature relative to the reference of a level. -/
def temperaturePosition (t : Table α) (order : Int) (air : Air α) (level : Nat)
    (axis : Option (Tensor α × Bounds α)) : Outcome α (Option (Position α)) :=
  match axis with
  | none => .ok none
  | some (grid, range) => do
    let reference ← t.referenceTemperature.entry [Int.ofNat level]
    let offset := air.temperature - reference.value
    if range.contains offset then
      return some (← Grid.positionIn grid offset order "temperature perturbation")
    else if reference.nested then fail .wrongKind
    else refuse (.temperatureRange offset range air.temperature air.pressure)

/-- The position of the humidity as a fraction of the reference of a level. Where the reference is
not positive the fraction is infinite. -/
def humidityPosition (t : Table α) (order species : Int) (air : Air α) (level : Nat)
    (axis : Option (Tensor α × Bounds α)) : Outcome α (Option (Position α)) :=
  match axis with
  | none => .ok none
  | some (grid, range) => do
    let reference ← t.referenceVmr.entry [species, Int.ofNat level]
    let fraction ←
      if 0 < reference.value then (air.vmr species).map fun vmr => some (vmr / reference.value)
      else .ok Scalar.infinity?
    let outside : Outcome α (Option (Position α)) := do
      let vmr ← air.vmr species
      if reference.nested then fail .wrongKind
      else refuse (.humidityRange fraction range species vmr air.pressure reference.value)
    match fraction with
    | some x =>
      if range.contains x then
        return some (← Grid.positionIn grid x order "humidity perturbation")
      else outside
    | none => outside

/-- The interpolated value of one species at one level and frequency. A species without an axis of
its own takes the first place on it. -/
def levelValue (t : Table α) (p : LevelPosition α) (level frequency : Nat) (isNonlinear : Bool)
    (block : Block) : Outcome α α :=
  let read (temperature humidity : Nat) : Outcome α α :=
    t.coefficients.valueAt [Int.ofNat temperature, Int.ofNat (block.offset + humidity),
      Int.ofNat frequency, Int.ofNat level]
  let inBlock (temperature humidity : Nat) : Outcome α α :=
    if humidity < block.length then read temperature humidity else fail .outOfBounds
  match p.temperature, isNonlinear, p.humidity with
  | some tp, true, some hp =>
    sumGrid (Grid.weightProducts tp.weights hp.weights) tp.indices hp.indices inBlock
  | some tp, false, _ => sumRows tp.weights tp.indices (read · 0)
  | none, true, some hp => sumRows hp.weights hp.indices (inBlock 0)
  | none, false, _ => read 0 0
  | _, true, none => fail .unplaced

/-- A nonlinear species needs a position in humidity, and a species that takes the first place on
an axis needs that place, whether there are frequencies or not. -/
def checkPlaces (p : LevelPosition α) (isNonlinear : Bool) (block : Block)
    (temperatures expanded : Nat) : Outcome α Unit :=
  if isNonlinear && p.humidity.isNone then fail .unplaced
  else if p.temperature.isNone && temperatures = 0 then fail .outOfBounds
  else if !isNonlinear && expanded ≤ block.offset then fail .outOfBounds
  else .ok ()

/-- The values of one species at one level, for up to `count` frequencies from `first` on:
frequencies that the coefficients do not have are left out. What is not interpolated may have
further axes. -/
def levelValues (t : Table α) (p : LevelPosition α) (level first count : Nat)
    (isNonlinear : Bool) (block : Block) : Outcome α (Tensor α) :=
  match t.coefficients.shape with
  | temperatures :: expanded :: stored :: _ :: further => do
    checkPlaces p isNonlinear block temperatures expanded
    let present := min count (stored - first)
    if further ≠ [] && p.temperature.isNone && !isNonlinear then
      return .ofFn (present :: further) fun q => match q with
        | f :: below =>
          (t.coefficients.get? (0 :: block.offset :: (first + f) :: level :: below)).getD 0
        | [] => 0
    else
      let values ← (List.range' first present).mapM fun f =>
        t.levelValue p level f isNonlinear block
      return .ofList values
  | _ => fail .outOfBounds

/-- The size of the only axis behind leading axes of size one. -/
def soleAxis? : List Nat → Option Nat
  | [n] => some n
  | n :: shape => if n = 1 then soleAxis? shape else none
  | [] => none

/-- Values for `count` frequencies: one value serves them all. -/
def spread (count : Nat) (values : Tensor α) : Outcome α (List α) :=
  match soleAxis? values.shape, values.toList with
  | some n, xs =>
    if n = count then .ok xs
    else match xs with
      | [x] => .ok (List.replicate count x)
      | _ => fail .malformed
  | none, _ => fail .malformed

/-- The coefficients have a level. -/
def checkLevel (t : Table α) (level : Nat) : Outcome α Unit :=
  match t.coefficients.shape with
  | _ :: _ :: _ :: pressures :: _ => if level < pressures then .ok () else fail .outOfBounds
  | _ => fail .outOfBounds

/-- The values at `count` frequencies of a species that has the index `species`. -/
def levelColumn (t : Table α) (p : LevelPosition α) (level first count species : Nat)
    (isNonlinear : Bool) (block : Block) : Outcome α (List α) := do
  let values ← t.levelValues p level first count isNonlinear block
  if t.species.length ≤ species then fail .outOfBounds
  else spread count values

end Table

variable [Scalar α]

/-- The interpolated table at one level. -/
def Extractor.sampleLevel (x : Extractor) (t : Table α) (air : Air α) (first count : Nat)
    (temperatures humidities : Option (Tensor α × Bounds α)) (level : Nat) :
    Outcome α (List (List α)) := do
  let tp ← t.temperaturePosition x.orders.temperature air level temperatures
  let hp ← t.humidityPosition x.orders.humidity x.humiditySpecies air level humidities
  t.checkLevel level
  (x.layout.nonlinear.zip x.layout.blocks).zipIdx.mapM fun s =>
    t.levelColumn ⟨tp, hp⟩ level first count s.2 s.1.1 s.1.2

/-- The interpolated table at the levels that take part for a state of the air. -/
def Extractor.sample (x : Extractor) (t : Table α) (air : Air α) (frequency : Int) :
    Outcome α (Sample α) := do
  let _ ← t.frequencies.length
  Table.require (air.vmrs.length == t.species.length)
    (.vmrCount t.species.length air.vmrs.length)
  let (first, count) ← t.frequencyRange frequency
  let pressures ← t.pressurePosition x.orders.pressure air.pressure
  let temperatureCount ← t.temperaturePerturbations.length
  let temperatures ← Table.perturbations t.temperaturePerturbations (temperatureCount != 0)
  let humidities ← Table.perturbations t.humidityPerturbations (!t.nonlinear.isEmpty)
  let levels ← pressures.indices.mapM (x.sampleLevel t air first count temperatures humidities)
  return ⟨pressures, count, t.species.length, levels⟩

/-- The value of one level at a frequency and a species; a species without values counts as zero. -/
def Sample.value (level : List (List α)) (frequency species : Nat) : α :=
  ((level[species]?).bind (·[frequency]?)).getD 0

/-- Absorption coefficients in 1/m by frequency and species: the levels combined, times the number
density of each species. -/
def Sample.absorption (s : Sample α) (air : Air α) : Outcome α (Tensor α) := do
  let density ← Gas.numberDensity air.pressure air.temperature
  return .ofFn [s.frequencies, s.species] fun p => match p with
    | [f, i] =>
      weightedSum s.pressures.weights (s.levels.map (Sample.value · f i)) *
        (density * air.vmrs.getD i 0)
    | _ => 0

/-- Absorption coefficients of a table for a state of the air. -/
def Extractor.run (x : Extractor) (t : Table α) (air : Air α) (frequency : Int) :
    Outcome α (Tensor α) := do
  (← x.sample t air frequency).absorption air

/-- Absorption coefficients from an extractor that was kept, for the table as it is now. -/
def Extractor.call (x : Extractor) (t : Table α) (air : Air α) (frequency : Int) :
    Outcome α (Tensor α) := do
  t.checkLog
  x.run t air frequency

/-- Absorption coefficients in a single extraction. -/
def Table.extract (t : Table α) (o : Orders) (molecule : String) (air : Air α) (frequency : Int) :
    Outcome α (Tensor α) := do
  (← t.prepare o molecule).run t air frequency

/-- The levels that take part, in words. -/
def Sample.note (s : Sample Float) (air : Air Float) : String :=
  "p=" ++ Decimal.generalText air.pressure ++ " Pa, T=" ++ Decimal.generalText air.temperature ++
    " K: pressure levels " ++ Wording.numbers (s.pressures.indices.map Int.ofNat)

end Absorption
