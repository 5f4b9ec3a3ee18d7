import Absorption.Proofs.Table.Tiling
import Absorption.Proofs.Tensor.Broadcast
import Absorption.Synthetic.Table

set_option autoImplicit false

/-!
The coefficients of a synthetic table whose grids have one axis each. The arrays that are laid side
by side belong to the places of the expanded axis, which are listed species by species, and so in
the order of the blocks that the finished table has (`getElem?_expandedAxis`). Stretched to their
common shape, the grids give each coefficient the cross section at its place
(`coefficients_filled`).
-/

namespace Absorption.Synthetic

/-- The places on the expanded axis that a species takes: for each the index of the species and the
humidity fraction, if the species has one. -/
def placesOf (nonlinear : List Int) (humidities : List Float) (i : Nat) :
    List (Nat × Option Float) :=
  if nonlinear.contains (Int.ofNat i) then humidities.map fun h => (i, some h) else [(i, none)]

/-- The places on the expanded axis that a list of species takes. -/
def expandedAxis (species : Nat) (nonlinear : List Int) (humidities : List Float) :
    List (Nat × Option Float) :=
  (List.range species).flatMap (placesOf nonlinear humidities)

section Axis

variable {t : Table Float} {humidities : List Float}

theorem sized_placesOf (t : Table Float) (humidities : List Float) :
    Sized humidities.length (placesOf t.nonlinear humidities) (List.range t.species.length)
      t.flags := by
  rw [Table.flags, Sized, List.forall₂_map_right_iff, List.forall₂_same]
  intro i _
  rw [placesOf, List.contains_eq_mem]
  by_cases marked : Int.ofNat i ∈ t.nonlinear
  · have marked' : (i : Int) ∈ t.nonlinear := marked
    simp [marked']
  · have marked' : (i : Int) ∉ t.nonlinear := marked
    simp [marked']

theorem length_expandedAxis (t : Table Float) (humidities : List Float) :
    (expandedAxis t.species.length t.nonlinear humidities).length =
      extent humidities.length t.flags :=
  length_flatMap_of_sized (sized_placesOf t humidities)

/-- The places of a species lie where its block is. -/
theorem getElem?_expandedAxis {i e : Nat} {b : Block} (species : i < t.species.length)
    (block : (blocksFrom humidities.length 0 t.flags)[i]? = some b) (inside : e < b.length) :
    (expandedAxis t.species.length t.nonlinear humidities)[b.offset + e]? =
      (placesOf t.nonlinear humidities i)[e]? := by
  have place : (List.range t.species.length)[i]? = some i := List.getElem?_range species
  exact (getElem?_flatMap_of_sized (sized_placesOf t humidities) block place inside).2

end Axis

/-- The humidity fractions of a grid with one axis are its numbers. -/
theorem fractions_ofList (humidities : List Float) :
    fractions (.ofList humidities) = .ok (humidities.map .alone) := by
  have parts : (List.range humidities.length).filterMap
      (fun i => (Tensor.ofList humidities).part? [Int.ofNat i]) =
        (List.range humidities.length).map fun i => Tensor.alone (humidities.getD i 0.0) := by
    rw [← List.filterMap_eq_map]
    refine List.filterMap_congr fun i inside => ?_
    have bound := List.mem_range.mp inside
    rw [Tensor.part?_ofList bound, Function.comp_apply, List.getD_eq_getElem?_getD,
      List.getElem?_eq_getElem bound, Option.getD_some]
  simp only [fractions, Tensor.length, Tensor.shape_ofList, ok_bind, parts, pure_eq_ok]
  apply List.ext_getElem (by simp)
  intro i bound bound'
  rw [List.length_map, List.length_range] at bound
  simp [bound]

variable [Powers]

theorem power_unitAxis (t : Tensor Float) (k : Nat) :
    power (t.unitAxis k).shape = powerInArray := by
  rw [power, if_neg (by simp [Tensor.unitAxis])]

/-- The temperatures by offset and pressure. -/
theorem temperatures_ofList (pressures offsets : List Float) :
    ∃ T, temperatures (.ofList pressures) (.ofList offsets) = .ok T ∧
      T.shape = [offsets.length, pressures.length] ∧
      ∀ a l offset pressure, offsets[a]? = some offset → pressures[l]? = some pressure →
        T.get? [a, l] = some (referenceTemperature pressure + offset) := by
  have common : Tensor.commonShape (((Tensor.ofList pressures).map referenceTemperature).unitAxis
      0).shape ((Tensor.ofList offsets).unitAxis 1).shape =
        some [offsets.length, pressures.length] := by
    simp [Tensor.commonShape, Tensor.unitAxis]
  obtain ⟨T, combined, shape, entries⟩ := Tensor.get?_combine (· + ·) 0.0 common
  refine ⟨T, ?_, shape, ?_⟩
  · rw [temperatures, if_neg (by simp), combined]
    rfl
  · intro a l offset pressure warm low
    have inside := (List.getElem?_eq_some_iff.mp warm).1
    have inside' := (List.getElem?_eq_some_iff.mp low).1
    apply entries _ _ _ (.cons inside (.cons inside' .nil))
    · simp [Tensor.stretched?_unitAxis_zero, Tensor.stretched?_map, Tensor.stretched?_ofList low]
    · simp [Tensor.stretched?_unitAxis_one, Tensor.stretched?_ofList warm]

/-- On grids with one axis each the cross sections stand by offset, frequency and pressure. -/
theorem crossSections_ofList (index scale : Float) (frequencies pressures : List Float)
    {T : Tensor Float} {n : Nat} (shape : T.shape = [n, pressures.length])
    (humidity : Option Float) :
    ∃ c, crossSections index (((Tensor.ofList frequencies).unitAxis 0).unitAxis 2)
        (((Tensor.ofList pressures).unitAxis 0).unitAxis 0) (T.unitAxis 1) (humidity.map .alone)
        scale = .ok c ∧ c.shape = [n, frequencies.length, pressures.length] ∧
      ∀ a f l frequency pressure temperature, frequencies[f]? = some frequency →
        pressures[l]? = some pressure → T.get? [a, l] = some temperature →
        c.get? [a, f, l] = some (crossSection powerInArray powerInArray index frequency pressure
          temperature humidity scale) := by
  have common : Tensor.commonShapes ([(((Tensor.ofList frequencies).unitAxis 0).unitAxis 2).shape,
      (((Tensor.ofList pressures).unitAxis 0).unitAxis 0).shape, (T.unitAxis 1).shape] ++
        ((humidity.map Tensor.alone).map Tensor.shape).toList) =
          some [n, frequencies.length, pressures.length] := by
    cases humidity <;>
      simp [Tensor.commonShapes, Tensor.commonShape, Tensor.unitAxis, shape]
  refine ⟨_, by rw [crossSections, common], rfl, ?_⟩
  intro a f l frequency pressure temperature known low warm
  have frequencyRead : (((Tensor.ofList frequencies).unitAxis 0).unitAxis 2).stretched? [a, f, l] =
      some frequency := by
    simp [Tensor.stretched?_unitAxis_two, Tensor.stretched?_unitAxis_zero,
      Tensor.stretched?_ofList known]
  have pressureRead : (((Tensor.ofList pressures).unitAxis 0).unitAxis 0).stretched? [a, f, l] =
      some pressure := by
    simp [Tensor.stretched?_unitAxis_zero, Tensor.stretched?_ofList low]
  have within : List.Forall₂ (· < ·) [a, l] T.shape :=
    Tensor.get?_isSome.mp (by rw [warm]; rfl)
  have temperatureRead : (T.unitAxis 1).stretched? [a, f, l] = some temperature := by
    simp [Tensor.stretched?_unitAxis_one, shape, Tensor.stretched?_of_within within, warm]
  rw [shape, List.forall₂_cons] at within
  have inside : List.Forall₂ (· < ·) [a, f, l] [n, frequencies.length, pressures.length] :=
    .cons within.1 (.cons (List.getElem?_eq_some_iff.mp known).1 within.2)
  rw [Tensor.get?_ofFn, if_pos (Tensor.place?_isSome.mpr inside)]
  simp only [frequencyRead, pressureRead, temperatureRead, Option.getD_some, power_unitAxis]
  cases humidity with
  | none => rfl
  | some h => simp only [Option.map_some, Tensor.stretched?_alone, Option.getD_some]

/-- The arrays of a species belong to its places, if those of any place can be made. -/
theorem layers_eq_map {r : Recipe} {T : Tensor Float} {layer : Nat × Option Float → Tensor Float}
    (made : ∀ place, crossSections place.1.toFloat ((r.frequencies.unitAxis 0).unitAxis 2)
      ((r.pressures.unitAxis 0).unitAxis 0) (T.unitAxis 1) (place.2.map .alone) r.scale =
        .ok (layer place)) (nonlinear : List Int) (humidities : List Float) (species : Nat) :
    layers r nonlinear (.ofList humidities) T species =
      .ok ((placesOf nonlinear humidities species).map layer) := by
  rw [layers, placesOf]
  split
  · rw [fractions_ofList, ok_bind, mapM_eq_ok, List.forall₂_map_left_iff, List.map_map,
      List.forall₂_map_right_iff, List.forall₂_same]
    intro h _
    have one := made (species, some h)
    simp only [Option.map_some] at one
    simp only [one]
    rfl
  · have one := made (species, none)
    simp only [Option.map_none] at one
    simp only [one]
    rfl

/-- What the coefficients of a recipe are: each is the cross section at its offset, place, frequency
and pressure. -/
structure Recipe.Filled (r : Recipe) (nonlinear : List Int) (offsets humidities : List Float)
    (c : Tensor Float) : Prop where
  shape : c.shape = [offsets.length, (expandedAxis r.species.length nonlinear humidities).length,
    r.frequencies.toList.length, r.pressures.toList.length]
  entry : ∀ a j f l offset place frequency pressure, offsets[a]? = some offset →
    (expandedAxis r.species.length nonlinear humidities)[j]? = some place →
    r.frequencies.toList[f]? = some frequency → r.pressures.toList[l]? = some pressure →
    c.get? [a, j, f, l] = some (crossSection powerInArray powerInArray place.1.toFloat frequency
      pressure (referenceTemperature pressure + offset) place.2 r.scale)

theorem coefficients_filled {r : Recipe} (frequencies : r.frequencies.IsVector)
    (pressures : r.pressures.IsVector) {nonlinear : List Int} (offsets : List Float)
    {humidities : List Float} (some : expandedAxis r.species.length nonlinear humidities ≠ []) :
    ∃ c, coefficients r nonlinear (.ofList offsets) (.ofList humidities) = .ok c ∧
      r.Filled nonlinear offsets humidities c := by
  obtain ⟨T, temperatures, wide, warmth⟩ := temperatures_ofList r.pressures.toList offsets
  have each (place : Nat × Option Float) := crossSections_ofList place.1.toFloat r.scale
    r.frequencies.toList r.pressures.toList wide place.2
  choose layer made shape entry using each
  rw [← frequencies.eq_ofList, ← pressures.eq_ofList] at made
  have listed : (List.range r.species.length).mapM (layers r nonlinear (.ofList humidities) T) =
      .ok ((List.range r.species.length).map fun i =>
        (placesOf nonlinear humidities i).map layer) :=
    mapM_eq_map fun i _ => layers_eq_map made nonlinear humidities i
  have flat : ((List.range r.species.length).map fun i =>
      (placesOf nonlinear humidities i).map layer).flatten =
        (expandedAxis r.species.length nonlinear humidities).map layer := by
    rw [expandedAxis, List.map_flatMap, List.flatMap_def]
  have alike : ∀ l ∈ (expandedAxis r.species.length nonlinear humidities).map layer,
      l.shape = offsets.length :: [r.frequencies.toList.length, r.pressures.toList.length] := by
    intro l member
    obtain ⟨place, _, rfl⟩ := List.mem_map.mp member
    exact shape place
  obtain ⟨c, joined, size, entries⟩ := Tensor.get?_layered (by simpa using some) alike
  refine ⟨c, ?_, ?_, ?_⟩
  · rw [coefficients, pressures.eq_ofList, temperatures, ok_bind,
      if_neg (by simp [show r.frequencies.shape = _ from frequencies]), listed, ok_bind, flat,
      joined]
    rfl
  · rw [size, List.length_map]
  · intro a j f l offset place frequency pressure warm here known low
    have value := entry place a f l frequency pressure _ known low (warmth a l _ _ warm low)
    rw [entries a j [f, l] (layer place) (by rw [List.getElem?_map, here]; rfl)
      (by rw [value]; rfl), value]

end Absorption.Synthetic
