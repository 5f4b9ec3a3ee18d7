import Absorption.Proofs.Binary64.Difference
import Absorption.Proofs.Synthetic.Coefficients

set_option autoImplicit false

/-!
Synthetic tables are consistent. The indices of the nonlinear species are put in order, each once
(`sortedOnce_pairwise`), and each coefficient is the cross section of arrays with a single state. It
is that of numbers alone as well wherever these are raised to the same powers.
-/

namespace Absorption.Synthetic

section SortedOnce

theorem eraseReps_cons_cons (a b : Int) (xs : List Int) : (a :: b :: xs).eraseReps =
    if a = b then (b :: xs).eraseReps else a :: (b :: xs).eraseReps := by
  have loop (c : Int) (ys acc : List Int) : List.eraseRepsBy.loop (· == ·) c ys acc =
      acc.reverse ++ List.eraseRepsBy.loop (· == ·) c ys [] := by
    induction ys generalizing c acc with
    | nil => simp [List.eraseRepsBy.loop]
    | cons d ys ih =>
        rw [List.eraseRepsBy.loop, List.eraseRepsBy.loop]
        split
        · exact ih c acc
        · rw [ih d (c :: acc), ih d [c]]
          simp
  simp only [List.eraseReps, List.eraseRepsBy]
  rw [List.eraseRepsBy.loop]
  by_cases same : a = b
  · simp [same]
  · rw [if_neg same, show (a == b) = false by simpa using same]
    simp only
    rw [loop b xs [a]]
    rfl

theorem mem_eraseReps {xs : List Int} {i : Int} : i ∈ xs.eraseReps ↔ i ∈ xs := by
  induction xs with
  | nil => rfl
  | cons a xs ih =>
      cases xs with
      | nil => rfl
      | cons b xs =>
          rw [eraseReps_cons_cons]
          split
          · next same => rw [ih, same, List.mem_cons (l := b :: xs), List.mem_cons, or_self_left]
          · rw [List.mem_cons, ih, ← List.mem_cons]

/-- Of a list in order each entry is kept once. -/
theorem eraseReps_pairwise {xs : List Int} (ordered : xs.Pairwise (· ≤ ·)) :
    xs.eraseReps.Pairwise (· < ·) := by
  induction xs with
  | nil => exact .nil
  | cons a xs ih =>
      obtain ⟨least, rest⟩ := List.pairwise_cons.mp ordered
      cases xs with
      | nil => exact List.pairwise_singleton _ _
      | cons b xs =>
          rw [eraseReps_cons_cons]
          split
          · exact ih rest
          · next apart =>
              refine List.pairwise_cons.mpr ⟨fun c member => ?_, ih rest⟩
              have first := least b List.mem_cons_self
              obtain rfl | later := List.mem_cons.mp (mem_eraseReps.mp member)
              · exact lt_of_le_of_ne first apart
              · have next := (List.pairwise_cons.mp rest).1 c later
                omega

theorem mem_sortedOnce {xs : List Int} {i : Int} : i ∈ sortedOnce xs ↔ i ∈ xs := by
  rw [sortedOnce, mem_eraseReps, List.mem_mergeSort]

theorem sortedOnce_pairwise (xs : List Int) : (sortedOnce xs).Pairwise (· < ·) := by
  have ordered : (xs.mergeSort (· ≤ ·)).Pairwise (fun a b => decide (a ≤ b) = true) :=
    List.pairwise_mergeSort (by simp only [decide_eq_true_eq]; omega) (by simp; omega) xs
  exact eraseReps_pairwise (ordered.imp of_decide_eq_true)

end SortedOnce

/-- What a recipe is asked for: species, grids that run in their directions, and humidities where
there are nonlinear species. Species are as many as an index can tell apart. -/
structure Recipe.Sound (r : Recipe) : Prop where
  species : r.species ≠ []
  indexed : r.species.length ≤ 2 ^ 63
  existing : ∀ i ∈ r.nonlinear, 0 ≤ i ∧ i < r.species.length
  frequencies : r.frequencies.IsVector ∧ r.frequencies.toList.Pairwise (· < ·)
  pressures : r.pressures.IsVector ∧ r.pressures.toList.Pairwise (fun a b => b < a)
  temperatures : r.temperaturePerturbations.IsVector ∧
    r.temperaturePerturbations.toList.Pairwise (· < ·)
  humidities : r.nonlinear ≠ [] → r.humidityPerturbations.IsVector ∧
    r.humidityPerturbations.toList.Pairwise (· < ·) ∧ r.humidityPerturbations.toList ≠ []

/-- The humidity axis of the table. -/
def Recipe.humidityAxis (r : Recipe) : Tensor Float :=
  if r.nonlinear.isEmpty then .ofList [] else r.humidityPerturbations

/-- The temperature offsets at which cross sections are taken. -/
def Recipe.offsets (r : Recipe) : List Float :=
  if r.temperaturePerturbations.toList.length = 0 then [0.0] else r.temperaturePerturbations.toList

/-- The humidity fraction of a species at one of its places: only nonlinear species have any. -/
def Recipe.humidity? (r : Recipe) (species place : Nat) : Option Float :=
  if (species : Int) ∈ r.nonlinear then r.humidityPerturbations.toList[place]? else none

/-- The table is what a recipe makes, whether its logarithms were taken or not. -/
structure Makes [Powers] (r : Recipe) (t : Table Float) : Prop where
  species : t.species = r.species
  nonlinear : t.nonlinear = sortedOnce r.nonlinear
  frequencies : t.frequencies = r.frequencies
  pressures : t.pressures = r.pressures
  referenceVmr : t.referenceVmr.shape = r.species.length :: r.pressures.shape
  referenceTemperature : t.referenceTemperature = r.pressures.map referenceTemperature
  temperatures : t.temperaturePerturbations = r.temperaturePerturbations
  humidities : t.humidityPerturbations = r.humidityAxis
  coefficients : r.Filled t.nonlinear r.offsets t.humidityPerturbations.toList t.coefficients

namespace Recipe.Sound

variable {r : Recipe} (sound : r.Sound)
include sound

theorem fitsIndex : (sortedOnce r.nonlinear).all Table.fitsIndex = true := by
  rw [List.all_eq_true]
  intro i member
  obtain ⟨lower, upper⟩ := sound.existing i (mem_sortedOnce.mp member)
  have most := sound.indexed
  simp only [Table.fitsIndex, Bool.and_eq_true, decide_eq_true_eq]
  omega

theorem isVector_humidityAxis : r.humidityAxis.IsVector := by
  rw [humidityAxis]
  split
  · exact Tensor.isVector_ofList []
  · next some => exact (sound.humidities (by simpa using some)).1

/-- There are places for all species, since each takes one at least. -/
theorem expandedAxis_ne_nil : expandedAxis r.species.length (sortedOnce r.nonlinear)
    r.humidityAxis.toList ≠ [] := by
  intro none
  have places := List.flatMap_eq_nil_iff.mp none 0
    (List.mem_range.mpr (List.length_pos_of_ne_nil sound.species))
  rw [placesOf] at places
  split at places
  · next marked =>
      have nonlinear := List.ne_nil_of_mem (mem_sortedOnce.mp (List.contains_iff_mem.mp marked))
      rw [humidityAxis, if_neg (by simpa using nonlinear), List.map_eq_nil_iff] at places
      exact (sound.humidities nonlinear).2.2 places
  · exact absurd places (List.cons_ne_nil _ _)

theorem table_makes [Powers] : ∃ t, table r = .ok t ∧ Makes r t := by
  obtain ⟨c, filled, entries⟩ := coefficients_filled sound.frequencies.1 sound.pressures.1
    r.offsets sound.expandedAxis_ne_nil
  have offsets : (if r.temperaturePerturbations.toList.length = 0 then Tensor.ofList [0.0]
      else r.temperaturePerturbations) = .ofList r.offsets := by
    rw [Recipe.offsets]
    split
    · rfl
    · exact sound.temperatures.1.eq_ofList
  have axis : (if r.nonlinear.isEmpty then Tensor.ofList [] else r.humidityPerturbations) =
      .ofList r.humidityAxis.toList := sound.isVector_humidityAxis.eq_ofList
  rw [table, sound.temperatures.1.length]
  simp only [ok_bind, axis, offsets, filled, sound.fitsIndex, Bool.not_true, Bool.false_eq_true,
    ↓reduceIte, pure_eq_ok, exists_eq_left']
  have humidities := sound.isVector_humidityAxis.eq_ofList
  split <;> exact ⟨rfl, rfl, rfl, rfl, rfl, rfl, rfl, humidities.symm, entries⟩

end Recipe.Sound

namespace Makes

variable [Powers] {r : Recipe} {t : Table Float} (makes : Makes r t) (sound : r.Sound)
include makes sound

theorem vectorGrids : t.VectorGrids where
  frequencies := by
    rw [makes.frequencies]
    exact sound.frequencies.1
  pressures := by
    rw [makes.pressures]
    exact sound.pressures.1
  temperatures := by
    rw [makes.temperatures]
    exact sound.temperatures.1
  humidities := by
    rw [makes.humidities]
    exact sound.isVector_humidityAxis

omit sound in
theorem mem_nonlinear {i : Int} : i ∈ t.nonlinear ↔ i ∈ r.nonlinear := by
  rw [makes.nonlinear, mem_sortedOnce]

theorem existing : ∀ i ∈ t.nonlinear, 0 ≤ i ∧ i < t.species.length := by
  intro i member
  rw [makes.species]
  exact sound.existing i (makes.mem_nonlinear.mp member)

omit sound in
theorem ascending : t.nonlinear.Pairwise (· < ·) := by
  rw [makes.nonlinear]
  exact sortedOnce_pairwise _

omit sound in
theorem nonlinear_eq_nil : t.nonlinear = [] ↔ r.nonlinear = [] := by
  simp only [List.eq_nil_iff_forall_not_mem, makes.mem_nonlinear]

omit sound in
theorem length_offsets : r.offsets.length = max t.temperaturePerturbations.toList.length 1 := by
  rw [makes.temperatures, Recipe.offsets]
  split
  · next none => rw [none]; rfl
  · next some => exact (Nat.max_eq_left (Nat.pos_of_ne_zero some)).symm

/-- The parts of the table fit together. -/
theorem consistent : t.Consistent where
  species := by
    rw [makes.species]
    exact sound.species
  ascending := makes.ascending
  existing := makes.existing sound
  pressures := by
    rw [makes.pressures, Grid.isDecreasing_iff]
    exact sound.pressures.2
  temperatures := by
    rw [makes.temperatures, Grid.isIncreasing_iff]
    exact sound.temperatures.2
  humidities := by
    rw [makes.humidities, Grid.isIncreasing_iff, Recipe.humidityAxis]
    split
    · exact .nil
    · next some => exact (sound.humidities (by simpa using some)).2.1
  referenceVmr := by
    rw [makes.referenceVmr, makes.species, makes.pressures,
      show r.pressures.shape = _ from sound.pressures.1]
  referenceTemperature := by
    rw [makes.referenceTemperature, makes.pressures]
    exact sound.pressures.1
  perturbed := by
    rw [makes.humidities, makes.nonlinear_eq_nil, Recipe.humidityAxis]
    by_cases none : r.nonlinear = []
    · simp [none]
    · simp [none, (sound.humidities none).2.2]
  coefficients := by
    rw [(makes.vectorGrids sound).expectedShape_eq_extent makes.ascending (makes.existing sound),
      makes.coefficients.shape, makes.length_offsets, ← makes.species, ← makes.frequencies,
      ← makes.pressures, length_expandedAxis]
  frequencies := by
    rw [makes.frequencies, Grid.isIncreasing_iff]
    exact sound.frequencies.2

omit sound in
/-- A species has the humidities along its block, if it is nonlinear. -/
theorem getElem?_placesOf {s e : Nat} {b : Block} (block : t.blocks[s]? = some b)
    (inside : e < b.length) :
    ((r.humidity? s e).isSome ↔ (s : Int) ∈ r.nonlinear) ∧
      (placesOf t.nonlinear t.humidityPerturbations.toList s)[e]? = some (s, r.humidity? s e) := by
  have species := Table.lt_of_block block
  rw [Table.blocks, getElem?_blocksFrom, Table.getElem?_flags, if_pos species, Option.map_some,
    Option.some.injEq] at block
  subst block
  by_cases marked : (s : Int) ∈ r.nonlinear
  · have marked' : (s : Int) ∈ t.nonlinear := makes.mem_nonlinear.mpr marked
    have axis : t.humidityPerturbations = r.humidityPerturbations := by
      rw [makes.humidities, Recipe.humidityAxis, if_neg (by simpa using List.ne_nil_of_mem marked)]
    simp only [marked', decide_true, ↓reduceIte, axis] at inside
    simp [placesOf, Recipe.humidity?, marked, marked', axis, inside]
  · have marked' : (s : Int) ∉ t.nonlinear := mt makes.mem_nonlinear.mp marked
    simp only [marked', decide_false, Bool.false_eq_true, ↓reduceIte, Nat.lt_one_iff] at inside
    simp [placesOf, Recipe.humidity?, marked, marked', inside]

end Makes

section Single

variable [Powers] (index frequency pressure temperature : Float) (humidity : Option Float)
  (scale : Float)

/-- The cross section of arrays with a single state. -/
theorem crossSections_single :
    crossSections index (.ofList [frequency]) (.ofList [pressure]) (.ofList [temperature])
      (humidity.map fun h => .ofList [h]) scale = .ok (.ofList [crossSection powerInArray
        powerInArray index frequency pressure temperature humidity scale]) := by
  cases humidity <;> rfl

/-- The cross section of numbers alone. -/
theorem crossSections_alone :
    crossSections index (.alone frequency) (.alone pressure) (.alone temperature)
      (humidity.map .alone) scale = .ok (.alone (crossSection Powers.ofNumber Powers.ofNumber index
        frequency pressure temperature humidity scale)) := by
  cases humidity <;> rfl

end Single

/-- At a pressure and a temperature a number alone is raised to the powers that a cross section
takes as one in an array is. -/
structure PowersAgree [Powers] (pressure temperature : Float) : Prop where
  pressure : Powers.ofNumber (pressure / 1e5) 0.5 = Float.sqrt (pressure / 1e5)
  temperature : Powers.ofNumber (300.0 / temperature) 1.5 = Powers.ofArray (300.0 / temperature) 1.5

theorem PowersAgree.crossSection_eq [Powers] {pressure temperature : Float}
    (agree : PowersAgree pressure temperature) (index frequency : Float) (humidity : Option Float)
    (scale : Float) :
    crossSection Powers.ofNumber Powers.ofNumber index frequency pressure temperature humidity
      scale = crossSection powerInArray powerInArray index frequency pressure temperature humidity
        scale := by
  have root (x : Float) : powerInArray x 0.5 = Float.sqrt x := if_pos (by decide +kernel)
  have power (x : Float) : powerInArray x 1.5 = Powers.ofArray x 1.5 := if_neg (by decide +kernel)
  simp only [crossSection, agree.pressure, agree.temperature, root, power]

/-- A recipe makes a table that is consistent, and in which each coefficient is the cross section of
its species at its frequency, pressure, temperature and, for a nonlinear species, humidity: that of
arrays with this state only, and that of these numbers where their powers are the same. -/
theorem table_consistent [Powers] {r : Recipe} (sound : r.Sound) : ∃ t layout, table r = .ok t ∧
    t.validate = .ok () ∧ t.layout = .ok layout ∧ t.species = r.species ∧
    (∀ i, i ∈ t.nonlinear ↔ i ∈ r.nonlinear) ∧ t.frequencies = r.frequencies ∧
    t.pressures = r.pressures ∧ t.temperaturePerturbations = r.temperaturePerturbations ∧
    t.humidityPerturbations = r.humidityAxis ∧
    ∀ s b a e f l, layout.blocks[s]? = some b → a < r.offsets.length → e < b.length →
      f < r.frequencies.toList.length → l < r.pressures.toList.length →
      ((r.humidity? s e).isSome ↔ (s : Int) ∈ r.nonlinear) ∧
      ∃ offset frequency pressure reference x, r.offsets[a]? = some offset ∧
        r.frequencies.toList[f]? = some frequency ∧ r.pressures.toList[l]? = some pressure ∧
        t.referenceTemperature.toList[l]? = some reference ∧
        t.coefficients.get? [a, b.offset + e, f, l] = some x ∧
        crossSections s.toFloat (.ofList [frequency]) (.ofList [pressure])
          (.ofList [reference + offset]) ((r.humidity? s e).map fun h => .ofList [h]) r.scale =
            .ok (.ofList [x]) ∧
        (PowersAgree pressure (reference + offset) →
          crossSections s.toFloat (.alone frequency) (.alone pressure) (.alone (reference + offset))
            ((r.humidity? s e).map .alone) r.scale = .ok (.alone x)) := by
  obtain ⟨t, made, makes⟩ := sound.table_makes
  have grids := makes.vectorGrids sound
  refine ⟨t, ⟨t.flags, t.blocks⟩, made, grids.validate_eq_ok_iff.mpr (makes.consistent sound),
    grids.layout_eq (makes.existing sound), makes.species, fun i => makes.mem_nonlinear,
    makes.frequencies, makes.pressures, makes.temperatures, makes.humidities, ?_⟩
  intro s b a e f l block warm inside known low
  obtain ⟨humidity, place⟩ := makes.getElem?_placesOf block inside
  have species := Table.lt_of_block block
  have axis := getElem?_expandedAxis species block inside
  rw [place, makes.species] at axis
  have pressure := List.getElem?_eq_getElem low
  refine ⟨humidity, _, _, _, _, _, List.getElem?_eq_getElem warm, List.getElem?_eq_getElem known,
    pressure, ?_, makes.coefficients.entry a _ f l _ _ _ _ (List.getElem?_eq_getElem warm) axis
      (List.getElem?_eq_getElem known) pressure, crossSections_single _ _ _ _ _ _, ?_⟩
  · rw [makes.referenceTemperature, Tensor.toList_map, List.getElem?_map, pressure,
      Option.map_some]
  · intro agree
    rw [crossSections_alone, agree.crossSection_eq]

/-- Nonlinear species out of order and one of them twice, and no temperature axis. -/
def twiceRecipe : Recipe where
  species := ["O2", "H2O", "N2", "H2O-PWR98"]
  nonlinear := [3, 1, 3]
  frequencies := .ofList [1e11, 2e11]
  pressures := .ofList [1e5, 5e4]
  temperaturePerturbations := .ofList []
  humidityPerturbations := .ofList [0.5, 2.0]

theorem sound_twiceRecipe : twiceRecipe.Sound where
  species := by decide
  indexed := by decide
  existing := by decide
  frequencies := ⟨rfl, show [1e11, 2e11].Pairwise (fun a b : Float => a < b) by decide +kernel⟩
  pressures := ⟨rfl, show [1e5, 5e4].Pairwise (fun a b : Float => b < a) by decide +kernel⟩
  temperatures := ⟨rfl, .nil⟩
  humidities _ := ⟨rfl, show [0.5, 2.0].Pairwise (fun a b : Float => a < b) by decide +kernel,
    List.cons_ne_nil _ _⟩

/-- Powers that are roots where the exponent is one half, of a number alone too. -/
@[reducible] def rooted : Powers where
  ofNumber x exponent := if exponent == 0.5 then Float.sqrt x else Float.pow x exponent
  ofArray := Float.pow

theorem powersAgree_rooted (pressure temperature : Float) :
    @PowersAgree rooted pressure temperature :=
  let _ := rooted
  ⟨if_pos (by decide +kernel), if_neg (by decide +kernel)⟩

/-- The second humidity of the last species stands at the last of the six places. -/
theorem table_twiceRecipe : ∃ t layout x, twiceRecipe.Sound ∧ @table rooted twiceRecipe = .ok t ∧
    t.validate = .ok () ∧ t.layout = .ok layout ∧ layout.blocks[3]? = some ⟨4, 2⟩ ∧
    t.coefficients.get? [0, 5, 1, 0] = some x ∧
    @crossSections rooted (3 : Nat).toFloat (.alone 2e11) (.alone 1e5)
      (.alone (@referenceTemperature rooted 1e5 + 0.0)) (some (.alone 2.0)) 1e-24 =
        .ok (.alone x) := by
  let _ := rooted
  have ordered : sortedOnce [3, 1, 3] = [1, 3] := by cbv
  obtain ⟨t, layout, made, valid, laidOut, _, _, _, _, _, _, entries⟩ :=
    table_consistent sound_twiceRecipe
  obtain ⟨t', made', makes⟩ := sound_twiceRecipe.table_makes
  cases made'.symm.trans made
  have places := laidOut.symm.trans
    ((makes.vectorGrids sound_twiceRecipe).layout_eq (makes.existing sound_twiceRecipe))
  cases places
  have flags : t.flags = [false, true, false, true] := by
    rw [Table.flags, makes.species, makes.nonlinear.trans ordered]
    decide
  have block : t.blocks[3]? = some ⟨4, 2⟩ := by
    rw [Table.blocks, flags, makes.humidities]
    decide
  obtain ⟨_, offset, frequency, pressure, reference, x, warm, known, low, profile, entry, _,
    value⟩ := entries 3 ⟨4, 2⟩ 0 1 1 0 block (by decide) (by decide) (by decide) (by decide)
  rw [makes.referenceTemperature, Tensor.toList_map, List.getElem?_map, low, Option.map_some]
    at profile
  cases warm
  cases known
  cases low
  cases profile
  exact ⟨t, _, x, sound_twiceRecipe, made, valid, laidOut, block, entry,
    value (powersAgree_rooted _ _)⟩

/-- One linear species at one frequency, at a pressure whose reference temperature is 210 K, and
90 K above it. -/
def lowRecipe : Recipe where
  species := ["O2"]
  nonlinear := []
  frequencies := .ofList [1e11]
  pressures := .ofList [521.0]
  temperaturePerturbations := .ofList [90.0]

theorem sound_lowRecipe : lowRecipe.Sound where
  species := by decide
  indexed := by decide
  existing := by decide
  frequencies := ⟨rfl, List.pairwise_singleton _ _⟩
  pressures := ⟨rfl, List.pairwise_singleton _ _⟩
  temperatures := ⟨rfl, List.pairwise_singleton _ _⟩
  humidities some := absurd rfl some

/-- The powers of 0.00521 and of one that this recipe takes. The root of 0.00521 lies so close to
the middle of two numbers that a number alone is rounded to the lower one, and the root to the
upper. -/
@[reducible] def rounded : Powers where
  ofNumber _ exponent := if exponent == 0.5 then 0.07218032973047435 else 1.0
  ofArray _ exponent := if exponent == 0.19 then 0.36829783628802 else 1.0

/-- A coefficient need not be the cross section of numbers alone. -/
theorem coefficient_ne_crossSection : ∃ t layout x y, lowRecipe.Sound ∧
    @table rounded lowRecipe = .ok t ∧ t.layout = .ok layout ∧ layout.blocks[0]? = some ⟨0, 1⟩ ∧
    t.referenceTemperature.toList[0]? = some 210.0 ∧
    t.coefficients.get? [0, 0, 0, 0] = some x ∧
    @crossSections rounded (0 : Nat).toFloat (.alone 1e11) (.alone 521.0) (.alone (210.0 + 90.0))
      none lowRecipe.scale = .ok (.alone y) ∧ (x == y) = false := by
  let _ := rounded
  obtain ⟨t, made, makes⟩ := sound_lowRecipe.table_makes
  have laidOut := (makes.vectorGrids sound_lowRecipe).layout_eq (makes.existing sound_lowRecipe)
  have linear : t.nonlinear = [] := makes.nonlinear_eq_nil.mpr rfl
  have block : t.blocks[0]? = some ⟨0, 1⟩ := by
    rw [Table.blocks, Table.flags, makes.species, linear, makes.humidities]
    decide
  have axis : (expandedAxis lowRecipe.species.length t.nonlinear
      t.humidityPerturbations.toList)[0]? = some (0, none) := by
    rw [linear]
    rfl
  refine ⟨t, _, _, _, sound_lowRecipe, made, laidOut, block, ?_,
    makes.coefficients.entry 0 0 0 0 90.0 (0, none) 1e11 521.0 rfl axis rfl rfl,
    crossSections_alone _ _ _ _ none _, ?_⟩
  · have lowest : referenceTemperature 521.0 = 210.0 := by decide +kernel
    rw [makes.referenceTemperature, Tensor.toList_map, List.getElem?_map,
      show lowRecipe.pressures.toList[0]? = some 521.0 from rfl, Option.map_some, lowest]
  · decide +kernel

end Absorption.Synthetic
