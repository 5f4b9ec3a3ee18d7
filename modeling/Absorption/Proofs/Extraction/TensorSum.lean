import Absorption.Proofs.Extraction.Course
import Absorption.Proofs.WeightedSum

set_option autoImplicit false

/-!
Extraction as one sum. In exact arithmetic each extracted coefficient is the number density times a
sum over the nodes of all axes, whichever axes take part: an axis that does not is summed over its
first place with weight one (`levelValue_eq_total`, `Course.get?_result`).
-/

namespace Absorption

variable {α : Type} [Exact α]

namespace Table

/-- A coefficient of a table; what it does not hold counts as zero. -/
def coefficient (t : Table α) (temperature expanded frequency level : Nat) : α :=
  (t.coefficients.get? [temperature, expanded, frequency, level]).getD 0

theorem mapM_read {t : Table α} {nodes : List Nat} {read : Nat → Outcome α α}
    (place : Nat → List Nat) {values : List α}
    (step : ∀ a x, read a = .ok x → t.coefficients.get? (place a) = some x)
    (taken : nodes.mapM read = .ok values) :
    values = nodes.map (fun a => (t.coefficients.get? (place a)).getD 0) ∧
      ∀ a ∈ nodes, (t.coefficients.get? (place a)).isSome := by
  refine ⟨eq_map_of_mapM (fun a x found => by rw [step a x found, Option.getD_some]) taken, ?_⟩
  intro a member
  obtain ⟨x, found⟩ := exists_of_mapM taken member
  rw [step a x found]
  rfl

/-- The nodes on the humidity axis: a species that is not nonlinear has a single one. -/
def humidityNodes (p : LevelPosition α) (isNonlinear : Bool) : Position α :=
  if isNonlinear then p.humidity.getD .single else .single

/-- The value of a species that is not nonlinear is a sum over temperature. -/
theorem levelValue_linear {t : Table α} (axes : t.coefficients.shape.length = 4)
    {p : LevelPosition α} {level frequency : Nat} {b : Block} {x : α}
    (found : t.levelValue p level frequency false b = .ok x) :
    (∀ a ∈ (p.temperature.getD .single).indices,
      (t.coefficients.get? [a, b.offset, frequency, level]).isSome) ∧
    x = (p.temperature.getD .single).total fun a => t.coefficient a b.offset frequency level := by
  obtain ⟨temperature, humidity⟩ := p
  cases temperature with
  | none =>
      have read : t.coefficients.get? [0, b.offset, frequency, level] = some x :=
        (read_eq_ok axes).mp found
      refine ⟨?_, ?_⟩
      · simp [Position.single, read]
      · simp [coefficient, read]
  | some tp =>
      obtain ⟨values, taken, result⟩ := bind_eq_ok.mp found
      obtain ⟨rfl, present⟩ := mapM_read (fun a => [a, b.offset, frequency, level])
        (fun a y step => (read_eq_ok axes).mp step) taken
      refine ⟨present, ?_⟩
      rw [← pure_eq_ok.mp result, weightedSum_eq_total]
      rfl

/-- The value of a nonlinear species is a sum over temperature and humidity. -/
theorem levelValue_nonlinear {t : Table α} (axes : t.coefficients.shape.length = 4)
    {p : LevelPosition α} {level frequency : Nat} {b : Block} {x : α}
    (complete : ∀ q, p.humidity = some q → q.weights.length = q.indices.length)
    (found : t.levelValue p level frequency true b = .ok x) :
    (∀ a ∈ (p.temperature.getD .single).indices, ∀ e ∈ (p.humidity.getD .single).indices,
      (t.coefficients.get? [a, b.offset + e, frequency, level]).isSome) ∧
    x = (p.temperature.getD .single).total fun a => (p.humidity.getD .single).total fun e =>
      t.coefficient a (b.offset + e) frequency level := by
  have inBlock (a e : Nat) (y : α) (taken : (if e < b.length then t.coefficients.valueAt
      [Int.ofNat a, Int.ofNat (b.offset + e), Int.ofNat frequency, Int.ofNat level]
      else fail .outOfBounds) = .ok y) :
      t.coefficients.get? [a, b.offset + e, frequency, level] = some y := by
    split at taken
    · exact (read_eq_ok axes).mp taken
    · simp at taken
  obtain ⟨temperature, humidity⟩ := p
  cases humidity with
  | none =>
      have unplaced : (fail .unplaced : Outcome α α) = .ok x := by
        cases temperature <;> exact found
      exact absurd unplaced (fail_ne_ok _ _)
  | some hp =>
      cases temperature with
      | none =>
          obtain ⟨values, taken, result⟩ := bind_eq_ok.mp found
          obtain ⟨rfl, present⟩ := mapM_read (fun e => [0, b.offset + e, frequency, level])
            (fun e y step => inBlock 0 e y step) taken
          refine ⟨?_, ?_⟩
          · simpa [Position.single] using present
          · rw [← pure_eq_ok.mp result, weightedSum_eq_total]
            simp [coefficient]
      | some tp =>
          obtain ⟨values, taken, result⟩ := bind_eq_ok.mp found
          have row (a : Nat) (ys : List α) (step : (hp.indices.mapM fun e => if e < b.length
              then t.coefficients.valueAt [Int.ofNat a, Int.ofNat (b.offset + e),
                Int.ofNat frequency, Int.ofNat level]
              else fail .outOfBounds) = .ok ys) :=
            mapM_read (fun e => [a, b.offset + e, frequency, level])
              (fun e y step => inBlock a e y step) step
          refine ⟨?_, ?_⟩
          · intro a member e node
            obtain ⟨ys, step⟩ := exists_of_mapM taken member
            exact (row a ys step).2 e node
          · rw [← pure_eq_ok.mp result, eq_map_of_mapM (fun a ys step => (row a ys step).1) taken]
            exact weightedSum_products tp hp (complete hp rfl) _

/-- The four ways to interpolate a value are one sum over temperature and humidity. -/
theorem levelValue_eq_total {t : Table α} (axes : t.coefficients.shape.length = 4)
    {p : LevelPosition α} {level frequency : Nat} {isNonlinear : Bool} {b : Block} {x : α}
    (complete : isNonlinear = true → ∀ q, p.humidity = some q →
      q.weights.length = q.indices.length)
    (found : t.levelValue p level frequency isNonlinear b = .ok x) :
    (∀ a ∈ (p.temperature.getD .single).indices, ∀ e ∈ (humidityNodes p isNonlinear).indices,
      (t.coefficients.get? [a, b.offset + e, frequency, level]).isSome) ∧
    x = (p.temperature.getD .single).total fun a => (humidityNodes p isNonlinear).total fun e =>
      t.coefficient a (b.offset + e) frequency level := by
  cases isNonlinear with
  | false =>
      obtain ⟨present, sum⟩ := levelValue_linear axes found
      refine ⟨?_, ?_⟩
      · simpa [humidityNodes, Position.single] using present
      · simpa [humidityNodes] using sum
  | true => exact levelValue_nonlinear axes (complete rfl) found

end Table

/-- The sum over the nodes of what each contributes with its weight. -/
def Position.sum (p : Position α) (term : Nat → α → α) : α :=
  ((p.indices.zip p.weights).map fun node => term node.1 node.2).sum

theorem Position.sum_mul (p : Position α) (factor : α) (term : Nat → α) :
    (p.sum fun i w => factor * w * term i) = factor * p.total term := by
  rw [Position.sum, Position.total, ← List.sum_map_mul_left]
  simp only [mul_assoc]

/-- The positions of an extraction: that of the pressure, and those of the temperature and the
humidity at each level. -/
structure Stencils (α : Type) where
  pressure : Position α
  temperature : Nat → Position α
  humidity : Nat → Position α

/-- The humidity nodes of a species: only a nonlinear one has more than one. -/
def Stencils.humidityNodes (x : Stencils α) (isNonlinear : Bool) (level : Nat) : Position α :=
  if isNonlinear then x.humidity level else .single

namespace Table

/-- The positions are those of the logarithm of the pressure, and at each level of the temperature
and the humidity relative to the references there. -/
structure Located (t : Table α) (o : Orders) (molecule : String) (air : Air α) (x : Stencils α) :
    Prop where
  pressure : t.logPressures = some (t.pressures.map Scalar.log) ∧
    Grid.position (t.pressures.toList.map Scalar.log) (Scalar.log air.pressure) o.pressure
      "pressure" = .ok x.pressure
  temperature : ∀ l ∈ x.pressure.indices,
    t.temperaturePerturbations.toList = [] ∧ x.temperature l = .single ∨
    t.temperaturePerturbations.toList ≠ [] ∧ ∃ reference,
      t.referenceTemperature.get? [l] = some reference ∧
      Grid.position t.temperaturePerturbations.toList (air.temperature - reference) o.temperature
        "temperature perturbation" = .ok (x.temperature l)
  humidity : t.nonlinear ≠ [] → ∀ l ∈ x.pressure.indices, ∃ h vmr reference,
    t.humidityIndex? molecule = some h ∧ air.vmrs[h]? = some vmr ∧
    t.referenceVmr.get? [h, l] = some reference ∧
    Grid.position t.humidityPerturbations.toList (vmr / reference) o.humidity
      "humidity perturbation" = .ok (x.humidity l)

/-- The table holds all coefficients at the nodes. -/
def Covers (t : Table α) (x : Stencils α) (isNonlinear : Bool) (b : Block) (frequency : Nat) :
    Prop :=
  ∀ l ∈ x.pressure.indices, ∀ a ∈ (x.temperature l).indices,
    ∀ e ∈ (x.humidityNodes isNonlinear l).indices,
      (t.coefficients.get? [a, b.offset + e, frequency, l]).isSome

/-- The sum over all nodes of a species at a frequency. -/
def tensorSum (t : Table α) (x : Stencils α) (isNonlinear : Bool) (b : Block)
    (frequency : Nat) : α :=
  x.pressure.sum fun l wp => (x.temperature l).sum fun a wt =>
    (x.humidityNodes isNonlinear l).sum fun e wh =>
      wp * wt * wh * t.coefficient a (b.offset + e) frequency l

theorem tensorSum_eq_total (t : Table α) (x : Stencils α) (isNonlinear : Bool) (b : Block)
    (frequency : Nat) : t.tensorSum x isNonlinear b frequency =
      x.pressure.total fun l => (x.temperature l).total fun a =>
        (x.humidityNodes isNonlinear l).total fun e =>
          t.coefficient a (b.offset + e) frequency l := by
  simp only [tensorSum, Position.sum_mul]
  rfl

/-- The fraction of a reference in exact numbers, which have no infinite one. -/
theorem fraction_eq_ok {air : Air α} {species : Nat} {reference x : α} :
    air.fraction (Int.ofNat species) reference = .ok (some x) ↔
      0 < reference ∧ ∃ vmr, air.vmrs[species]? = some vmr ∧ x = vmr / reference := by
  rw [Air.fraction, Air.vmr_ofNat]
  by_cases positive : 0 < reference
  · rw [if_pos positive]
    cases air.vmrs[species]? with
    | none => simp [orFail, fail, Except.map]
    | some vmr => simp [Except.map, positive, eq_comm]
  · rw [if_neg positive]
    simp [positive, show (Scalar.infinity? : Option α) = none from rfl]

namespace Course

variable {t : Table α} {o : Orders} {molecule : String} {air : Air α} {frequency : Int}
  (c : t.Course o molecule air frequency)

/-- The positions of a course; an axis that takes no part has a single node. -/
def stencils : Stencils α where
  pressure := c.pressures
  temperature l := (c.positions l).temperature.getD .single
  humidity l := (c.positions l).humidity.getD .single

theorem located (grids : t.VectorGrids) (fits : t.Fitting) :
    t.Located o molecule air c.stencils := by
  have logged := logPressures_of_hasLog (fun _ _ => Exact.eq_of_same) c.logged
  refine ⟨⟨logged, ?_⟩, ?_, ?_⟩
  · obtain ⟨logs, taken, position⟩ := pressurePosition_eq_ok c.placed
    rw [logged, Option.some.injEq] at taken
    rw [← taken, Grid.positionIn_of_isVector (grids.pressures.map _), Tensor.toList_map] at position
    exact position
  · intro l member
    obtain ⟨absent, none⟩ | ⟨present, reference, p, here, position, found⟩ :=
      c.temperature_positions grids fits member
    · exact .inl ⟨absent, by simp only [stencils, none, Option.getD_none]⟩
    · refine .inr ⟨present, reference, here, ?_⟩
      simp only [stencils, found, Option.getD_some]
      exact position
  · intro nonlinear l member
    obtain ⟨h, reference, x, p, index, here, fraction, position, found⟩ :=
      c.humidity_positions grids fits member nonlinear
    obtain ⟨_, vmr, amount, rfl⟩ := fraction_eq_ok.mp fraction
    refine ⟨h, vmr, reference, index, amount, here, ?_⟩
    simp only [stencils, found, Option.getD_some]
    exact position

/-- A value at a level is the sum over the nodes of temperature and humidity there. -/
theorem value_eq_total (grids : t.VectorGrids) (fits : t.Fitting) {level k i : Nat}
    {columns : List (List α)} {isNonlinear : Bool} {b : Block}
    (member : level ∈ c.pressures.indices)
    (sampled : t.Sampled o c.humidity air c.first c.count c.temperatures c.humidities level columns)
    (flag : t.flags[i]? = some isNonlinear) (block : t.blocks[i]? = some b) (bound : k < c.count) :
    (∀ a ∈ (c.stencils.temperature level).indices,
      ∀ e ∈ (c.stencils.humidityNodes isNonlinear level).indices,
        (t.coefficients.get? [a, b.offset + e, c.first + k, level]).isSome) ∧
    Sample.value columns k i = (c.stencils.temperature level).total fun a =>
      (c.stencils.humidityNodes isNonlinear level).total fun e =>
        t.coefficient a (b.offset + e) (c.first + k) level := by
  have axes : t.coefficients.shape.length = 4 := by
    rw [fits.shape_coefficients grids]
    rfl
  obtain ⟨_, _, interpolated⟩ := c.interpolates sampled
  refine levelValue_eq_total axes ?_ (interpolated.value i isNonlinear b k flag block bound)
  intro marked p found
  have some := nonlinear_ne_nil (List.mem_of_getElem? (marked ▸ flag))
  exact c.humidity_complete grids fits member some found

/-- An entry of the result is the sum over all nodes, scaled. -/
theorem get?_result (grids : t.VectorGrids) (fits : t.Fitting) {k i : Nat} {isNonlinear : Bool}
    {b : Block} {v : α} (flag : t.flags[i]? = some isNonlinear) (block : t.blocks[i]? = some b)
    (vmr : air.vmrs[i]? = some v) (bound : k < c.count) :
    t.Covers c.stencils isNonlinear b (c.first + k) ∧ c.result.get? [k, i] =
      some (c.density * v * t.tensorSum c.stencils isNonlinear b (c.first + k)) := by
  have species := lt_of_flag flag
  refine ⟨?_, ?_⟩
  · intro l member
    obtain ⟨columns, sampled⟩ := c.sampled_of_mem member
    exact (c.value_eq_total grids fits member sampled flag block bound).1
  · have inside : (Tensor.place? [c.count, t.species.length] [k, i]).isSome :=
      Tensor.place?_isSome.mpr (.cons bound (.cons species .nil))
    have values : c.levels.map (Sample.value · k i) = c.pressures.indices.map fun l =>
        (c.stencils.temperature l).total fun a => (c.stencils.humidityNodes isNonlinear l).total
          fun e => t.coefficient a (b.offset + e) (c.first + k) l :=
      map_eq_map_of_forall₂ c.sampled fun l columns member sampled =>
        (c.value_eq_total grids fits member sampled flag block bound).2
    rw [result, Tensor.get?_ofFn, if_pos inside]
    simp only [values, weightedSum_eq_total c.pressures, List.getD_eq_getElem?_getD, vmr,
      Option.getD_some]
    rw [tensorSum_eq_total, mul_comm]
    rfl

/-- The number of frequencies that an index asks for. -/
theorem count_eq (grids : t.VectorGrids) :
    c.count = if frequency < 0 then t.frequencies.toList.length else 1 := by
  have range := grids.frequencyRange_eq_ok.mp c.selected
  split <;> omega

/-- An entry of the result, at the frequency that it stands for in the table. -/
theorem exists_entry (grids : t.VectorGrids) (fits : t.Fitting) {k i : Nat} (bound : k < c.count)
    (species : i < t.species.length) : ∃ isNonlinear b v, t.flags[i]? = some isNonlinear ∧
      t.blocks[i]? = some b ∧ air.vmrs[i]? = some v ∧
      t.Covers c.stencils isNonlinear b (if frequency < 0 then k else frequency.toNat) ∧
      c.result.get? [k, i] = some (c.density * v * t.tensorSum c.stencils isNonlinear b
        (if frequency < 0 then k else frequency.toNat)) := by
  have range := grids.frequencyRange_eq_ok.mp c.selected
  have chosen : (if frequency < 0 then k else frequency.toNat) = c.first + k := by
    split <;> omega
  obtain ⟨isNonlinear, b, flag, block⟩ := exists_flag_block species
  have vmr := List.getElem?_eq_getElem (l := air.vmrs) (i := i) (by rw [c.vmrs]; exact species)
  rw [chosen]
  exact ⟨_, _, _, flag, block, vmr, c.get?_result grids fits flag block vmr bound⟩

end Course

/-- Each extracted coefficient is the number density times a sum over the nodes of all axes. -/
theorem VectorGrids.extract_eq_sum {t : Table α} (grids : t.VectorGrids)
    (valid : t.validate = .ok ()) {o : Orders} {molecule : String} {air : Air α} {frequency : Int}
    {result : Tensor α}
    (extracted : t.extract o molecule air frequency = .ok result) :
    frequency < t.frequencies.toList.length ∧ air.vmrs.length = t.species.length ∧
    result.shape = [if frequency < 0 then t.frequencies.toList.length else 1, t.species.length] ∧
    ∃ x density layout, t.Located o molecule air x ∧
      Gas.numberDensity air.pressure air.temperature = .ok density ∧ t.layout = .ok layout ∧
      ∀ k i, k < (if frequency < 0 then t.frequencies.toList.length else 1) → i < t.species.length →
        ∃ isNonlinear b v, layout.nonlinear[i]? = some isNonlinear ∧ layout.blocks[i]? = some b ∧
          air.vmrs[i]? = some v ∧
          t.Covers x isNonlinear b (if frequency < 0 then k else frequency.toNat) ∧
          result.get? [k, i] = some (density * v * t.tensorSum x isNonlinear b
            (if frequency < 0 then k else frequency.toNat)) := by
  have fits := (grids.validate_eq_ok_iff.mp valid).toFitting
  obtain ⟨c, rfl⟩ := (fits.extract_eq_ok grids).mp extracted
  have range := grids.frequencyRange_eq_ok.mp c.selected
  refine ⟨by omega, c.vmrs, by rw [← c.count_eq grids]; rfl, c.stencils, c.density,
    ⟨t.flags, t.blocks⟩, c.located grids fits, c.dense, grids.layout_eq fits.existing, ?_⟩
  intro k i bound species
  rw [← c.count_eq grids] at bound
  exact c.exists_entry grids fits bound species

theorem extract_sample : ∃ result x density layout, sample.VectorGrids ∧ sample.validate = .ok () ∧
    sample.extract ⟨1, 1, 1⟩ "H2O" sampleAir 1 = .ok result ∧ result.shape = [1, 3] ∧
    sample.Located ⟨1, 1, 1⟩ "H2O" sampleAir x ∧ Gas.numberDensity 3 251 = .ok density ∧
    sample.layout = .ok layout ∧ layout.nonlinear[1]? = some true ∧
    layout.blocks[1]? = some ⟨1, 2⟩ ∧ sample.Covers x true ⟨1, 2⟩ 1 ∧
    result.get? [0, 1] = some (density * (1 / 80) * sample.tensorSum x true ⟨1, 2⟩ 1) := by
  have valid : sample.validate = .ok () := toOption_eq_some.mp (by decide +kernel)
  have succeeds : (sample.extract ⟨1, 1, 1⟩ "H2O" sampleAir 1).toOption.isSome = true := by
    decide +kernel
  obtain ⟨result, found⟩ := Option.isSome_iff_exists.mp succeeds
  have extracted := toOption_eq_some.mp found
  obtain ⟨_, _, shape, x, density, layout, located, dense, laidOut, entries⟩ :=
    vectorGrids_sample.extract_eq_sum valid extracted
  obtain ⟨isNonlinear, b, v, flag, block, vmr, covers, entry⟩ := entries 0 1 (by decide) (by decide)
  have places : sample.layout = .ok ⟨[false, true, false], [⟨0, 1⟩, ⟨1, 2⟩, ⟨3, 1⟩]⟩ := rfl
  cases places.symm.trans laidOut
  cases flag
  cases block
  cases vmr
  exact ⟨result, x, density, _, vectorGrids_sample, valid, extracted, shape, located, dense,
    places, rfl, rfl, covers, entry⟩

end Table
end Absorption
