import Mathlib.Algebra.MvPolynomial.Degrees
import Absorption.Proofs.Extraction.TensorSum
import Absorption.Proofs.Grid.Reproduction

set_option autoImplicit false

/-!
Tables whose cross sections are polynomials in the logarithm of the pressure, the temperature and
the humidity. Extraction gives the polynomials themselves (`extract_polynomial`): at each level the
offsets and fractions are only shifted and scaled, which changes no degree (`total_eval`).
-/

namespace Absorption

open Polynomial

variable {α : Type} [Exact α]

/-- A polynomial of three variables as one of the variable `i`, with the other two fixed. -/
noncomputable def along (K : MvPolynomial (Fin 3) α) (v : Fin 3 → α) (i : Fin 3) : α[X] :=
  K.eval₂ C fun j => if j = i then X else C (v j)

theorem eval_along (K : MvPolynomial (Fin 3) α) (v : Fin 3 → α) (i : Fin 3) (x : α) :
    (along K v i).eval x = MvPolynomial.eval (Function.update v i x) K := by
  rw [along, ← coe_evalRingHom, MvPolynomial.hom_eval₂, MvPolynomial.eval,
    MvPolynomial.coe_eval₂Hom]
  congr 1
  · ext a
    simp
  · funext j
    by_cases own : j = i
    · subst own
      simp
    · simp [own]

theorem natDegree_along_le (K : MvPolynomial (Fin 3) α) (v : Fin 3 → α) (i : Fin 3) :
    (along K v i).natDegree ≤ K.degreeOf i := by
  rw [along, MvPolynomial.eval₂_eq']
  refine natDegree_sum_le_of_forall_le _ _ fun m member => ?_
  have powers (j : Fin 3) : ((if j = i then X else C (v j) : α[X]) ^ m j).natDegree ≤
      if j = i then m j else 0 := by
    by_cases own : j = i
    · simp [own]
    · rw [if_neg own, if_neg own, ← C_pow, natDegree_C]
  calc (C (MvPolynomial.coeff m K) * ∏ j, (if j = i then X else C (v j) : α[X]) ^ m j).natDegree
      ≤ (∏ j, (if j = i then X else C (v j) : α[X]) ^ m j).natDegree := natDegree_C_mul_le _ _
    _ ≤ ∑ j, if j = i then m j else 0 :=
        (natDegree_prod_le _ _).trans (Finset.sum_le_sum fun j _ => powers j)
    _ = m i := by simp
    _ ≤ K.degreeOf i := MvPolynomial.monomial_le_degreeOf i member

/-- A polynomial does not depend on a variable in which its degree is zero. -/
theorem eval_update_of_degreeOf {K : MvPolynomial (Fin 3) α} {i : Fin 3}
    (constant : K.degreeOf i = 0) (v : Fin 3 → α) (x y : α) :
    MvPolynomial.eval (Function.update v i x) K = MvPolynomial.eval (Function.update v i y) K := by
  have degree : (along K v i).natDegree = 0 := by
    have bound := natDegree_along_le K v i
    omega
  rw [← eval_along, ← eval_along, eq_C_of_natDegree_eq_zero degree, eval_C, eval_C]

/-- A position on an axis reproduces a polynomial of that axis, shifted and scaled as it may be. -/
theorem Grid.total_eval {grid : List α} (distinct : grid.Nodup) {target : α} {order : Int}
    {axis : String} {p : Position α} (found : position grid target order axis = .ok p)
    {K : MvPolynomial (Fin 3) α} {i : Fin 3} (degree : (K.degreeOf i : Int) ≤ order)
    (v : Fin 3 → α) (shift scale : α) {term : Nat → α}
    (values : ∀ j a, grid[j]? = some a → j ∈ p.indices →
      term j = MvPolynomial.eval (Function.update v i (shift + scale * a)) K) :
    p.total term = MvPolynomial.eval (Function.update v i (shift + scale * target)) K := by
  have moved (a : α) : ((along K v i).comp (C shift + C scale * X)).eval a =
      MvPolynomial.eval (Function.update v i (shift + scale * a)) K := by
    rw [eval_comp, eval_along]
    simp
  have linear : (C shift + C scale * X : α[X]).natDegree ≤ 1 := by
    rw [add_comm]
    exact natDegree_linear_le
  have bound : (((along K v i).comp (C shift + C scale * X)).natDegree : Int) ≤ order := by
    have composed := natDegree_comp_le (p := along K v i) (q := C shift + C scale * X)
    have single := natDegree_along_le K v i
    have product := Nat.mul_le_mul single linear
    omega
  rw [← moved]
  refine position_reproduces distinct found bound fun j a here member => ?_
  rw [values j a here member, moved]

namespace Table

/-- The mixing ratio of the humidity species at a level, zero without such a species. -/
def humidityReference (t : Table α) (molecule : String) (level : Nat) : α :=
  ((t.humidityIndex? molecule).bind fun h => t.referenceVmr.get? [h, level]).getD 0

/-- The mixing ratio of the humidity species in the air, zero without such a species. -/
def humidityOf (t : Table α) (molecule : String) (air : Air α) : α :=
  ((t.humidityIndex? molecule).bind (air.vmrs[·]?)).getD 0

/-- What a node stands for: a logarithm of pressure, a temperature and a mixing ratio of the
humidity species. The last two are taken from the references of the level. -/
def nodeState (t : Table α) (molecule : String) (temperature humidity level : Nat) : Fin 3 → α :=
  ![Scalar.log (t.pressures.toList.getD level 0),
    t.referenceTemperature.toList.getD level 0 +
      t.temperaturePerturbations.toList.getD temperature 0,
    t.humidityReference molecule level * t.humidityPerturbations.toList.getD humidity 0]

/-- The cross sections of a block at a frequency are the values of a polynomial at the nodes. It has
at most the orders of interpolation as its degrees and does not depend on an axis that takes no
part. -/
structure Follows (t : Table α) (o : Orders) (molecule : String) (isNonlinear : Bool) (b : Block)
    (frequency : Nat) (K : MvPolynomial (Fin 3) α) : Prop where
  pressure : (K.degreeOf 0 : Int) ≤ o.pressure
  temperature : if t.temperaturePerturbations.toList = [] then K.degreeOf 1 = 0
    else (K.degreeOf 1 : Int) ≤ o.temperature
  humidity : if isNonlinear then (K.degreeOf 2 : Int) ≤ o.humidity else K.degreeOf 2 = 0
  value : ∀ a e l, a < max t.temperaturePerturbations.toList.length 1 → e < b.length →
    l < t.pressures.toList.length → t.coefficient a (b.offset + e) frequency l =
      MvPolynomial.eval (t.nodeState molecule a e l) K

/-- The logarithms of positive pressures decrease as these do. -/
theorem Fitting.descending_logs {t : Table α} (fits : t.Fitting)
    (positive : ∀ p ∈ t.pressures.toList, 0 < p) :
    (t.pressures.toList.map Scalar.log).Pairwise (fun a b => b < a) :=
  Exact.falling_log positive (Grid.isDecreasing_iff.mp fits.pressures)

theorem Fitting.nodup_logs {t : Table α} (fits : t.Fitting)
    (positive : ∀ p ∈ t.pressures.toList, 0 < p) :
    (t.pressures.toList.map Scalar.log).Nodup :=
  (fits.descending_logs positive).imp ne_of_gt

/-- With nonlinear species the air has a mixing ratio of the humidity species. -/
theorem Course.humidity_known {t : Table α} {o : Orders} {molecule : String} {air : Air α}
    {frequency : Int} (c : t.Course o molecule air frequency) (some : t.nonlinear ≠ []) :
    ∃ h, t.humidityIndex? molecule = .some h ∧
      air.vmrs[h]? = .some (t.humidityOf molecule air) := by
  obtain ⟨h, index, _⟩ := (humiditySpecies_eq_ok some).mp c.reference
  have species : h < air.vmrs.length := by
    rw [c.vmrs]
    exact lt_of_humidityIndex? index
  refine ⟨h, index, ?_⟩
  rw [humidityOf, index, Option.bind_some, List.getElem?_eq_getElem species, Option.getD_some]

namespace Course

variable {t : Table α} {o : Orders} {molecule : String} {air : Air α} {frequency : Int}
  (c : t.Course o molecule air frequency) (grids : t.VectorGrids) (fits : t.Fitting)
  {isNonlinear : Bool} {b : Block} {i f : Nat} {K : MvPolynomial (Fin 3) α}
include grids fits

/-- The sum over humidity gives the polynomial at the mixing ratio of the air. -/
theorem humidity_total (flag : t.flags[i]? = some isNonlinear) (block : t.blocks[i]? = some b)
    (follows : t.Follows o molecule isNonlinear b f K) {l a : Nat}
    (level : l ∈ c.pressures.indices) (inside : l < t.pressures.toList.length)
    (temperature : a < max t.temperaturePerturbations.toList.length 1) :
    ((c.stencils.humidityNodes isNonlinear l).total fun e => t.coefficient a (b.offset + e) f l) =
      MvPolynomial.eval ![Scalar.log (t.pressures.toList.getD l 0),
        t.referenceTemperature.toList.getD l 0 + t.temperaturePerturbations.toList.getD a 0,
        t.humidityOf molecule air] K := by
  have length := length_block flag block
  have degree := follows.humidity
  have moved (e : Nat) : t.nodeState molecule a e l = Function.update (t.nodeState molecule a 0 l) 2
      (t.humidityReference molecule l * t.humidityPerturbations.toList.getD e 0) := by
    funext j
    fin_cases j <;> rfl
  have reached : ![Scalar.log (t.pressures.toList.getD l 0),
      t.referenceTemperature.toList.getD l 0 + t.temperaturePerturbations.toList.getD a 0,
      t.humidityOf molecule air] =
        Function.update (t.nodeState molecule a 0 l) 2 (t.humidityOf molecule air) := by
    funext j
    fin_cases j <;> rfl
  rw [reached]
  cases isNonlinear with
  | false =>
      simp only [Bool.false_eq_true, ↓reduceIte] at length degree
      have nodes : c.stencils.humidityNodes false l = .single := rfl
      rw [nodes, Position.single_total]
      calc t.coefficient a (b.offset + 0) f l
          = MvPolynomial.eval (t.nodeState molecule a 0 l) K :=
            follows.value a 0 l temperature (by omega) inside
        _ = MvPolynomial.eval (Function.update (t.nodeState molecule a 0 l) 2 _) K := by
            conv_lhs => rw [moved 0]
        _ = _ := eval_update_of_degreeOf degree _ _ _
  | true =>
      simp only [↓reduceIte] at length degree
      have some := nonlinear_ne_nil (List.mem_of_getElem? flag)
      obtain ⟨h, reference, x, p, index, here, fraction, position, found⟩ :=
        c.humidity_positions grids fits level some
      obtain ⟨positive, vmr, amount, rfl⟩ := fraction_eq_ok.mp fraction
      have anchor : t.humidityReference molecule l = reference := by
        simp [humidityReference, index, here]
      have target : t.humidityOf molecule air = 0 + reference * (vmr / reference) := by
        rw [zero_add, mul_div_cancel₀ _ (ne_of_gt positive)]
        simp [humidityOf, index, amount]
      have nodes : c.stencils.humidityNodes true l = p := by
        simp [Stencils.humidityNodes, stencils, found]
      rw [nodes, target]
      refine Grid.total_eval (Grid.nodup_of_isIncreasing fits.humidities) position degree _ _ _ ?_
      intro e fraction node member
      have inBlock := Grid.lt_of_mem_indices position member
      rw [follows.value a e l temperature (by omega) inside, moved e, anchor,
        List.getD_eq_getElem?_getD, node, zero_add]
      rfl

/-- The sum over temperature and humidity gives the polynomial at the temperature of the air. -/
theorem temperature_total (flag : t.flags[i]? = some isNonlinear) (block : t.blocks[i]? = some b)
    (follows : t.Follows o molecule isNonlinear b f K) {l : Nat} (level : l ∈ c.pressures.indices)
    (inside : l < t.pressures.toList.length) :
    ((c.stencils.temperature l).total fun a =>
      (c.stencils.humidityNodes isNonlinear l).total fun e => t.coefficient a (b.offset + e) f l) =
      MvPolynomial.eval ![Scalar.log (t.pressures.toList.getD l 0), air.temperature,
        t.humidityOf molecule air] K := by
  have degree := follows.temperature
  have humidity {a : Nat} (temperature : a < max t.temperaturePerturbations.toList.length 1) :=
    c.humidity_total grids fits flag block follows level inside temperature
  have moved (T : α) : ![Scalar.log (t.pressures.toList.getD l 0), T, t.humidityOf molecule air] =
      Function.update ![Scalar.log (t.pressures.toList.getD l 0), 0, t.humidityOf molecule air] 1
        T := by
    funext j
    fin_cases j <;> rfl
  obtain ⟨absent, none⟩ | ⟨present, reference, p, here, position, found⟩ :=
    c.temperature_positions grids fits level
  · have nodes : c.stencils.temperature l = .single := by simp [stencils, none]
    rw [if_pos absent] at degree
    rw [nodes, Position.single_total, humidity (by omega), moved, moved air.temperature]
    exact eval_update_of_degreeOf degree _ _ _
  · have nodes : c.stencils.temperature l = p := by simp [stencils, found]
    have anchor : t.referenceTemperature.toList.getD l 0 = reference := by
      rw [(Tensor.isVector_of_shape fits.referenceTemperature).get?] at here
      rw [List.getD_eq_getElem?_getD, here, Option.getD_some]
    have target : air.temperature = reference + 1 * (air.temperature - reference) := by ring
    rw [if_neg present] at degree
    rw [nodes, moved air.temperature, target]
    refine Grid.total_eval (Grid.nodup_of_isIncreasing fits.temperatures) position degree _ _ _ ?_
    intro a offset node member
    have bound := Grid.lt_of_mem_indices position member
    have value : t.temperaturePerturbations.toList.getD a 0 = offset := by
      rw [List.getD_eq_getElem?_getD, node, Option.getD_some]
    rw [humidity (by omega), anchor, value, moved, one_mul]

/-- The sum over all nodes of a block is the value of its polynomial. -/
theorem tensorSum_polynomial (positive : ∀ p ∈ t.pressures.toList, 0 < p)
    (flag : t.flags[i]? = some isNonlinear) (block : t.blocks[i]? = some b)
    (follows : t.Follows o molecule isNonlinear b f K) :
    t.tensorSum c.stencils isNonlinear b f = MvPolynomial.eval
      ![Scalar.log air.pressure, air.temperature, t.humidityOf molecule air] K := by
  obtain ⟨_, position⟩ := (c.located grids fits).pressure
  have moved (x : α) : ![x, air.temperature, t.humidityOf molecule air] =
      Function.update ![0, air.temperature, t.humidityOf molecule air] 0 (0 + 1 * x) := by
    funext j
    fin_cases j
    · exact (by ring : x = 0 + 1 * x)
    · rfl
    · rfl
  rw [tensorSum_eq_total, moved]
  refine Grid.total_eval (fits.nodup_logs positive) position follows.pressure _ _ _ ?_
  intro l log node member
  have inside := Grid.lt_of_mem_indices position member
  rw [List.length_map] at inside
  rw [List.getElem?_map, List.getElem?_eq_getElem inside, Option.map_some,
    Option.some.injEq] at node
  rw [c.temperature_total grids fits flag block follows member inside, ← moved, ← node,
    List.getD_eq_getElem?_getD, List.getElem?_eq_getElem inside, Option.getD_some]

end Course

/-- Extraction gives the polynomials that the cross sections follow, at the state of the air. -/
theorem VectorGrids.extract_polynomial {t : Table α} (grids : t.VectorGrids)
    (valid : t.validate = .ok ()) (positive : ∀ p ∈ t.pressures.toList, 0 < p) {o : Orders}
    {molecule : String} {layout : Layout} (laidOut : t.layout = .ok layout)
    {K : Nat → Nat → MvPolynomial (Fin 3) α}
    (follows : ∀ i f isNonlinear b, layout.nonlinear[i]? = some isNonlinear →
      layout.blocks[i]? = some b → f < t.frequencies.toList.length →
      t.Follows o molecule isNonlinear b f (K i f))
    {air : Air α} {frequency : Int} {result : Tensor α}
    (extracted : t.extract o molecule air frequency = .ok result) :
    result.shape = [if frequency < 0 then t.frequencies.toList.length else 1, t.species.length] ∧
    (t.nonlinear ≠ [] → ∃ h, t.humidityIndex? molecule = some h ∧
      air.vmrs[h]? = some (t.humidityOf molecule air)) ∧
    ∃ density, Gas.numberDensity air.pressure air.temperature = .ok density ∧
      ∀ k i, k < (if frequency < 0 then t.frequencies.toList.length else 1) → i < t.species.length →
        ∃ v, air.vmrs[i]? = some v ∧ result.get? [k, i] = some
          (MvPolynomial.eval ![Scalar.log air.pressure, air.temperature, t.humidityOf molecule air]
            (K i (if frequency < 0 then k else frequency.toNat)) * density * v) := by
  have fits := (grids.validate_eq_ok_iff.mp valid).toFitting
  obtain ⟨c, rfl⟩ := (fits.extract_eq_ok grids).mp extracted
  have range := grids.frequencyRange_eq_ok.mp c.selected
  rw [grids.layout_eq fits.existing, Except.ok.injEq] at laidOut
  subst laidOut
  refine ⟨by rw [← c.count_eq grids]; rfl, fun some => c.humidity_known some, c.density, c.dense,
    ?_⟩
  intro k i bound species
  rw [← c.count_eq grids] at bound
  obtain ⟨isNonlinear, b, v, flag, block, vmr, _, entry⟩ := c.exists_entry grids fits bound species
  have inside : (if frequency < 0 then k else frequency.toNat) < t.frequencies.toList.length := by
    split <;> omega
  have model := follows i _ isNonlinear b flag block inside
  refine ⟨v, vmr, ?_⟩
  rw [entry, c.tensorSum_polynomial grids fits positive flag block model, mul_comm, mul_assoc]

/-- A table whose cross sections are polynomials of first degree in each variable. -/
def linearSample : Table ℚ := initializeLog {
  species := ["H2O", "N2"]
  nonlinear := [0]
  frequencies := .ofList [100]
  pressures := .ofList [4, 2]
  referenceVmr := .ofFn [2, 2] fun p => match p with
    | [i, l] => if i = 1 then 4 / 5 else if l = 0 then 1 / 100 else 1 / 200
    | _ => 0
  referenceTemperature := .ofList [250, 240]
  temperaturePerturbations := .ofList [-10, 10]
  humidityPerturbations := .ofList [1 / 2, 2]
  coefficients := .ofFn [2, 3, 1, 2] fun p => match p with
    | [a, e, _, l] =>
      let x : ℚ := if l = 0 then 3 / 4 else 1 / 2
      let T : ℚ := (if l = 0 then 250 else 240) + if a = 0 then -10 else 10
      let vmr : ℚ := (if l = 0 then 1 / 100 else 1 / 200) * if e = 0 then 1 / 2 else 2
      if e = 2 then x * T else x + T * vmr
    | _ => 0
  logPressures := none }

/-- The polynomials that the cross sections of `linearSample` follow. -/
noncomputable def linearModel (species : Nat) : MvPolynomial (Fin 3) ℚ :=
  if species = 0 then .X 0 + .X 1 * .X 2 else .X 0 * .X 1

theorem degreeOf_linearModel (species : Nat) (i : Fin 3) :
    (linearModel species).degreeOf i ≤ if species ≠ 0 ∧ i = 2 then 0 else 1 := by
  have product (j k : Fin 3) : (.X j * .X k : MvPolynomial (Fin 3) ℚ).degreeOf i ≤
      (if i = j then 1 else 0) + if i = k then 1 else 0 := by
    have bound := MvPolynomial.degreeOf_mul_le i (.X j : MvPolynomial (Fin 3) ℚ) (.X k)
    rwa [MvPolynomial.degreeOf_X, MvPolynomial.degreeOf_X] at bound
  rw [linearModel]
  by_cases humid : species = 0
  · have sum := MvPolynomial.degreeOf_add_le i (.X 0 : MvPolynomial (Fin 3) ℚ) (.X 1 * .X 2)
    have bound := product 1 2
    rw [MvPolynomial.degreeOf_X] at sum
    rw [if_pos humid, if_neg (fun both => both.1 humid)]
    fin_cases i <;> simp at sum bound ⊢ <;> omega
  · have bound := product 0 1
    rw [if_neg humid]
    fin_cases i <;> simp [humid] at bound ⊢ <;> omega

theorem follows_linearSample : linearSample.Follows ⟨1, 1, 1⟩ "H2O" true ⟨0, 2⟩ 0 (linearModel 0) ∧
    linearSample.Follows ⟨1, 1, 1⟩ "H2O" false ⟨2, 1⟩ 0 (linearModel 1) := by
  have degree (species : Nat) (i : Fin 3) : (linearModel species).degreeOf i ≤ 1 :=
    (degreeOf_linearModel species i).trans (by split <;> omega)
  have humid : ∀ a < 2, ∀ e < 2, ∀ l < 2, linearSample.coefficient a (0 + e) 0 l =
      linearSample.nodeState "H2O" a e l 0 + linearSample.nodeState "H2O" a e l 1 *
        linearSample.nodeState "H2O" a e l 2 := by decide +kernel
  have dry : ∀ a < 2, ∀ e < 1, ∀ l < 2, linearSample.coefficient a (2 + e) 0 l =
      linearSample.nodeState "H2O" a e l 0 * linearSample.nodeState "H2O" a e l 1 := by
    decide +kernel
  refine ⟨⟨?_, ?_, ?_, ?_⟩, ⟨?_, ?_, ?_, ?_⟩⟩
  · exact Int.ofNat_le.mpr (degree 0 0)
  · rw [if_neg (by decide)]
    exact Int.ofNat_le.mpr (degree 0 1)
  · exact Int.ofNat_le.mpr (degree 0 2)
  · intro a e l temperature inside level
    rw [humid a temperature e inside l level]
    simp [linearModel]
  · exact Int.ofNat_le.mpr (degree 1 0)
  · rw [if_neg (by decide)]
    exact Int.ofNat_le.mpr (degree 1 1)
  · exact Nat.le_zero.mp (degreeOf_linearModel 1 2)
  · intro a e l temperature inside level
    rw [dry a temperature e inside l level]
    simp [linearModel]

/-- A state of the air between the levels of `linearSample`. -/
def linearAir : Air ℚ := ⟨3, 245, [1 / 100, 4 / 5]⟩

theorem extract_linearSample : ∃ result, linearSample.VectorGrids ∧
    linearSample.validate = .ok () ∧ (∀ p ∈ linearSample.pressures.toList, 0 < p) ∧
    linearSample.layout = .ok ⟨[true, false], [⟨0, 2⟩, ⟨2, 1⟩]⟩ ∧
    linearSample.extract ⟨1, 1, 1⟩ "H2O" linearAir (-1) = .ok result ∧
    result.get? [0, 0] = some ((2 / 3 + 245 * (1 / 100)) * (3 / 245) * (1 / 100)) := by
  have grids : linearSample.VectorGrids := ⟨rfl, rfl, rfl, rfl⟩
  have valid : linearSample.validate = .ok () := toOption_eq_some.mp (by decide +kernel)
  have positive : ∀ p ∈ linearSample.pressures.toList, 0 < p := by decide +kernel
  have laidOut : linearSample.layout = .ok ⟨[true, false], [⟨0, 2⟩, ⟨2, 1⟩]⟩ := rfl
  have succeeds :
      (linearSample.extract ⟨1, 1, 1⟩ "H2O" linearAir (-1)).toOption.isSome = true := by
    decide +kernel
  obtain ⟨result, found⟩ := Option.isSome_iff_exists.mp succeeds
  have extracted := toOption_eq_some.mp found
  have follows (i f : Nat) (isNonlinear : Bool) (b : Block)
      (flag : [true, false][i]? = some isNonlinear)
      (block : [(⟨0, 2⟩ : Block), ⟨2, 1⟩][i]? = some b) (only : f < 1) :
      linearSample.Follows ⟨1, 1, 1⟩ "H2O" isNonlinear b f (linearModel i) := by
    obtain rfl : f = 0 := by omega
    match i with
    | 0 =>
        cases flag
        cases block
        exact follows_linearSample.1
    | 1 =>
        cases flag
        cases block
        exact follows_linearSample.2
    | _ + 2 => cases flag
  obtain ⟨_, _, density, dense, entries⟩ :=
    grids.extract_polynomial valid positive laidOut (K := fun i _ => linearModel i) follows
      extracted
  obtain ⟨v, vmr, entry⟩ := entries 0 0 (by decide) (by decide)
  have humidity : linearSample.humidityOf "H2O" linearAir = 1 / 100 := by decide +kernel
  have log : Scalar.log linearAir.pressure = 2 / 3 := by decide +kernel
  have known : Gas.numberDensity (3 : ℚ) 245 = .ok (3 / 245) :=
    toOption_eq_some.mp (by decide +kernel)
  cases known.symm.trans dense
  cases vmr
  refine ⟨result, grids, valid, positive, laidOut, extracted, entry.trans ?_⟩
  rw [humidity, log]
  simp [linearModel, linearAir]

end Table
end Absorption
