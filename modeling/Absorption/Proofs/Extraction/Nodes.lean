import Absorption.Proofs.Extraction.Polynomial
import Absorption.Proofs.Extraction.Ranges
import Absorption.Proofs.Grid.Stencil

set_option autoImplicit false

/-!
Extraction at the nodes of a table. At a node of all axes the stored coefficient comes out, whatever
the orders are and whichever other levels take part (`Course.tensorSum_node`). With a single level
only the ranges could be missed, and a node lies in all of them (`VectorGrids.extract_node`).
-/

namespace Absorption.Table

variable {α : Type} [Exact α]

/-- The air is in the state of the node `a`, `b` at the level `k`. An axis that the table lacks
leaves the air free. -/
structure AtNode (t : Table α) (molecule : String) (air : Air α) (k a b : Nat) : Prop where
  pressure : t.pressures.toList[k]? = some air.pressure
  nonzero : air.temperature ≠ 0
  temperature : t.temperaturePerturbations.toList = [] ∧ a = 0 ∨ ∃ reference offset,
    t.referenceTemperature.get? [k] = some reference ∧
    t.temperaturePerturbations.toList[a]? = some offset ∧ air.temperature = reference + offset
  vmrs : air.vmrs.length = t.species.length
  humidity : t.nonlinear ≠ [] → ∃ h reference fraction, t.humidityIndex? molecule = some h ∧
    t.referenceVmr.get? [h, k] = some reference ∧ 0 < reference ∧
    t.humidityPerturbations.toList[b]? = some fraction ∧ air.vmrs[h]? = some (reference * fraction)

namespace Course

variable {t : Table α} {o : Orders} {molecule : String} {air : Air α} {frequency : Int}
  (c : t.Course o molecule air frequency) (grids : t.VectorGrids) (fits : t.Fitting) {k a b : Nat}
  (node : t.AtNode molecule air k a b)
include grids fits node

theorem pressure_node (positive : ∀ p ∈ t.pressures.toList, 0 < p) :
    k ∈ c.pressures.indices ∧ ∀ term, c.pressures.total term = term k := by
  obtain ⟨_, position⟩ := (c.located grids fits).pressure
  refine Grid.position_node position (.inr (fits.descending_logs positive)) ?_
  rw [List.getElem?_map, node.pressure, Option.map_some]

theorem temperature_node (level : k ∈ c.pressures.indices) :
    a ∈ (c.stencils.temperature k).indices ∧
      ∀ term, (c.stencils.temperature k).total term = term a := by
  obtain ⟨absent, single⟩ | ⟨present, reference, here, position⟩ :=
    (c.located grids fits).temperature k level
  · obtain ⟨_, rfl⟩ | ⟨_, _, _, offset, _⟩ := node.temperature
    · rw [single]
      exact ⟨List.mem_singleton_self 0, Position.single_total⟩
    · rw [absent] at offset
      cases offset
  · obtain ⟨absent, _⟩ | ⟨reference', offset, here', point, sum⟩ := node.temperature
    · exact absurd absent present
    · rw [here, Option.some.injEq] at here'
      rw [here', sum, add_sub_cancel_left] at position
      exact Grid.position_node position (.inl (Grid.isIncreasing_iff.mp fits.temperatures)) point

/-- A species that is not nonlinear has a single node on the humidity axis. -/
theorem humidity_node (level : k ∈ c.pressures.indices) {isNonlinear : Bool}
    (marked : isNonlinear = true → t.nonlinear ≠ []) :
    (if isNonlinear then b else 0) ∈ (c.stencils.humidityNodes isNonlinear k).indices ∧
      ∀ term, (c.stencils.humidityNodes isNonlinear k).total term =
        term (if isNonlinear then b else 0) := by
  cases isNonlinear with
  | false => exact ⟨List.mem_singleton_self 0, Position.single_total⟩
  | true =>
      obtain ⟨h, vmr, reference, index, amount, here, position⟩ :=
        (c.located grids fits).humidity (marked rfl) k level
      obtain ⟨h', reference', fraction, index', here', positive, point, amount'⟩ :=
        node.humidity (marked rfl)
      rw [index, Option.some.injEq] at index'
      subst index'
      rw [here, Option.some.injEq] at here'
      rw [amount, Option.some.injEq] at amount'
      rw [amount', here', mul_div_cancel_left₀ _ (ne_of_gt positive)] at position
      exact Grid.position_node position (.inl (Grid.isIncreasing_iff.mp fits.humidities)) point

/-- The sum over all nodes is the coefficient of the one node that the air is at. -/
theorem tensorSum_node (positive : ∀ p ∈ t.pressures.toList, 0 < p) {isNonlinear : Bool}
    (marked : isNonlinear = true → t.nonlinear ≠ []) {block : Block} {f : Nat}
    (covers : t.Covers c.stencils isNonlinear block f) : ∃ x,
      t.coefficients.get? [a, block.offset + (if isNonlinear then b else 0), f, k] = some x ∧
      t.tensorSum c.stencils isNonlinear block f = x := by
  obtain ⟨level, pressure⟩ := c.pressure_node grids fits node positive
  obtain ⟨warm, temperature⟩ := c.temperature_node grids fits node level
  obtain ⟨wet, humidity⟩ := c.humidity_node grids fits node level marked
  obtain ⟨x, stored⟩ := Option.isSome_iff_exists.mp (covers k level a warm _ wet)
  refine ⟨x, stored, ?_⟩
  calc t.tensorSum c.stencils isNonlinear block f
      = c.pressures.total fun l => (c.stencils.temperature l).total fun a =>
          (c.stencils.humidityNodes isNonlinear l).total fun e =>
            t.coefficient a (block.offset + e) f l := tensorSum_eq_total t _ _ _ _
    _ = t.coefficient a (block.offset + if isNonlinear then b else 0) f k := by
        rw [pressure, temperature, humidity]
    _ = x := by rw [coefficient, stored, Option.getD_some]

end Course

section Success

variable {t : Table α} {o : Orders} {molecule : String} {air : Air α} {k a b : Nat}
  (fits : t.Fitting) (node : t.AtNode molecule air k a b)
include fits node

/-- At order zero the level of a pressure is the only one that takes part. -/
theorem Fitting.levels_node (grids : t.VectorGrids) (logged : t.hasLog = .ok true)
    (positive : ∀ p ∈ t.pressures.toList, 0 < p) : t.levels 0 air.pressure = [k] := by
  have inside := (List.getElem?_eq_some_iff.mp node.pressure).1
  have upper : (0 : Int) < (t.pressures.toList.map Scalar.log).length := by
    rw [List.length_map]
    omega
  obtain ⟨p, position, chosen⟩ :=
    Grid.exists_position (Scalar.log air.pressure) "pressure" (Int.le_refl 0) upper
  obtain ⟨member, _⟩ := Grid.position_node position (.inr (fits.descending_logs positive))
    (by rw [List.getElem?_map, node.pressure, Option.map_some])
  have same : t.levels 0 air.pressure = p.indices := by
    rw [levels, logPressures_of_hasLog (fun _ _ => Exact.eq_of_same) logged, chosen]
    simp only [Tensor.toList_map]
  obtain ⟨first, _, points⟩ := grids.levels_eq_range' logged (Int.le_refl 0)
    (show (0 : Int) < t.pressures.toList.length by omega) air.pressure
  rw [← same, points, List.mem_range'_1] at member
  rw [points, show first = k by omega]
  rfl

theorem Fitting.pressureDemands_node (positive : ∀ p ∈ t.pressures.toList, 0 < p) :
    ∀ d ∈ t.pressureDemands air.pressure, d.holds = true := by
  have point := List.mem_of_getElem? node.pressure
  have inside := Grid.covered_contains (.inr (Grid.isDecreasing_iff.mp fits.pressures)) point
    (le_refl air.pressure)
  simp only [pressureDemands, List.forall_mem_cons, List.not_mem_nil, false_implies, implies_true,
    and_true, Bool.not_eq_true', decide_eq_false_iff_not]
  exact ⟨Bounds.contains_iff.mpr inside, not_le.mpr (positive _ point)⟩

theorem Fitting.temperatureDemands_node : ∀ d ∈ t.temperatureDemands air k, d.holds = true := by
  obtain ⟨absent, _⟩ | ⟨reference, offset, here, point, sum⟩ := node.temperature
  · simp [temperatureDemands, absent]
  · have member := List.mem_of_getElem? point
    have inside := Grid.covered_contains (.inl (Grid.isIncreasing_iff.mp fits.temperatures)) member
      (le_refl offset)
    have present : t.temperaturePerturbations.toList.isEmpty = false :=
      List.isEmpty_eq_false_iff.mpr (List.ne_nil_of_mem member)
    simp only [temperatureDemands, present, here, Option.getD_some, Bool.false_eq_true, ↓reduceIte,
      List.forall_mem_singleton, sum, add_sub_cancel_left]
    exact Bounds.contains_iff.mpr inside

theorem Fitting.humidityDemands_node :
    ∀ d ∈ t.humidityDemands ((t.humidityIndex? molecule).getD 0) air k, d.holds = true := by
  by_cases absent : t.nonlinear = []
  · simp [humidityDemands, absent]
  · obtain ⟨h, reference, fraction, index, here, positive, point, amount⟩ := node.humidity absent
    have inside := Grid.covered_contains (.inl (Grid.isIncreasing_iff.mp fits.humidities))
      (List.mem_of_getElem? point) (le_refl fraction)
    simp only [humidityDemands, List.isEmpty_eq_false_iff.mpr absent, index, here, Option.getD_some,
      Bool.false_eq_true, ↓reduceIte, List.forall_mem_singleton, positive,
      List.getD_eq_getElem?_getD, amount, mul_div_cancel_left₀ _ (ne_of_gt positive),
      Option.any_some]
    exact Bounds.contains_iff.mpr inside

omit fits in
theorem AtNode.energy : (densityDemand air).holds = true := by
  rw [densityDemand, Bool.not_eq_true']
  refine Bool.eq_false_iff.mpr fun zero => ?_
  have product : Exact.boltzmann * air.temperature = 0 := Exact.eq_of_same zero
  exact mul_ne_zero (ne_of_gt Exact.boltzmann_pos) node.nonzero product

/-- At a node all demands of an extraction with a single level are met. -/
theorem Fitting.demands_node (grids : t.VectorGrids) (logged : t.hasLog = .ok true)
    (positive : ∀ p ∈ t.pressures.toList, 0 < p) (single : o.pressure = 0)
    (ordered : t.checkOrders o = .ok ()) {frequency : Int}
    (known : frequency < t.frequencies.toList.length) :
    ∀ d ∈ t.demands o molecule air frequency, d.holds = true := by
  have reference : (t.referenceDemand molecule : Demand α).holds = true := by
    by_cases absent : t.nonlinear = []
    · simp [referenceDemand, absent]
    · obtain ⟨h, _, _, index, _⟩ := node.humidity absent
      simp [referenceDemand, index]
  have orders := (grids.meets_checkOrders o).succeeds_iff.mp ⟨_, ordered⟩
  have count : (t.countDemand air).holds = true := beq_iff_eq.mpr node.vmrs
  have chosen : (t.frequencyDemand frequency : Demand α).holds = true := decide_eq_true known
  simp only [demands, List.forall_mem_append, List.forall_mem_cons, List.not_mem_nil, false_implies,
    implies_true, and_true, single, fits.levels_node node grids logged positive,
    List.flatMap_cons, List.flatMap_nil, List.append_nil]
  exact ⟨⟨⟨⟨⟨reference, orders⟩, count, chosen⟩, fits.pressureDemands_node node positive⟩,
    fits.temperatureDemands_node node, fits.humidityDemands_node node⟩, node.energy⟩

end Success

/-- At a node an extraction gives the stored coefficients, whatever the orders, and with a single
level it succeeds. -/
theorem VectorGrids.extract_node {t : Table α} (grids : t.VectorGrids)
    (valid : t.validate = .ok ()) (logged : t.hasLog = .ok true)
    (positive : ∀ p ∈ t.pressures.toList, 0 < p) {o : Orders} {molecule : String} {air : Air α}
    {k a b : Nat} (node : t.AtNode molecule air k a b) (frequency : Int) :
    (∀ result, t.extract o molecule air frequency = .ok result →
      result.shape = [if frequency < 0 then t.frequencies.toList.length else 1, t.species.length] ∧
      ∃ density layout, Gas.numberDensity air.pressure air.temperature = .ok density ∧
        t.layout = .ok layout ∧
        ∀ f i, f < (if frequency < 0 then t.frequencies.toList.length else 1) →
          i < t.species.length → ∃ isNonlinear block v x, layout.nonlinear[i]? = some isNonlinear ∧
            layout.blocks[i]? = some block ∧ air.vmrs[i]? = some v ∧
            t.coefficients.get? [a, block.offset + (if isNonlinear then b else 0),
              if frequency < 0 then f else frequency.toNat, k] = some x ∧
            result.get? [f, i] = some (x * density * v)) ∧
    (o.pressure = 0 → t.checkOrders o = .ok () → frequency < t.frequencies.toList.length →
      ∃ result, t.extract o molecule air frequency = .ok result) := by
  have fits := (grids.validate_eq_ok_iff.mp valid).toFitting
  refine ⟨?_, ?_⟩
  · intro result extracted
    obtain ⟨c, rfl⟩ := (fits.extract_eq_ok grids).mp extracted
    rw [← c.count_eq grids]
    refine ⟨rfl, c.density, _, c.dense, grids.layout_eq fits.existing, ?_⟩
    intro f i bound species
    obtain ⟨isNonlinear, block, v, flag, placed, vmr, covers, entry⟩ :=
      c.exists_entry grids fits bound species
    have marked (nonlinear : isNonlinear = true) : t.nonlinear ≠ [] :=
      nonlinear_ne_nil (List.mem_of_getElem? (nonlinear ▸ flag))
    obtain ⟨x, stored, sum⟩ := c.tensorSum_node grids fits node positive marked covers
    refine ⟨isNonlinear, block, v, x, flag, placed, vmr, stored, ?_⟩
    rw [entry, sum, mul_comm, mul_assoc]
  · intro single ordered known
    exact (fits.meets_extract grids logged o molecule air frequency).succeeds_iff.mpr
      (fits.demands_node node grids logged positive single ordered known)

/-- The air at the second level of the sample, 10 K above its reference and with twice the
humidity. -/
def nodeAir : Air ℚ := ⟨2, 262, [1 / 5, 1 / 50, 1 / 5]⟩

theorem extract_node_sample : ∃ result, sample.VectorGrids ∧ sample.validate = .ok () ∧
    sample.hasLog = .ok true ∧ (∀ p ∈ sample.pressures.toList, 0 < p) ∧
    sample.AtNode "H2O" nodeAir 1 1 1 ∧
    sample.extract ⟨0, 1, 1⟩ "H2O" nodeAir (-1) = .ok result ∧ result.shape = [3, 3] ∧
    result.get? [0, 1] = some (1201 * (2 / 262) * (1 / 50)) := by
  have valid : sample.validate = .ok () := toOption_eq_some.mp (by decide +kernel)
  have logged : sample.hasLog = .ok true := toOption_eq_some.mp (by decide +kernel)
  have positive : ∀ p ∈ sample.pressures.toList, 0 < p := by decide +kernel
  have node : sample.AtNode "H2O" nodeAir 1 1 1 := by
    refine ⟨by decide +kernel, by decide +kernel, .inr ⟨252, 10, ?_⟩, rfl, fun _ =>
      ⟨1, 1 / 100, 2, ?_⟩⟩ <;> decide +kernel
  have ordered : sample.checkOrders ⟨0, 1, 1⟩ = .ok () := toOption_eq_some.mp (by decide +kernel)
  obtain ⟨entries, succeeds⟩ :=
    vectorGrids_sample.extract_node valid logged positive node (-1) (o := ⟨0, 1, 1⟩)
  obtain ⟨result, extracted⟩ := succeeds rfl ordered (by decide)
  obtain ⟨shape, density, layout, dense, laidOut, entry⟩ := entries result extracted
  obtain ⟨isNonlinear, block, v, x, flag, placed, vmr, stored, value⟩ :=
    entry 0 1 (by decide) (by decide)
  have places : sample.layout = .ok ⟨[false, true, false], [⟨0, 1⟩, ⟨1, 2⟩, ⟨3, 1⟩]⟩ := rfl
  cases places.symm.trans laidOut
  cases flag
  cases placed
  cases vmr
  have held : sample.coefficients.get? [1, 2, 0, 1] = some 1201 := by decide +kernel
  have known : Gas.numberDensity (2 : ℚ) 262 = .ok (2 / 262) :=
    toOption_eq_some.mp (by decide +kernel)
  cases known.symm.trans dense
  cases held.symm.trans stored
  exact ⟨result, vectorGrids_sample, valid, logged, positive, node, extracted, shape, value⟩

end Absorption.Table
