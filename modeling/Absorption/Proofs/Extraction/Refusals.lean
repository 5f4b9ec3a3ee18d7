import Absorption.Proofs.Extraction.Demands

set_option autoImplicit false

/-!
Which refusals an extraction can end in. From a consistent table whose logarithms are up to date it
is refused for a demand that is not met (`Fitting.refused_by_demand`), and what a demand refuses
tells its kind: first the species, the orders, the amounts and the frequency, then the ranges.
-/

namespace Absorption

variable {α : Type}

/-- The kind of the refusal, unless the failure is a fault. -/
def Demand.kind? (d : Demand α) : Option Kind :=
  match d.failure with
  | .refused r => some r.kind
  | .fault _ => none

/-- A number is out of range. -/
def Kind.OfRange (k : Kind) : Prop :=
  k = .pressureRange ∨ k = .temperatureRange ∨ k = .humidityRange

namespace Table

variable {t : Table α} {o : Orders} {molecule : String} {air : Air α} {frequency : Int}

/-- What is demanded before any range is looked at. -/
def earlyDemands (t : Table α) (o : Orders) (molecule : String) (air : Air α) (frequency : Int) :
    List (Demand α) :=
  [t.referenceDemand molecule] ++ t.orderDemands o ++
    [t.countDemand air, t.frequencyDemand frequency]

theorem kind?_earlyDemands {d : Demand α} (demanded : d ∈ t.earlyDemands o molecule air frequency)
    {k : Kind} (kind : d.kind? = some k) : k = .noHumidityReference ∨ k = .request ∨
      k = .insufficientGrid ∨ k = .dimensionMismatch ∨ k = .indexOutOfRange := by
  simp only [earlyDemands, orderDemands, List.cons_append, List.nil_append, List.mem_cons,
    List.not_mem_nil, or_false] at demanded
  rcases demanded with rfl | rfl | rfl | rfl | rfl | rfl | rfl <;> cases kind <;>
    simp [Refusal.kind]

/-- Where all that is demanded early is met, the orders fit the table, the air has an amount for
each species, and nonlinear species have one that humidity is taken from. -/
theorem VectorGrids.ordered_of_early (grids : t.VectorGrids)
    (early : ∀ d ∈ t.earlyDemands o molecule air frequency, d.holds = true) :
    t.checkOrders o = .ok () ∧ air.vmrs.length = t.species.length ∧
      (t.nonlinear = [] ∨ ∃ h, t.humidityIndex? molecule = some h) := by
  simp only [earlyDemands, List.mem_append, List.mem_cons, List.not_mem_nil, or_false] at early
  refine ⟨?_, ?_, ?_⟩
  · have orders : ∀ d ∈ t.orderDemands o, d.holds = true :=
      fun d demanded => early d (.inl (.inr demanded))
    obtain ⟨_, ordered⟩ := (grids.meets_checkOrders o).succeeds_iff.mpr orders
    exact ordered
  · exact beq_iff_eq.mp (early (t.countDemand air) (.inr (.inl rfl)))
  · have reference := early (t.referenceDemand molecule) (.inl (.inl rfl))
    simpa [referenceDemand, Option.isSome_iff_exists] using reference

variable [Scalar α]

/-- What is demanded of the pressure, and at each level that takes part. -/
def rangeDemands (t : Table α) (o : Orders) (molecule : String) (air : Air α) : List (Demand α) :=
  t.pressureDemands air.pressure ++ (t.levels o.pressure air.pressure).flatMap fun level =>
    t.temperatureDemands air level ++
      t.humidityDemands ((t.humidityIndex? molecule).getD 0) air level

theorem demands_eq_append : t.demands o molecule air frequency =
    t.earlyDemands o molecule air frequency ++
      (t.rangeDemands o molecule air ++ [densityDemand air]) := by
  simp only [demands, earlyDemands, rangeDemands, List.append_assoc]

/-- A demand for a range is one of the pressure, or of the temperature or the humidity at a
level. -/
theorem mem_rangeDemands {d : Demand α} (demanded : d ∈ t.rangeDemands o molecule air) :
    d.kind? = some .pressureRange ∧ d ∈ t.pressureDemands air.pressure ∨
    ∃ level ∈ t.levels o.pressure air.pressure,
      d.kind? = some .temperatureRange ∧ d ∈ t.temperatureDemands air level ∨
      d.kind? = some .humidityRange ∧
        d ∈ t.humidityDemands ((t.humidityIndex? molecule).getD 0) air level := by
  simp only [rangeDemands, List.mem_append, List.mem_flatMap] at demanded
  rcases demanded with outside | ⟨level, takesPart, offset | fraction⟩
  · refine .inl ⟨?_, outside⟩
    simp only [pressureDemands, List.mem_cons, List.not_mem_nil, or_false] at outside
    rcases outside with rfl | rfl <;> rfl
  · refine .inr ⟨level, takesPart, .inl ⟨?_, offset⟩⟩
    simp only [temperatureDemands, List.mem_ite_nil_left, List.mem_singleton] at offset
    rw [offset.2]
    rfl
  · refine .inr ⟨level, takesPart, .inr ⟨?_, fraction⟩⟩
    simp only [humidityDemands, List.mem_ite_nil_left, List.mem_singleton] at fraction
    rw [fraction.2]
    rfl

namespace Fitting

variable (fits : t.Fitting) (grids : t.VectorGrids) (logged : t.hasLog = .ok true)
include fits grids logged

/-- An extraction is refused for the first demand that is not met. -/
theorem refused_by_demand {r : Refusal α}
    (refused : t.extract o molecule air frequency = refuse r) :
    ∃ d, unmet? (t.demands o molecule air frequency) = some d ∧ d.failure = .refused r := by
  have meets := fits.meets_extract grids logged o molecule air frequency
  cases found : unmet? (t.demands o molecule air frequency) with
  | none =>
      obtain ⟨result, extracted⟩ := meets.succeeds_iff.mpr (unmet?_eq_none.mp found)
      rw [extracted] at refused
      cases refused
  | some d =>
      have failed := meets.fails_with found
      rw [refused, refuse, Except.error.injEq] at failed
      exact ⟨d, rfl, failed.symm⟩

/-- The kinds of refusals that an extraction can end in. -/
theorem kind_of_refused {r : Refusal α}
    (refused : t.extract o molecule air frequency = refuse r) :
    r.kind.OfRange ∨ r.kind = .noHumidityReference ∨ r.kind = .request ∨
      r.kind = .insufficientGrid ∨ r.kind = .dimensionMismatch ∨ r.kind = .indexOutOfRange := by
  obtain ⟨d, found, failure⟩ := fits.refused_by_demand grids logged refused
  have kind : d.kind? = some r.kind := by rw [Demand.kind?, failure]
  have kind_eq {k : Kind} (other : d.kind? = some k) : r.kind = k := by
    rwa [kind, Option.some.injEq] at other
  have member := List.mem_of_find?_eq_some found
  simp only [demands_eq_append, List.mem_append, List.mem_singleton] at member
  rcases member with early | range | rfl
  · exact .inr (kind?_earlyDemands early kind)
  · rcases mem_rangeDemands range with ⟨same, _⟩ | ⟨_, _, ⟨same, _⟩ | ⟨same, _⟩⟩
    · exact .inl (.inl (kind_eq same))
    · exact .inl (.inr (.inl (kind_eq same)))
    · exact .inl (.inr (.inr (kind_eq same)))
  · cases kind

/-- Where an extraction is refused for a range, all that it demands earlier is met, and a demand for
the range is not. -/
theorem refused_for_range {r : Refusal α}
    (refused : t.extract o molecule air frequency = refuse r) (range : r.kind.OfRange) :
    (∀ d ∈ t.earlyDemands o molecule air frequency, d.holds = true) ∧ ∃ d : Demand α,
      d.holds = false ∧ d.failure = .refused r ∧
        (r.kind = .pressureRange ∧ d ∈ t.pressureDemands air.pressure ∨
          ∃ level ∈ t.levels o.pressure air.pressure,
            r.kind = .temperatureRange ∧ d ∈ t.temperatureDemands air level ∨
            r.kind = .humidityRange ∧
              d ∈ t.humidityDemands ((t.humidityIndex? molecule).getD 0) air level) := by
  obtain ⟨d, found, failure⟩ := fits.refused_by_demand grids logged refused
  have kind : d.kind? = some r.kind := by rw [Demand.kind?, failure]
  have later : d ∉ t.earlyDemands o molecule air frequency := by
    intro early
    have other := kind?_earlyDemands early kind
    rcases range with same | same | same <;> rw [same] at other <;> revert other <;> decide
  have unmet : d.holds = false := by simpa using List.find?_some found
  rw [demands_eq_append] at found
  obtain ⟨early, found⟩ := unmet?_append_of_not_mem found later
  refine ⟨early, d, unmet, failure, ?_⟩
  rcases List.mem_append.mp (List.mem_of_find?_eq_some found) with member | last
  · have demanded := mem_rangeDemands member
    simpa only [kind, Option.some.injEq] using demanded
  · rw [List.mem_singleton.mp last] at kind
    cases kind

end Fitting

end Table
end Absorption
