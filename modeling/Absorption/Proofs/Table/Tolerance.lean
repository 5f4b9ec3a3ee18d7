import Absorption.Config.Problem
import Absorption.Proofs.Table.Composition

set_option autoImplicit false

/-!
How far a frequency may be from the one that is taken for it. The search takes what is not farther
than the tolerance, which is what is near only where the distance is a number: it is none from or to
what is not a number, or between two equal infinities (`Binary64.distance_le_self`). An axis of one
point may hold any of these, and a tolerance that is not a number passes the check of a
configuration.
-/

namespace Absorption

/-- A tolerance that passes the checks is positive, if it is a number. -/
theorem Config.tolerance_of_problems {c : Config} {x : Float}
    (set : c.frequencyTolerance = .float x) (sound : c.problems = .ok []) : ¬ x ≤ 0 := by
  intro bad
  have wrong : isNotPositive c.frequencyTolerance = .ok true := by
    rw [set, isNotPositive, Except.ok.injEq, decide_eq_true_eq]
    exact bad
  simp [problems, wrong, report, bind, Except.bind, pure, Except.pure] at sound

/-- An axis of several points that increase holds numbers only. -/
theorem Grid.le_self_of_isIncreasing {α : Type} [Scalar α] [OrderedScalar α] {grid : List α}
    (increasing : Grid.isIncreasing grid = true) (several : 1 < grid.length) {x : α}
    (point : x ∈ grid) : x ≤ x := by
  have order := List.pairwise_iff_getElem.mp (Grid.isIncreasing_iff.mp increasing)
  obtain ⟨i, inside, rfl⟩ := List.getElem_of_mem point
  by_cases last : i + 1 < grid.length
  · have below := order i (i + 1) inside last (by omega)
    exact (OrderedScalar.le_self (OrderedScalar.lt_iff.mp below).1).1
  · have above := order (i - 1) i (by omega) inside (by omega)
    exact (OrderedScalar.le_self (OrderedScalar.lt_iff.mp above).1).2

namespace Table

/-- An adapted table holds for each frequency that was asked for one that is not too far from it. It
is near, with a tolerance that passes the checks, exactly where the tolerance is a number and so is
the distance. Only an axis of one point can hold what is not a number. -/
theorem VectorGrids.near_of_adapt {t n : Table Float} (grids : t.VectorGrids) {r : Request Float}
    {s : Selection} (points : r.frequencies.IsVector) (adapted : t.adapt r = .ok (n, s))
    {c : Config} (set : c.frequencyTolerance = .float r.tolerance) (sound : c.problems = .ok []) :
    n.frequencies.toList.length = r.frequencies.toList.length ∧
    ∀ (k : Nat) x y, r.frequencies.toList[k]? = some x → n.frequencies.toList[k]? = some y →
      ¬ r.tolerance < Scalar.distance x y ∧
      (Scalar.distance x y ≤ r.tolerance ↔ 0 < r.tolerance ∧ x ≤ x ∧ y ≤ y ∧
        (Scalar.same x y = true → Scalar.IsFinite x)) ∧
      (1 < r.frequencies.toList.length → x ≤ x) ∧ (1 < t.frequencies.toList.length → y ≤ y) := by
  have increasing := increasing_of_adapt points adapted
  obtain ⟨chosen, rfl⟩ := grids.chosen_of_adapt adapted
  have positive := Config.tolerance_of_problems set sound
  have zero : (0 : Float) ≤ 0 := Binary64.le_self_iff.mpr ⟨0, rfl⟩
  have count : s.frequencyIndices.length = r.frequencies.toList.length := by
    have counted := chosen.frequencyCount
    rw [points.length, Except.ok.injEq] at counted
    exact counted.symm
  refine ⟨by rw [grids.length_frequencies_subset s, count], ?_⟩
  intro k x y point value
  have inside := (List.getElem?_eq_some_iff.mp point).1
  have index := List.getElem?_eq_getElem (l := s.frequencyIndices) (i := k) (by omega)
  rw [chosen.getElem?_frequencies grids index] at value
  have near := chosen.scan.not_far point index value
  refine ⟨near, ?_, ?_, ?_⟩
  · rw [← Binary64.distance_le_self]
    -- The search only excludes that the distance is greater. Between numbers this can be turned.
    constructor
    · intro within
      obtain ⟨distance, tolerance⟩ := OrderedScalar.le_self within
      exact ⟨OrderedScalar.lt_of_not_le zero tolerance positive, distance⟩
    · rintro ⟨number, distance⟩
      have tolerance := (OrderedScalar.le_self (OrderedScalar.lt_iff.mp number).1).2
      exact OrderedScalar.le_of_not_lt distance tolerance near
  · intro several
    exact Grid.le_self_of_isIncreasing increasing several (List.mem_of_getElem? point)
  · intro several
    exact Grid.le_self_of_isIncreasing chosen.consistent.frequencies several
      (List.mem_of_getElem? value)

/-- A request with the tolerance of a configuration that is left as it is. -/
def nearRequest : Request Float := ⟨["O2"], .ofList [100, 300.5], Gas.frequencyTolerance⟩

theorem near_of_adapt_sample : ∃ n, binary64Sample.VectorGrids ∧
    nearRequest.frequencies.IsVector ∧
    binary64Sample.adapt nearRequest = .ok (n, ⟨[0], [0, 2], [false], 1, 3⟩) ∧
    ({} : Config).frequencyTolerance = .float nearRequest.tolerance ∧
    ({} : Config).problems = .ok [] ∧ n.frequencies.toList[1]? = some 300 ∧
    Scalar.distance (300.5 : Float) 300 ≤ nearRequest.tolerance := by
  have selected : (binary64Sample.adapt nearRequest).toOption.map (·.2) =
      some ⟨[0], [0, 2], [false], 1, 3⟩ := by decide +kernel
  obtain ⟨⟨n, s⟩, found, rfl⟩ := Option.map_eq_some_iff.mp selected
  have adapted := toOption_eq_some.mp found
  have points : nearRequest.frequencies.IsVector := Tensor.isVector_ofList _
  have sound : ({} : Config).problems = .ok [] := by rfl
  obtain ⟨_, each⟩ := vectorGrids_binary64Sample.near_of_adapt points adapted rfl sound
  obtain ⟨chosen, rfl⟩ := vectorGrids_binary64Sample.chosen_of_adapt adapted
  have value := chosen.getElem?_frequencies vectorGrids_binary64Sample (k := 1) (f := 2) rfl
  refine ⟨_, vectorGrids_binary64Sample, points, adapted, rfl, sound, value, ?_⟩
  obtain ⟨_, near, _⟩ := each 1 300.5 300 rfl value
  exact near.mpr ⟨by decide +kernel, by decide +kernel, by decide +kernel,
    fun same => absurd same (by decide +kernel)⟩

/-- A request for what is not a number. -/
def notNumberRequest : Request Float := ⟨["O2"], .ofList [0 / 0], 1⟩

/-- What is not a number is found at the first frequency, which is not within the tolerance. -/
theorem adapt_notNumberRequest : ∃ n s, binary64Sample.VectorGrids ∧
    binary64Sample.validate = .ok () ∧ notNumberRequest.frequencies.IsVector ∧
    { frequencyTolerance := .float notNumberRequest.tolerance : Config }.problems = .ok [] ∧
    binary64Sample.adapt notNumberRequest = .ok (n, s) ∧ n.frequencies.toList[0]? = some 100 ∧
    ¬ Scalar.distance (0 / 0 : Float) 100 ≤ notNumberRequest.tolerance := by
  have grids := vectorGrids_binary64Sample
  have selected : (binary64Sample.adapt notNumberRequest).toOption.map (·.2) =
      some ⟨[0], [0], [false], 1, 3⟩ := by decide +kernel
  obtain ⟨⟨n, s⟩, found, rfl⟩ := Option.map_eq_some_iff.mp selected
  have adapted := toOption_eq_some.mp found
  obtain ⟨chosen, rfl⟩ := grids.chosen_of_adapt adapted
  exact ⟨_, _, grids, grids.validate_eq_ok_iff.mpr chosen.consistent, Tensor.isVector_ofList _, rfl,
    adapted, chosen.getElem?_frequencies grids (k := 0) (f := 0) rfl, by decide +kernel⟩

end Table
end Absorption
