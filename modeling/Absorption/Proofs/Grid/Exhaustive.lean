import Absorption.Proofs.Binary64.Difference
import Absorption.Proofs.Grid.Thinning

set_option autoImplicit false

/-!
The search in one pass against a search of the whole grid for each point. Where neither grid goes
down, a point that was passed on the way is too far from all later ones, so both find the same
(`locateFrom_eq_mapM`). What they find is near exactly if the tolerance is a number
(`locateIn_exhaustive`).
-/

namespace Absorption.Grid

variable {α : Type} [Scalar α]

/-- The search of a whole grid for one point, which is given with its number. -/
def seekWhole (tolerance : α) (old : List α) (point : α × Nat) : Outcome α Nat :=
  match old.findIdx? (fun a => !decide (tolerance < Scalar.distance point.1 a)) with
  | some j => .ok j
  | none => refuse (.gridPointNotFound point.2 point.1 tolerance)

variable {tolerance : α} {old new : List α}

theorem seekWhole_eq_ok {point : α × Nat} {j : Nat} :
    seekWhole tolerance old point = .ok j ↔ Foremost tolerance old point.1 j := by
  rw [seekWhole]
  cases found : old.findIdx? (fun a => !decide (tolerance < Scalar.distance point.1 a)) with
  | none =>
      simp only [refuse_ne_ok, false_iff]
      rintro ⟨⟨a, here, near⟩, _⟩
      have far := List.findIdx?_eq_none_iff.mp found a (List.mem_of_getElem? here)
      simp [near] at far
  | some i =>
      simp only [Except.ok.injEq]
      obtain ⟨inside, near, skipped⟩ := List.findIdx?_eq_some_iff_getElem.mp found
      simp only [Bool.not_eq_true', decide_eq_false_iff_not, not_not] at near skipped
      have first : Foremost tolerance old point.1 i := by
        refine ⟨⟨_, List.getElem?_eq_getElem inside, near⟩, ?_⟩
        intro k b below here
        obtain ⟨_, rfl⟩ := List.getElem?_eq_some_iff.mp here
        exact skipped k below
      constructor
      · rintro rfl
        exact first
      · intro other
        obtain ⟨a, here, near'⟩ := other.near
        rcases Nat.lt_trichotomy i j with below | same | above
        · exact absurd (other.far i _ below (List.getElem?_eq_getElem inside)) near
        · exact same
        · exact absurd (first.far j a above here) near'

theorem seekWhole_eq_error {point : α × Nat} {e : Failure α} :
    seekWhole tolerance old point = .error e ↔
      (∀ a ∈ old, tolerance < Scalar.distance point.1 a) ∧
        e = .refused (.gridPointNotFound point.2 point.1 tolerance) := by
  rw [seekWhole]
  cases found : old.findIdx? (fun a => !decide (tolerance < Scalar.distance point.1 a)) with
  | none =>
      have far := List.findIdx?_eq_none_iff.mp found
      simp only [Bool.not_eq_eq_eq_not, Bool.not_false, decide_eq_true_eq] at far
      simp only [refuse, Except.error.injEq, eq_comm (b := e)]
      exact ⟨fun same => ⟨far, same⟩, fun both => both.2⟩
  | some i =>
      obtain ⟨inside, near, _⟩ := List.findIdx?_eq_some_iff_getElem.mp found
      simp only [Bool.not_eq_true', decide_eq_false_iff_not] at near
      simp only [reduceCtorEq, false_iff]
      rintro ⟨far, _⟩
      exact near (far _ (List.getElem_mem inside))

/-- One pass finds what a search of the whole grid for each point finds, as long as all that was
passed is too far from what is still sought. -/
theorem locateFrom_eq_mapM [RoundedScalar α] (start count : Nat)
    (sorted : old.Pairwise (· ≤ ·)) (rising : new.Pairwise (· ≤ ·))
    (finite : ∀ x ∈ new, Scalar.IsFinite x)
    (passed : ∀ x ∈ new, ∀ k b, k < start → old[k]? = some b → tolerance < Scalar.distance x b) :
    locateFrom tolerance start (old.drop start) count new =
      (new.zipIdx count).mapM (seekWhole tolerance old) := by
  induction new generalizing start count with
  | nil => rfl
  | cons x new ih =>
      obtain ⟨j, forward, reached, skipped, near⟩ := seek_drop tolerance x old start
      have far (k : Nat) (b : α) (below : k < j) (here : old[k]? = some b) :
          tolerance < Scalar.distance x b := by
        by_cases early : k < start
        · exact passed x (.head _) k b early here
        · exact skipped k b (by omega) below here
      rw [locateFrom, reached, List.zipIdx_cons, List.mapM_cons]
      cases suffix : old.drop j with
      | nil =>
          have all : seekWhole tolerance old (x, count) =
              .error (.refused (.gridPointNotFound count x tolerance)) := by
            refine seekWhole_eq_error.mpr ⟨?_, rfl⟩
            intro a member
            obtain ⟨k, inside, rfl⟩ := List.getElem_of_mem member
            have passed := List.drop_eq_nil_iff.mp suffix
            exact far k _ (by omega) (List.getElem?_eq_getElem inside)
          rw [all]
          rfl
      | cons a tail =>
          have here : old[j]? = some a := by
            rw [← Nat.add_zero j, ← List.getElem?_drop, suffix]
            rfl
          have first : Foremost tolerance old x j := ⟨⟨a, here, near a here⟩, far⟩
          have finite' (y : α) (member : y ∈ new) := finite y (.tail _ member)
          have rest := ih j (count + 1) rising.of_cons finite' fun y member =>
            first.far_of_le sorted (finite x (.head _)) (finite' y member)
              (List.rel_of_pairwise_cons rising member)
          rw [seekWhole_eq_ok.mpr first, ok_bind, ← rest, suffix]

/-- What a search of the whole grid for each point gives: the first index of a point within the
tolerance, and a refusal of the first point that has none. -/
structure Exhaustive (tolerance : α) (old new : List α) (outcome : Outcome α (List Nat)) :
    Prop where
  succeeds : (∃ found, outcome = .ok found) ↔
    ∀ x ∈ new, ∃ a ∈ old, Scalar.distance x a ≤ tolerance
  found : ∀ found, outcome = .ok found → found.length = new.length ∧ found.Pairwise (· ≤ ·) ∧
    ∀ (i j : Nat) x, new[i]? = some x → found[i]? = some j →
      (∃ a, old[j]? = some a ∧ Scalar.distance x a ≤ tolerance) ∧
      ∀ k b, k < j → old[k]? = some b → ¬ Scalar.distance x b ≤ tolerance
  failed : ∀ e, outcome = .error e → ∃ (i : Nat) (x : α), new[i]? = some x ∧
    e = .refused (.gridPointNotFound i x tolerance) ∧
    (∀ a ∈ old, ¬ Scalar.distance x a ≤ tolerance) ∧
    ∀ k y, k < i → new[k]? = some y → ∃ a ∈ old, Scalar.distance y a ≤ tolerance

/-- A finite number is at some distance from each number. -/
theorem distance_le_self [RoundedScalar α] {x a : α} (finite : Scalar.IsFinite x)
    (number : a ≤ a) : Scalar.distance x a ≤ Scalar.distance x a := by
  have difference : x - a ≤ x - a := RoundedScalar.sub_le_sub_left finite number
  by_cases below : x < a
  · rw [OrderedScalar.distance_of_lt below]
    exact RoundedScalar.sub_le_sub_left RoundedScalar.finite_zero difference
  · rw [OrderedScalar.distance_of_not_lt below]
    exact difference

/-- Distances that are numbers are not greater than a number exactly if they are at most that. -/
theorem not_far_iff [OrderedScalar α] {d : α} (number : tolerance ≤ tolerance) (distance : d ≤ d) :
    ¬ tolerance < d ↔ d ≤ tolerance :=
  ⟨OrderedScalar.le_of_not_lt distance number,
    fun within far => (OrderedScalar.lt_iff.mp far).2 within⟩

/-- The first that is not too far is the first within the tolerance, where these are the same. -/
theorem Foremost.within {x : α} {j : Nat} (first : Foremost tolerance old x j)
    (near : ∀ a ∈ old, ¬ tolerance < Scalar.distance x a ↔ Scalar.distance x a ≤ tolerance) :
    (∃ a, old[j]? = some a ∧ Scalar.distance x a ≤ tolerance) ∧
      ∀ k b, k < j → old[k]? = some b → ¬ Scalar.distance x b ≤ tolerance := by
  obtain ⟨⟨a, here, close⟩, skipped⟩ := first
  refine ⟨⟨a, here, (near a (List.mem_of_getElem? here)).mp close⟩, ?_⟩
  intro k b below value within
  exact (near b (List.mem_of_getElem? value)).mpr within (skipped k b below value)

section Sorted

variable [RoundedScalar α] (sorted : old.Pairwise (· ≤ ·)) (rising : new.Pairwise (· ≤ ·))
  (finite : ∀ x ∈ new, Scalar.IsFinite x)
include sorted rising finite

theorem locateIn_eq_mapM (tolerance : α) : locateIn (.ofList old) (.ofList new) tolerance =
    new.zipIdx.mapM (seekWhole tolerance old) := by
  rw [locateIn_ofList]
  exact locateFrom_eq_mapM 0 0 sorted rising finite
    (fun _ _ k _ below _ => absurd below (Nat.not_lt_zero k))

/-- The search is exhaustive where what is not too far is within the tolerance. -/
theorem exhaustive_of_near (near : ∀ x ∈ new, ∀ a ∈ old,
      ¬ tolerance < Scalar.distance x a ↔ Scalar.distance x a ≤ tolerance) :
    Exhaustive tolerance old new (locateIn (.ofList old) (.ofList new) tolerance) := by
  have far (x : α) (point : x ∈ new) (a : α) (value : a ∈ old) :
      tolerance < Scalar.distance x a ↔ ¬ Scalar.distance x a ≤ tolerance := by
    rw [← near x point a value, not_not]
  have searched := locateIn_eq_mapM sorted rising finite tolerance
  refine ⟨?_, ?_, ?_⟩
  · constructor
    · rintro ⟨found, located⟩ x point
      rw [searched] at located
      obtain ⟨i, inside, rfl⟩ := List.getElem_of_mem point
      obtain ⟨j, step⟩ := exists_of_mapM located
        (List.mk_mem_zipIdx_iff_getElem?.mpr (List.getElem?_eq_getElem inside))
      obtain ⟨⟨a, here, within⟩, _⟩ := (seekWhole_eq_ok.mp step).within (near _ point)
      exact ⟨a, List.mem_of_getElem? here, within⟩
    · intro each
      rw [searched]
      refine exists_mapM fun point member => ?_
      have known := List.fst_mem_of_mem_zipIdx member
      obtain ⟨a, value, within⟩ := each point.1 known
      cases step : seekWhole tolerance old point with
      | ok j => exact ⟨j, rfl⟩
      | error e =>
          obtain ⟨all, _⟩ := seekWhole_eq_error.mp step
          exact absurd within ((far point.1 known a value).mp (all a value))
  · intro found located
    rw [locateIn_ofList] at searched located
    refine ⟨length_of_locate located, (locate_eq_ok.mp located).ascending, ?_⟩
    intro i j x point index
    rw [searched] at located
    obtain ⟨j', index', step⟩ := (mapM_eq_ok_iff_getElem?.mp located).2 i (x, i)
      (by rw [List.getElem?_zipIdx, point, Option.map_some, Nat.zero_add])
    rw [index, Option.some.injEq] at index'
    exact (seekWhole_eq_ok.mp (index' ▸ step)).within (near x (List.mem_of_getElem? point))
  · intro e failed
    rw [searched] at failed
    obtain ⟨i, ⟨x, n⟩, index, step, earlier⟩ := exists_of_mapM_error failed
    obtain ⟨y, point, same⟩ := Option.map_eq_some_iff.mp (List.getElem?_zipIdx ▸ index)
    cases same
    obtain ⟨all, rfl⟩ := seekWhole_eq_error.mp step
    have known := List.mem_of_getElem? point
    refine ⟨i, x, point, by rw [Nat.zero_add], ?_, ?_⟩
    · intro a value
      exact (far x known a value).mp (all a value)
    · intro k y below point'
      obtain ⟨j, step'⟩ := earlier k (y, k) below
        (by rw [List.getElem?_zipIdx, point', Option.map_some, Nat.zero_add])
      have known' := List.mem_of_getElem? point'
      obtain ⟨⟨a, here, within⟩, _⟩ := (seekWhole_eq_ok.mp step').within (near y known')
      exact ⟨a, List.mem_of_getElem? here, within⟩

/-- With a tolerance that is not a number every point is found at the first of the grid. -/
theorem locateIn_notNumber (absent : ¬ tolerance ≤ tolerance) (nonempty : old ≠ []) :
    locateIn (.ofList old) (.ofList new) tolerance = .ok (List.replicate new.length 0) := by
  obtain ⟨a, rest, rfl⟩ := List.exists_cons_of_ne_nil nonempty
  have first (point : α × Nat) : seekWhole tolerance (a :: rest) point = .ok 0 := by
    refine seekWhole_eq_ok.mpr ⟨⟨a, rfl, ?_⟩, fun k _ below => absurd below (Nat.not_lt_zero k)⟩
    intro far
    exact absent (OrderedScalar.le_self (OrderedScalar.lt_iff.mp far).1).1
  rw [locateIn_eq_mapM sorted rising finite, mapM_eq_map fun point _ => first point,
    List.map_const', List.length_zipIdx]

/-- A search in one pass over grids that do not go down is exhaustive, unless the tolerance is not a
number and there are points on both sides. -/
theorem locateIn_exhaustive (numbers : ∀ a ∈ old, a ≤ a) (tolerance : α) :
    (Exhaustive tolerance old new (locateIn (.ofList old) (.ofList new) tolerance) ↔
      tolerance ≤ tolerance ∨ old = [] ∨ new = []) ∧
    (¬ tolerance ≤ tolerance → old ≠ [] →
      locateIn (.ofList old) (.ofList new) tolerance = .ok (List.replicate new.length 0)) := by
  refine ⟨⟨?_, ?_⟩, locateIn_notNumber sorted rising finite⟩
  · intro exhaustive
    by_contra absent
    simp only [not_or] at absent
    obtain ⟨number, some, asked⟩ := absent
    obtain ⟨x, rest, rfl⟩ := List.exists_cons_of_ne_nil asked
    have found := locateIn_notNumber sorted rising finite number some
    obtain ⟨a, _, within⟩ := exhaustive.succeeds.mp ⟨_, found⟩ x List.mem_cons_self
    exact number (OrderedScalar.le_self within).2
  · intro known
    refine exhaustive_of_near sorted rising finite fun x point a value => ?_
    rcases known with number | rfl | rfl
    · exact not_far_iff number (distance_le_self (finite x point) (numbers a value))
    · cases value
    · cases point

end Sorted

/-- Two points of binary64 numbers within the tolerance of one, found for two others. -/
theorem locateIn_exhaustive_sample :
    [100, 100.5, 200].Pairwise (α := Float) (· ≤ ·) ∧
    [100.2, 101.25, 199.5].Pairwise (α := Float) (· ≤ ·) ∧
    Exhaustive 1 [100, 100.5, 200] [100.2, 101.25, 199.5]
      (locateIn (.ofList [100, 100.5, 200]) (.ofList [100.2, 101.25, 199.5]) (1 : Float)) := by
  have sorted : [100, 100.5, 200].Pairwise (α := Float) (· ≤ ·) := by decide +kernel
  have rising : [100.2, 101.25, 199.5].Pairwise (α := Float) (· ≤ ·) := by decide +kernel
  have finite : ∀ x ∈ ([100.2, 101.25, 199.5] : List Float), x - x ≤ x - x := by decide +kernel
  have numbers : ∀ a ∈ ([100, 100.5, 200] : List Float), a ≤ a := by decide +kernel
  exact ⟨sorted, rising, (locateIn_exhaustive sorted rising finite numbers 1).1.mpr
    (.inl (by decide +kernel))⟩

/-- No distance is greater than a tolerance that is not a number, so points are found that no
distance places within it. -/
theorem locateIn_missed : [100, 200, 300].Pairwise (α := Float) (· ≤ ·) ∧
    [5, 7].Pairwise (α := Float) (· ≤ ·) ∧ (∀ x ∈ ([5, 7] : List Float), Scalar.IsFinite x) ∧
    locateIn (.ofList [100, 200, 300]) (.ofList [5, 7]) (0 / 0 : Float) = .ok [0, 0] ∧
    ¬ Exhaustive (0 / 0) [100, 200, 300] [5, 7]
      (locateIn (.ofList [100, 200, 300]) (.ofList [5, 7]) (0 / 0 : Float)) := by
  have found : locateIn (.ofList [100, 200, 300]) (.ofList [5, 7]) (0 / 0 : Float) = .ok [0, 0] :=
    toOption_eq_some.mp (by decide +kernel)
  have finite : ∀ x ∈ ([5, 7] : List Float), x - x ≤ x - x := by decide +kernel
  refine ⟨by decide +kernel, by decide +kernel, finite, found, ?_⟩
  intro exhaustive
  obtain ⟨a, value, within⟩ := exhaustive.succeeds.mp ⟨_, found⟩ 5 (.head _)
  have none : ∀ a ∈ ([100, 200, 300] : List Float), ¬ Scalar.distance 5 a ≤ (0 / 0 : Float) := by
    decide +kernel
  exact none a value within

end Absorption.Grid
