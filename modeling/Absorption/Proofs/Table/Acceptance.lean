import Absorption.Proofs.Table.Consistency
import Absorption.Tensor.Broadcast

set_option autoImplicit false

/-!
Which tables pass the checks, with arrays of any number of axes. Grids are only compared along their
last axis and sized by their first, so what passes has grids in order along each line
(`validate_accepts`). It is a table of grids with one axis each exactly if the grids have one.
-/

namespace Absorption

namespace Tensor

variable {α : Type}

/-- The place of an element is counted from the first of its line on. -/
theorem place?_concat {shape q : List Nat} {n i : Nat} :
    place? (shape ++ [n]) (q ++ [i]) =
      if i < n then (place? shape q).map (· * n + i) else none := by
  induction shape generalizing q with
  | nil =>
      cases q with
      | nil => simp [place?, volume]
      | cons a q => cases q <;> simp [place?]
  | cons m shape ih =>
      cases q with
      | nil => cases shape <;> simp [place?]
      | cons a q =>
          rw [List.cons_append, List.cons_append, place?, place?, ih, volume_append]
          by_cases inside : i < n
          · by_cases row : a < m
            · simp only [inside, row, if_true, Option.map_map, volume, Nat.mul_one]
              congr 1
              funext k
              simp only [Function.comp_apply, Nat.add_mul, Nat.mul_assoc, Nat.add_assoc]
            · simp [inside, row]
          · simp [inside]

theorem mem_chunks {size count : Nat} {xs line : List α} :
    line ∈ chunks size count xs ↔ ∃ k < count, line = (xs.drop (k * size)).take size := by
  induction count generalizing xs with
  | zero => simp [chunks]
  | succ count ih =>
      rw [chunks, List.mem_cons, ih]
      constructor
      · rintro (rfl | ⟨k, below, rfl⟩)
        · exact ⟨0, Nat.succ_pos _, by simp⟩
        · exact ⟨k + 1, by omega, by rw [List.drop_drop, Nat.add_mul, Nat.one_mul, Nat.add_comm]⟩
      · rintro ⟨k, below, rfl⟩
        cases k with
        | zero => exact .inl (by simp)
        | succ k =>
            exact .inr ⟨k, by omega,
              by rw [List.drop_drop, Nat.add_mul, Nat.one_mul, Nat.add_comm]⟩

/-- The line at a place holds the elements at a position and one more index. -/
theorem getElem?_line {t : Tensor α} {shape q : List Nat} {n k : Nat}
    (axes : t.shape = shape ++ [n]) (place : place? shape q = some k) (i : Nat) :
    ((t.toList.drop (k * n)).take n)[i]? = t.get? (q ++ [i]) := by
  rw [get?, axes, place?_concat, place, List.getElem?_take, List.getElem?_drop]
  by_cases inside : i < n
  · simp [inside, toList]
  · simp [inside]

/-- The lines of an array hold what stands at the positions that differ in the last index. -/
theorem lines_spec {t : Tensor α} {ls : List (List α)} (lines : t.lines = .ok ls) :
    (∀ row ∈ ls, ∃ q, ∀ i, row[i]? = t.get? (q ++ [i])) ∧
    ∀ q i x, t.get? (q ++ [i]) = some x → ∃ row ∈ ls, ∀ j : Nat, row[j]? = t.get? (q ++ [j]) := by
  rw [Tensor.lines] at lines
  cases last : t.shape.getLast? with
  | none => simp [last] at lines
  | some n =>
      simp only [last, Except.ok.injEq] at lines
      subst lines
      have axes : t.shape = t.shape.dropLast ++ [n] :=
        (List.dropLast_append_getLast? n last).symm
      constructor
      · intro row member
        obtain ⟨k, inside, rfl⟩ := mem_chunks.mp member
        exact ⟨_, getElem?_line axes (place?_position inside)⟩
      · intro q i x found
        rw [get?, axes, place?_concat] at found
        split at found
        · cases place : place? t.shape.dropLast q with
          | none => simp [place] at found
          | some k => exact ⟨_, mem_chunks.mpr ⟨k, place?_lt place, rfl⟩, getElem?_line axes place⟩
        · simp at found

/-- The size of the first axis, zero without axes. -/
def rowCount (t : Tensor α) : Nat := t.shape.headD 0

theorem length_eq_ok {t : Tensor α} {n : Nat} :
    t.length = .ok n ↔ t.shape ≠ [] ∧ t.rowCount = n := by
  cases shape : t.shape <;> simp [length, rowCount, shape]

/-- Elements that follow one another along the last axis are related. -/
def AlongLast (r : α → α → Prop) (t : Tensor α) : Prop :=
  t.shape ≠ [] ∧ ∀ (q : List Nat) (i j : Nat) x y, i < j → t.get? (q ++ [i]) = some x →
    t.get? (q ++ [j]) = some y → r x y

/-- An array of one axis whose elements are related in their order. -/
def Ordered (r : α → α → Prop) (t : Tensor α) : Prop :=
  t.IsVector ∧ t.toList.Pairwise r

theorem pairwise_iff_getElem? {β : Type} {r : β → β → Prop} {xs : List β} : xs.Pairwise r ↔
    ∀ (i j : Nat) x y, i < j → xs[i]? = some x → xs[j]? = some y → r x y := by
  rw [List.pairwise_iff_getElem]
  constructor
  · intro related i j x y below first second
    obtain ⟨inside, rfl⟩ := List.getElem?_eq_some_iff.mp first
    obtain ⟨inside', rfl⟩ := List.getElem?_eq_some_iff.mp second
    exact related i j inside inside' below
  · intro related i j inside inside' below
    exact related i j _ _ below (List.getElem?_eq_getElem inside) (List.getElem?_eq_getElem inside')

theorem alongLast_iff {r : α → α → Prop} {t : Tensor α} :
    t.AlongLast r ↔ ∃ ls, t.lines = .ok ls ∧ ∀ line ∈ ls, line.Pairwise r := by
  constructor
  · intro along
    obtain ⟨axes, related⟩ := along
    obtain ⟨ls, lines⟩ : ∃ ls, t.lines = .ok ls := by
      rw [Tensor.lines, List.getLast?_eq_some_getLast axes]
      exact ⟨_, rfl⟩
    refine ⟨ls, lines, fun line member => ?_⟩
    obtain ⟨q, elements⟩ := (lines_spec lines).1 line member
    rw [pairwise_iff_getElem?]
    intro i j x y below first second
    rw [elements] at first second
    exact related q i j x y below first second
  · rintro ⟨ls, lines, ordered⟩
    refine ⟨?_, ?_⟩
    · intro none
      simp [Tensor.lines, none] at lines
    · intro q i j x y below first second
      obtain ⟨line, member, elements⟩ := (lines_spec lines).2 q i x first
      rw [← elements] at first second
      exact pairwise_iff_getElem?.mp (ordered line member) i j x y below first second

/-- Along one axis all elements are of one line. -/
theorem ordered_iff {r : α → α → Prop} {t : Tensor α} :
    t.Ordered r ↔ t.IsVector ∧ t.AlongLast r := by
  rw [Ordered]
  refine and_congr_right fun oneAxis => ?_
  rw [alongLast_iff, oneAxis.lines]
  simp

end Tensor

theorem Grid.increases_eq_true {α : Type} [Scalar α] [OrderedScalar α] {t : Tensor α} :
    Grid.increases t = .ok true ↔ t.AlongLast (· < ·) := by
  simp only [Grid.increases, bind_eq_ok, pure_eq_ok, List.all_eq_true, Grid.isIncreasing_iff,
    Tensor.alongLast_iff]

theorem Grid.decreases_eq_true {α : Type} [Scalar α] [OrderedScalar α] {t : Tensor α} :
    Grid.decreases t = .ok true ↔ t.AlongLast (fun a b => b < a) := by
  simp only [Grid.decreases, bind_eq_ok, pure_eq_ok, List.all_eq_true, Grid.isDecreasing_iff,
    Tensor.alongLast_iff]

namespace Table

variable {α : Type}

/-- The documented conditions on a table, for a notion of arrays that are in order. -/
structure Formed [Scalar α] (ordered : (α → α → Prop) → Tensor α → Prop) (t : Table α) :
    Prop where
  species : t.species ≠ []
  ascending : t.nonlinear.Pairwise (· < ·)
  existing : ∀ i ∈ t.nonlinear, 0 ≤ i ∧ i < t.species.length
  frequencies : ordered (· < ·) t.frequencies
  pressures : ordered (fun a b => b < a) t.pressures
  temperatures : ordered (· < ·) t.temperaturePerturbations
  humidities : ordered (· < ·) t.humidityPerturbations
  referenceVmr : t.referenceVmr.shape = [t.species.length, t.pressures.rowCount]
  referenceTemperature : t.referenceTemperature.shape = [t.pressures.rowCount]
  perturbed : t.humidityPerturbations.rowCount = 0 ↔ t.nonlinear = []
  coefficients : t.coefficients.shape.map Int.ofNat =
    [max (t.temperaturePerturbations.rowCount : Int) 1,
      t.species.length + t.nonlinear.length * ((t.humidityPerturbations.rowCount : Int) - 1),
      t.frequencies.rowCount, t.pressures.rowCount]

/-- Tables of grids with one axis are in order as a whole if they are along that axis. -/
theorem formed_ordered_iff [Scalar α] {t : Table α} :
    t.Formed Tensor.Ordered ↔ t.VectorGrids ∧ t.Formed Tensor.AlongLast := by
  constructor
  · intro formed
    obtain ⟨frequencies, alongFrequencies⟩ := Tensor.ordered_iff.mp formed.frequencies
    obtain ⟨pressures, alongPressures⟩ := Tensor.ordered_iff.mp formed.pressures
    obtain ⟨temperatures, alongTemperatures⟩ := Tensor.ordered_iff.mp formed.temperatures
    obtain ⟨humidities, alongHumidities⟩ := Tensor.ordered_iff.mp formed.humidities
    exact ⟨⟨frequencies, pressures, temperatures, humidities⟩,
      { formed with
        frequencies := alongFrequencies
        pressures := alongPressures
        temperatures := alongTemperatures
        humidities := alongHumidities }⟩
  · rintro ⟨grids, formed⟩
    exact { formed with
      frequencies := Tensor.ordered_iff.mpr ⟨grids.frequencies, formed.frequencies⟩
      pressures := Tensor.ordered_iff.mpr ⟨grids.pressures, formed.pressures⟩
      temperatures := Tensor.ordered_iff.mpr ⟨grids.temperatures, formed.temperatures⟩
      humidities := Tensor.ordered_iff.mpr ⟨grids.humidities, formed.humidities⟩ }

section Checks

variable [Scalar α] [OrderedScalar α] {t : Table α}

theorem checkGrids_eq_ok {u : Unit} : t.checkGrids = .ok u ↔
    t.frequencies.AlongLast (· < ·) ∧ t.pressures.AlongLast (fun a b => b < a) ∧
      t.temperaturePerturbations.AlongLast (· < ·) ∧
      t.humidityPerturbations.AlongLast (· < ·) := by
  simp only [checkGrids, bind_eq_ok, require_eq_ok, ← Grid.increases_eq_true,
    ← Grid.decreases_eq_true]
  constructor
  · rintro ⟨_, frequencies, _, rfl, _, pressures, _, rfl, _, temperatures, _, rfl, _, humidities,
      rfl⟩
    exact ⟨frequencies, pressures, temperatures, humidities⟩
  · rintro ⟨frequencies, pressures, temperatures, humidities⟩
    exact ⟨_, frequencies, (), rfl, _, pressures, (), rfl, _, temperatures, (), rfl, _, humidities,
      rfl⟩

theorem validate_eq_ok_formed {u : Unit} : t.validate = .ok u ↔ t.Formed Tensor.AlongLast := by
  have size {a : Tensor α} {r : α → α → Prop} (along : a.AlongLast r) : a.length = .ok a.rowCount :=
    Tensor.length_eq_ok.mpr ⟨along.1, rfl⟩
  simp only [validate, bind_eq_ok, require_eq_ok, checkNonlinear_eq_ok, checkGrids_eq_ok]
  constructor
  · rintro ⟨n, pressures, _, species, _, ⟨ascending, existing⟩, _,
      ⟨frequencies, decreasing, temperatures, humidities⟩, _, profiles, shape⟩
    obtain ⟨_, rfl⟩ := Tensor.length_eq_ok.mp pressures
    obtain ⟨vmr, temperature, perturbed⟩ := (checkProfiles_eq_ok (size humidities)).mp profiles
    rw [checkShape_eq_ok (size temperatures), expectedShape_eq_ok (size humidities)
      (size temperatures) (size frequencies) (size decreasing), Except.ok.injEq] at shape
    exact ⟨by simpa using species, ascending, existing, frequencies, decreasing, temperatures,
      humidities, vmr, temperature, perturbed, shape.symm⟩
  · intro formed
    refine ⟨_, size formed.pressures, (), by simpa using formed.species, (),
      ⟨formed.ascending, formed.existing⟩, (),
      ⟨formed.frequencies, formed.pressures, formed.temperatures, formed.humidities⟩, (),
      (checkProfiles_eq_ok (size formed.humidities)).mpr
        ⟨formed.referenceVmr, formed.referenceTemperature, formed.perturbed⟩, ?_⟩
    rw [checkShape_eq_ok (size formed.temperatures), expectedShape_eq_ok (size formed.humidities)
      (size formed.temperatures) (size formed.frequencies) (size formed.pressures),
      formed.coefficients]

/-- The checks pass for the tables with grids in order along their last axis. The documented tables
are those of them whose grids have one axis each. -/
theorem validate_accepts (t : Table α) :
    (t.validate = .ok () ↔ t.Formed Tensor.AlongLast) ∧
    (t.Formed Tensor.Ordered ↔ t.VectorGrids ∧ t.validate = .ok ()) := by
  rw [validate_eq_ok_formed]
  exact ⟨Iff.rfl, formed_ordered_iff⟩

end Checks

/-- The sample is a documented table. -/
theorem validate_accepts_sample : sample.validate = .ok () ∧ sample.Formed Tensor.Ordered := by
  have valid : sample.validate = .ok () := toOption_eq_some.mp (by decide +kernel)
  exact ⟨valid, (validate_accepts sample).2.mpr ⟨vectorGrids_sample, valid⟩⟩

/-- A table whose frequencies go down along the first of two axes, in binary64 numbers. -/
def stacked : Table Float where
  species := ["O2"]
  nonlinear := []
  frequencies := ⟨[2, 1], #[200, 100], rfl⟩
  pressures := .ofList [1000]
  referenceVmr := ⟨[1, 1], #[0.2], rfl⟩
  referenceTemperature := .ofList [250]
  temperaturePerturbations := .ofList []
  humidityPerturbations := .ofList []
  coefficients := ⟨[1, 1, 2, 1], #[1, 2], rfl⟩
  logPressures := none

/-- The checks pass, though the frequencies decrease. -/
theorem validate_stacked : stacked.validate = .ok () ∧ ¬ stacked.Formed Tensor.Ordered := by
  refine ⟨toOption_eq_some.mp (by decide +kernel), ?_⟩
  intro formed
  have oneAxis : [2, 1] = [2] := formed.frequencies.1
  cases oneAxis

end Table
end Absorption
