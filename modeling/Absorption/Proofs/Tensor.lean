import Absorption.Proofs.Outcome
import Absorption.Table.Adapt
import Absorption.WeightedSum

set_option autoImplicit false

/-!
Reading arrays. A position is read if it lies within the shape (`get?_isSome`), arrays with one axis
are lists, and what `rows` and `pickMiddle` gather is what stands at the chosen indices.
-/

namespace Absorption.Tensor

variable {α : Type}

/-- A position has a place exactly if each index is below the size of its axis. -/
theorem place?_isSome {shape p : List Nat} :
    (place? shape p).isSome ↔ List.Forall₂ (· < ·) p shape := by
  induction shape generalizing p with
  | nil => cases p <;> simp [place?]
  | cons n shape ih =>
      cases p with
      | nil => simp [place?]
      | cons i p =>
          rw [place?, List.forall₂_cons]
          by_cases inside : i < n
          · simp [inside, ih]
          · simp [inside]

theorem get?_isSome {t : Tensor α} {p : List Nat} :
    (t.get? p).isSome ↔ List.Forall₂ (· < ·) p t.shape := by
  rw [← place?_isSome, get?]
  cases found : place? t.shape p with
  | none => simp
  | some k =>
      have bound : k < t.data.size := by
        rw [t.size_data]
        exact place?_lt found
      simp [bound]

theorem get?_eq_some_of_within {t : Tensor α} {p : List Nat}
    (within : List.Forall₂ (· < ·) p t.shape) : ∃ x, t.get? p = some x :=
  Option.isSome_iff_exists.mp (get?_isSome.mpr within)

/-- A position on four axes is an index on each. -/
theorem exists_of_within {p : List Nat} {n e f m : Nat}
    (within : List.Forall₂ (· < ·) p [n, e, f, m]) :
    ∃ a q k l, p = [a, q, k, l] ∧ a < n ∧ q < e ∧ k < f ∧ l < m := by
  simp only [List.forall₂_cons_right_iff, List.forall₂_nil_right_iff] at within
  obtain ⟨a, _, first, ⟨q, _, second, ⟨k, _, third, ⟨l, _, fourth, rfl, rfl⟩, rfl⟩, rfl⟩, rfl⟩ :=
    within
  exact ⟨a, q, k, l, rfl, first, second, third, fourth⟩

/-- Each place is that of its position. -/
theorem place?_position {shape : List Nat} {k : Nat} (inside : k < volume shape) :
    place? shape (position shape k) = some k := by
  induction shape generalizing k with
  | nil =>
      rw [volume, Nat.lt_one_iff] at inside
      rw [inside]
      rfl
  | cons n shape ih =>
      rw [volume] at inside
      have wide : 0 < volume shape := Nat.pos_of_mul_pos_left (Nat.zero_lt_of_lt inside)
      have row : k / volume shape < n := Nat.div_lt_of_lt_mul (by rwa [Nat.mul_comm])
      rw [position, place?, if_pos row, ih (Nat.mod_lt k wide), Option.map_some,
        Nat.div_add_mod']

/-- Arrays of one shape are the same if all their elements are. -/
theorem eq_of_get? {t u : Tensor α} (shape : t.shape = u.shape)
    (same : ∀ p, List.Forall₂ (· < ·) p t.shape → t.get? p = u.get? p) : t = u := by
  have elements (v : Tensor α) {k : Nat} (inside : k < volume v.shape) :
      v.data[k]? = v.get? (position v.shape k) := by
    rw [get?, place?_position inside, Option.bind_some]
  have data : t.data = u.data := by
    apply Array.ext (by rw [t.size_data, u.size_data, shape])
    intro k first second
    rw [t.size_data] at first
    have within : List.Forall₂ (· < ·) (position t.shape k) t.shape := by
      rw [← place?_isSome, place?_position first]
      rfl
    have left := elements t first
    have right := elements u (shape ▸ first)
    rw [same _ within, shape, ← right, Array.getElem?_eq_getElem ‹_›,
      Array.getElem?_eq_getElem second, Option.some.injEq] at left
    exact left
  obtain ⟨_, _, _⟩ := t
  obtain ⟨_, _, _⟩ := u
  simp only at shape data
  subst shape data
  rfl

/-- An array of what stands somewhere else, if that is there exactly within its shape. -/
theorem get?_ofFn_getD {shape p : List Nat} {f : List Nat → α} {found : Option α} {d : α}
    (value : f p = found.getD d) (both : (place? shape p).isSome ↔ found.isSome) :
    (ofFn shape f).get? p = found := by
  rw [get?_ofFn, value]
  cases found with
  | none => simp [both]
  | some x => simp [both]

/-- The element of one array at a position is that of another at another, and both are there. -/
def Copies (t : Tensor α) (p : List Nat) (u : Tensor α) (q : List Nat) : Prop :=
  ∃ x, t.get? p = some x ∧ u.get? q = some x

theorem copies_of_get? {t u : Tensor α} {p q : List Nat} (same : t.get? p = u.get? q)
    (within : List.Forall₂ (· < ·) p t.shape) : t.Copies p u q := by
  obtain ⟨x, found⟩ := get?_eq_some_of_within within
  exact ⟨x, found, same ▸ found⟩

/-- An array with a single axis. -/
def IsVector (t : Tensor α) : Prop := t.shape = [t.toList.length]

theorem isVector_ofList (xs : List α) : (ofList xs).IsVector := rfl

theorem isVector_of_shape {t : Tensor α} {n : Nat} (shape : t.shape = [n]) : t.IsVector := by
  have size := t.size_data
  simp only [shape, volume, Nat.mul_one] at size
  simp [IsVector, toList, shape, size]

theorem IsVector.map {β : Type} {t : Tensor α} (h : t.IsVector) (f : α → β) :
    (t.map f).IsVector := by
  rw [IsVector, shape_map, toList_map, List.length_map]
  exact h

namespace IsVector

variable {t : Tensor α}

theorem eq_ofList (h : t.IsVector) : t = ofList t.toList := by
  obtain ⟨shape, data, size⟩ := t
  simp only [IsVector, toList] at h
  subst h
  simp [ofList, toList]

theorem length (h : t.IsVector) : t.length = .ok t.toList.length := by
  rw [Tensor.length, h]

theorem points (h : t.IsVector) : t.points = .ok t.toList := by
  rw [h.eq_ofList, points_ofList, toList_ofList]

theorem hasRows (h : t.IsVector) : t.hasRows = false := by
  simp [Tensor.hasRows, show t.shape = _ from h]

theorem lines (h : t.IsVector) : t.lines = .ok [t.toList] := by
  simp [Tensor.lines, show t.shape = _ from h, chunks, volume]

theorem get? (h : t.IsVector) (k : Nat) : t.get? [k] = t.toList[k]? := by
  rw [Tensor.get?, show t.shape = _ from h]
  by_cases inside : k < t.data.size
  · simp [place?, inside, volume, toList]
  · simp [place?, inside, toList]

end IsVector

/-- Entries at indices that do not count from the end. -/
theorem valueAt_ofNat [Scalar α] {t : Tensor α} {p : List Nat}
    (axes : p.length = t.shape.length) :
    t.valueAt (p.map Int.ofNat) = orFail .outOfBounds (t.get? p) := by
  rw [valueAt, entry_map_ofNat axes]
  cases t.get? p <;> rfl

/-- Indices that lead to the same places lead to the same entry. -/
theorem entry_congr {t : Tensor α} {start other : List Int} (length : start.length = other.length)
    (places : span? t.shape start = span? t.shape other) : t.entry start = t.entry other := by
  rw [entry, entry, below?, below?, places, length]

theorem lt_of_wrap? {n k : Nat} {i : Int} (wrapped : wrap? n i = some k) : k < n := by
  rw [wrap?] at wrapped
  split at wrapped <;> split at wrapped
  all_goals
    simp only [Option.some.injEq, reduceCtorEq] at wrapped
  all_goals omega

/-- An index that counts from the end leads to where the index from the front leads. -/
theorem span?_of_wrap? {n k : Nat} {i : Int} (wrapped : wrap? n i = some k) {shape : List Nat}
    {start other : List Int} (further : span? shape start = span? shape other) :
    span? (n :: shape) (i :: start) = span? (n :: shape) (Int.ofNat k :: other) := by
  rw [span?, span?, wrapped, wrap?_ofNat, if_pos (lt_of_wrap? wrapped), further]

/-- What stands at an index of the first axis is a part of the array. -/
theorem exists_part? {t : Tensor α} {n i : Nat} {further : List Nat}
    (shape : t.shape = n :: further) (inside : i < n) :
    ∃ u, t.part? [Int.ofNat i] = some u ∧ u.shape = further ∧
      ∀ q, u.get? q = t.get? (i :: q) := by
  obtain ⟨_, data, size_data⟩ := t
  subst shape
  have last : i * volume further + volume further ≤ data.size := by
    rw [size_data, volume, ← Nat.succ_mul]
    exact Nat.mul_le_mul_right _ inside
  have place : span? (n :: further) [Int.ofNat i] =
      some (i * volume further, volume further) := by
    rw [span?, wrap?_ofNat, if_pos inside, span?]
    rfl
  let elements := (data.extract (i * volume further) (i * volume further + volume further)).toList
  have size : elements.length = volume further := by
    rw [Array.length_toList, Array.size_extract]
    omega
  refine ⟨⟨further, elements.toArray, size⟩, ?_, rfl, fun q => ?_⟩
  · rw [part?, below?, place, Option.map_some, Option.bind_some]
    exact dif_pos size
  · rw [get?, get?, place?, if_pos inside]
    cases found : place? further q with
    | none => rfl
    | some k =>
        have bound := place?_lt found
        simp only [Option.map_some, Option.bind_some, List.getElem?_toArray]
        rw [Array.getElem?_toList, Array.getElem?_extract, if_pos (by omega)]

theorem entry_eq_ok {t : Tensor α} {p : List Nat} (axes : p.length = t.shape.length)
    {found : Entry α} : t.entry (p.map Int.ofNat) = .ok found ↔
      ∃ x, t.get? p = some x ∧ found = ⟨x, false⟩ := by
  rw [entry_map_ofNat axes]
  cases t.get? p with
  | none => simp [orFail]
  | some x => simp [eq_comm]

/-- Arrays that agree are the same where numbers that compare as equal are. -/
theorem eq_of_same [Scalar α] (exact : ∀ x y : α, Scalar.same x y = true → x = y)
    {t u : Tensor α} (agree : t.same u = true) : t = u := by
  rw [same, Bool.and_eq_true, beq_iff_eq, List.all_eq_true] at agree
  obtain ⟨shape, numbers⟩ := agree
  have length : t.toList.length = u.toList.length := by
    rw [toList, toList, Array.length_toList, Array.length_toList, t.size_data, u.size_data, shape]
  have elements : t.toList = u.toList := by
    apply List.ext_getElem length
    intro i first second
    have pair : (t.toList[i], u.toList[i]) ∈ t.toList.zip u.toList := by
      rw [← List.getElem_zip (h := by rw [List.length_zip]; omega)]
      exact List.getElem_mem _
    exact exact _ _ (numbers _ pair)
  obtain ⟨_, data, _⟩ := t
  obtain ⟨_, data', _⟩ := u
  simp only at shape
  have same : data = data' := Array.ext' elements
  subst shape same
  rfl

section Gather

variable [Scalar α] {t : Tensor α}

@[simp] theorem shape_rows {n : Nat} {further : List Nat} (shape : t.shape = n :: further)
    (indices : Array Nat) : (t.rows indices).shape = indices.size :: further := by
  simp [rows, shape]

/-- A gathered row is the row at the chosen index. -/
theorem get?_rows {n : Nat} {further : List Nat} (shape : t.shape = n :: further)
    {indices : Array Nat} {i j : Nat} (chosen : indices[i]? = some j) (inside : j < n)
    (q : List Nat) : (t.rows indices).get? (i :: q) = t.get? (j :: q) := by
  obtain ⟨bound, _⟩ := Array.getElem?_eq_some_iff.mp chosen
  have both : (place? (indices.size :: further) (i :: q)).isSome ↔ (t.get? (j :: q)).isSome := by
    rw [place?_isSome, get?_isSome, shape, List.forall₂_cons, List.forall₂_cons]
    simp only [bound, inside]
  simp only [rows, shape]
  exact get?_ofFn_getD (d := 0) (by simp only [chosen, Option.bind_some]) both

theorem shape_pickMiddle {n e f m : Nat} (shape : t.shape = [n, e, f, m])
    (seconds thirds : Array Nat) :
    (Table.pickMiddle t seconds thirds).shape = [n, seconds.size, thirds.size, m] := by
  simp [Table.pickMiddle, shape]

/-- A gathered element is the element at the chosen indices of the second and third axis. -/
theorem get?_pickMiddle {n e f m : Nat} (shape : t.shape = [n, e, f, m])
    {seconds thirds : Array Nat} {i j k l second third : Nat}
    (chosenSecond : seconds[j]? = some second) (insideSecond : second < e)
    (chosenThird : thirds[k]? = some third) (insideThird : third < f) :
    (Table.pickMiddle t seconds thirds).get? [i, j, k, l] = t.get? [i, second, third, l] := by
  obtain ⟨boundSecond, _⟩ := Array.getElem?_eq_some_iff.mp chosenSecond
  obtain ⟨boundThird, _⟩ := Array.getElem?_eq_some_iff.mp chosenThird
  have both : (place? [n, seconds.size, thirds.size, m] [i, j, k, l]).isSome ↔
      (t.get? [i, second, third, l]).isSome := by
    rw [place?_isSome, get?_isSome, shape]
    simp only [List.forall₂_cons, List.forall₂_nil_left_iff, boundSecond, insideSecond, boundThird,
      insideThird, true_and]
  simp only [Table.pickMiddle, shape]
  exact get?_ofFn_getD (d := 0) (by simp only [chosenSecond, chosenThird, Option.bind_some]) both

end Gather

end Absorption.Tensor
