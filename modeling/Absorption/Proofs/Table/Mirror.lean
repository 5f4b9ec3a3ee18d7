import Absorption.Proofs.Tensor

set_option autoImplicit false

/-!
Tables whose pressures run the other way. Wherever an array has an axis of pressures it is the last
one, so each of these arrays is mirrored along its last axis. What stood at a position is then found
at the mirrored position (`get?_mirrored`), and mirroring twice changes nothing.
-/

namespace Absorption

namespace Tensor

/-- An index of an axis of `n` places, counted from the other end. -/
def mirrorIndex (n i : Nat) : Nat := if i < n then n - 1 - i else i

theorem mirrorIndex_of_lt {n i : Nat} (inside : i < n) : mirrorIndex n i = n - 1 - i :=
  if_pos inside

theorem mirrorIndex_lt {n i : Nat} : mirrorIndex n i < n ↔ i < n := by
  rw [mirrorIndex]
  split <;> omega

@[simp] theorem mirrorIndex_mirrorIndex (n i : Nat) : mirrorIndex n (mirrorIndex n i) = i := by
  by_cases inside : i < n
  · rw [mirrorIndex_of_lt (mirrorIndex_lt.mpr inside), mirrorIndex_of_lt inside]
    omega
  · rw [mirrorIndex, if_neg (mt mirrorIndex_lt.mp inside), mirrorIndex, if_neg inside]

/-- The position with its index on the last axis counted from the other end. -/
def mirrorLast : (shape position : List Nat) → List Nat
  | [], position => position
  | _ :: _, [] => []
  | [n], i :: further => mirrorIndex n i :: further
  | _ :: n :: shape, i :: position => i :: mirrorLast (n :: shape) position

theorem within_mirrorLast {shape p : List Nat} :
    List.Forall₂ (· < ·) (mirrorLast shape p) shape ↔ List.Forall₂ (· < ·) p shape := by
  fun_induction mirrorLast shape p with
  | case1 => rfl
  | case2 => rfl
  | case3 n i further => rw [List.forall₂_cons, List.forall₂_cons, mirrorIndex_lt]
  | case4 _ n shape i p ih => rw [List.forall₂_cons, List.forall₂_cons, ih]

@[simp] theorem mirrorLast_mirrorLast (shape p : List Nat) :
    mirrorLast shape (mirrorLast shape p) = p := by
  fun_induction mirrorLast shape p with
  | case1 => rfl
  | case2 => rfl
  | case3 n i further => rw [mirrorLast, mirrorIndex_mirrorIndex]
  | case4 _ n shape i p ih => rw [mirrorLast, ih]

@[simp] theorem length_mirrorLast (shape p : List Nat) :
    (mirrorLast shape p).length = p.length := by
  fun_induction mirrorLast shape p with
  | case1 => rfl
  | case2 => rfl
  | case3 n i further => rfl
  | case4 _ n shape i p ih => rw [List.length_cons, List.length_cons, ih]

variable {α : Type}

/-- An index that counts from the end leads to what the index from the front leads to. -/
theorem entry_of_wrap? {t : Tensor α} {n : Nat} {further : List Nat}
    (shape : t.shape = n :: further) {row : Int} {i : Nat} (wrapped : wrap? n row = some i)
    (start : List Int) :
    t.entry (row :: start) = t.entry (Int.ofNat i :: start) := by
  refine entry_congr rfl ?_
  rw [shape]
  exact span?_of_wrap? wrapped rfl

variable [Scalar α]

/-- The array that runs the other way along its last axis. -/
def mirrored (t : Tensor α) : Tensor α :=
  .ofFn t.shape fun p => (t.get? (mirrorLast t.shape p)).getD 0

@[simp] theorem shape_mirrored (t : Tensor α) : t.mirrored.shape = t.shape := rfl

theorem get?_mirrored (t : Tensor α) (p : List Nat) :
    t.mirrored.get? p = t.get? (mirrorLast t.shape p) := by
  refine get?_ofFn_getD rfl ?_
  rw [place?_isSome, get?_isSome, within_mirrorLast]

@[simp] theorem mirrored_mirrored (t : Tensor α) : t.mirrored.mirrored = t := by
  refine eq_of_get? rfl fun p _ => ?_
  rw [get?_mirrored, get?_mirrored, shape_mirrored, mirrorLast_mirrorLast]

theorem IsVector.mirrored {t : Tensor α} (h : t.IsVector) : t.mirrored.IsVector :=
  isVector_of_shape h

theorem toList_mirrored {t : Tensor α} (h : t.IsVector) : t.mirrored.toList = t.toList.reverse := by
  apply List.ext_getElem?
  intro k
  have shape : t.shape = [t.toList.length] := h
  rw [← h.mirrored.get?, get?_mirrored, shape, mirrorLast, h.get?]
  by_cases inside : k < t.toList.length
  · rw [mirrorIndex_of_lt inside, List.getElem?_reverse inside]
  · rw [mirrorIndex, if_neg inside, List.getElem?_eq_none (Nat.not_lt.mp inside),
      List.getElem?_eq_none (by rw [List.length_reverse]; exact Nat.not_lt.mp inside)]

theorem mirrored_map (f : α → α) (t : Tensor α) : (t.map f).mirrored = t.mirrored.map f := by
  refine eq_of_get? rfl fun p _ => ?_
  rw [get?_mirrored, get?_map, get?_map, get?_mirrored, shape_map]

/-- The entry at a position is found at the mirrored position of the mirrored array. -/
theorem entry_mirrored {t : Tensor α} {p : List Nat} (axes : p.length = t.shape.length) :
    t.mirrored.entry ((mirrorLast t.shape p).map Int.ofNat) = t.entry (p.map Int.ofNat) := by
  have axes' : (mirrorLast t.shape p).length = t.mirrored.shape.length := by
    rw [length_mirrorLast, axes, shape_mirrored]
  rw [entry_map_ofNat axes', entry_map_ofNat axes, get?_mirrored, mirrorLast_mirrorLast]

/-- An entry of a row, which may be counted from the last, is found in this row of the mirrored
array. -/
theorem entry_row_mirrored {t : Tensor α} {n m : Nat} (shape : t.shape = [n, m]) {l : Nat}
    (inside : l < m) (row : Int) :
    t.mirrored.entry [row, Int.ofNat (m - 1 - l)] = t.entry [row, Int.ofNat l] := by
  cases wrapped : wrap? n row with
  | none => simp only [entry, below?, shape_mirrored, shape, span?, wrapped, Option.map_none]
  | some i =>
      have mirrored := entry_mirrored (t := t) (p := [i, l]) (by rw [shape]; rfl)
      rw [shape, mirrorLast, mirrorLast, mirrorIndex_of_lt inside] at mirrored
      rw [entry_of_wrap? shape wrapped, entry_of_wrap? (t := t.mirrored) shape wrapped]
      exact mirrored

end Tensor

/-- The table with its pressures in the other order. -/
def Table.mirrored {α : Type} [Scalar α] (t : Table α) : Table α :=
  { t with
    pressures := t.pressures.mirrored
    referenceVmr := t.referenceVmr.mirrored
    referenceTemperature := t.referenceTemperature.mirrored
    coefficients := t.coefficients.mirrored
    logPressures := t.logPressures.map Tensor.mirrored }

@[simp] theorem Table.mirrored_mirrored {α : Type} [Scalar α] (t : Table α) :
    t.mirrored.mirrored = t := by
  simp [mirrored, Function.comp_def]

end Absorption
