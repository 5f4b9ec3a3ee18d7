import Absorption.Failure.Basic

set_option autoImplicit false

/-!
Dense arrays of any number of axes, stored with the last axis running fastest. The main statement
is `get?_ofFn`: an array built from a function holds the values of the function at the positions
within its shape and nothing elsewhere.
-/

namespace Absorption

/-- The number of elements of an array with axes of these sizes. -/
def volume : List Nat → Nat
  | [] => 1
  | n :: shape => n * volume shape

/-- An array of `shape`, with its elements in order. -/
structure Tensor (α : Type) where
  shape : List Nat
  data : Array α
  size_data : data.size = volume shape

namespace Tensor

variable {α β : Type}

/-- The place of the element at a position, if the position is within the shape. -/
def place? : (shape position : List Nat) → Option Nat
  | [], [] => some 0
  | n :: shape, i :: position =>
    if i < n then (place? shape position).map (i * volume shape + ·) else none
  | _, _ => none

/-- The position of the element at a place. -/
def position : (shape : List Nat) → (place : Nat) → List Nat
  | [], _ => []
  | _ :: shape, k => k / volume shape :: position shape (k % volume shape)

theorem place?_lt {shape position : List Nat} {k : Nat} (h : place? shape position = some k) :
    k < volume shape := by
  induction shape generalizing position k with
  | nil => cases position <;> simp_all [place?, volume]
  | cons n shape ih =>
    cases position with
    | nil => simp [place?] at h
    | cons i position =>
      rw [place?] at h
      split at h
      · next hi =>
        obtain ⟨r, hr, rfl⟩ := Option.map_eq_some_iff.1 h
        have hlt := ih hr
        have hmul : (i + 1) * volume shape ≤ n * volume shape := Nat.mul_le_mul_right _ hi
        rw [Nat.add_mul] at hmul
        simp only [volume]
        omega
      · simp at h

/-- A position is recovered from its place. -/
theorem position_of_place? {shape p : List Nat} {k : Nat} (h : place? shape p = some k) :
    position shape k = p := by
  induction shape generalizing p k with
  | nil => cases p <;> simp_all [place?, position]
  | cons n shape ih =>
    cases p with
    | nil => simp [place?] at h
    | cons i p =>
      rw [place?] at h
      split at h
      · obtain ⟨r, hr, rfl⟩ := Option.map_eq_some_iff.1 h
        have hlt := place?_lt hr
        have hpos : 0 < volume shape := by omega
        have hdiv : (i * volume shape + r) / volume shape = i := by
          rw [Nat.mul_comm, Nat.mul_add_div hpos, Nat.div_eq_of_lt hlt, Nat.add_zero]
        have hmod : (i * volume shape + r) % volume shape = r := by
          rw [Nat.mul_comm, Nat.mul_add_mod, Nat.mod_eq_of_lt hlt]
        simp only [position, hdiv, hmod, ih hr]
      · simp at h

/-- The element at a position, if there is one. -/
def get? (t : Tensor α) (position : List Nat) : Option α :=
  (place? t.shape position).bind (t.data[·]?)

/-- The array of a shape with the values of a function. -/
def ofFn (shape : List Nat) (f : List Nat → α) : Tensor α where
  shape := shape
  data := Array.ofFn fun k : Fin (volume shape) => f (position shape k)
  size_data := Array.size_ofFn

@[simp] theorem shape_ofFn (shape : List Nat) (f : List Nat → α) : (ofFn shape f).shape = shape :=
  rfl

theorem get?_ofFn (shape : List Nat) (f : List Nat → α) (p : List Nat) :
    (ofFn shape f).get? p = if (place? shape p).isSome then some (f p) else none := by
  simp only [get?, ofFn]
  cases h : place? shape p with
  | none => rfl
  | some k => simp [Array.getElem?_ofFn, place?_lt h, position_of_place? h]

/-- The array with one axis. -/
def ofList (xs : List α) : Tensor α where
  shape := [xs.length]
  data := xs.toArray
  size_data := by simp [volume]

/-- The elements in order. -/
def toList (t : Tensor α) : List α := t.data.toList

@[simp] theorem toList_ofList (xs : List α) : (ofList xs).toList = xs := rfl

@[simp] theorem shape_ofList (xs : List α) : (ofList xs).shape = [xs.length] := rfl

/-- The array with a function applied to each element. -/
def map (f : α → β) (t : Tensor α) : Tensor β where
  shape := t.shape
  data := t.data.map f
  size_data := by rw [Array.size_map, t.size_data]

@[simp] theorem shape_map (f : α → β) (t : Tensor α) : (t.map f).shape = t.shape := rfl

@[simp] theorem toList_map (f : α → β) (t : Tensor α) : (t.map f).toList = t.toList.map f := by
  simp [map, toList]

theorem get?_map (f : α → β) (t : Tensor α) (p : List Nat) :
    (t.map f).get? p = (t.get? p).map f := by
  simp only [get?, map]
  cases place? t.shape p <;> simp

/-- The size of the first axis. An array without axes has none. -/
def length (t : Tensor α) : Outcome α Nat :=
  match t.shape with
  | [] => fail .wrongKind
  | n :: _ => .ok n

/-- The elements of an array with one axis. -/
def vector (t : Tensor α) : Outcome α (List α) :=
  match t.shape with
  | [_] => .ok t.toList
  | _ => fail .malformed

/-- An index that counts from the end if it is negative. -/
def wrap? (n : Nat) (i : Int) : Option Nat :=
  if 0 ≤ i then (if i < n then some i.toNat else none)
  else if -(n : Int) ≤ i then some (n + i).toNat else none

/-- The place and the number of the elements whose position starts with these indices. -/
def span? : (shape : List Nat) → (start : List Int) → Option (Nat × Nat)
  | shape, [] => some (0, volume shape)
  | [], _ :: _ => none
  | n :: shape, i :: start =>
    match wrap? n i, span? shape start with
    | some i, some (k, count) => some (i * volume shape + k, count)
    | _, _ => none

/-- The array with all elements overwritten whose position starts with `start`. -/
def write (t : Tensor α) (start : List Int) (x : α) : Outcome α (Tensor α) :=
  match span? t.shape start with
  | none => fail .outOfBounds
  | some (k, count) => .ok {
      shape := t.shape
      data := t.data.mapIdx fun i y => if k ≤ i ∧ i < k + count then x else y
      size_data := by rw [Array.size_mapIdx, t.size_data] }

theorem shape_of_write {t u : Tensor α} {start : List Int} {x : α} (h : t.write start x = .ok u) :
    u.shape = t.shape := by
  unfold write at h
  split at h
  · simp [fail] at h
  · cases h; rfl

/-- The list cut into pieces of `size` elements, `count` of them. -/
def chunks (size : Nat) : (count : Nat) → List α → List (List α)
  | 0, _ => []
  | count + 1, xs => xs.take size :: chunks size count (xs.drop size)

/-- The elements along the last axis, one list for each position on the other axes. An array
without axes has no last axis. -/
def lines (t : Tensor α) : Outcome α (List (List α)) :=
  match t.shape.getLast? with
  | none => fail .malformed
  | some n => .ok (chunks n (volume t.shape.dropLast) t.toList)

/-- Whether two arrays have the same shape and equal numbers. -/
def same [Scalar α] (t u : Tensor α) : Bool :=
  t.shape == u.shape && (t.toList.zip u.toList).all fun p => Scalar.same p.1 p.2

end Tensor
end Absorption
