import Absorption.Tensor.Basic

set_option autoImplicit false

/-!
Parts of arrays. Where a number is wanted and an array is found, an array of a single number serves
for it, and one of several numbers does not. So a grid whose points are arrays of one number each is
a grid of these numbers, for all that does not insist on a single axis.
-/

namespace Absorption.Tensor

variable {α : Type}

/-- The elements whose position starts with `start`, in order. -/
def below? (t : Tensor α) (start : List Int) : Option (List α) :=
  (span? t.shape start).map fun place => (t.data.extract place.1 (place.1 + place.2)).toList

/-- The array of the elements whose position starts with `start`. -/
def part? (t : Tensor α) (start : List Int) : Option (Tensor α) :=
  (t.below? start).bind fun elements =>
    if h : elements.length = volume (t.shape.drop start.length) then
      some ⟨t.shape.drop start.length, elements.toArray, by simpa using h⟩
    else none

/-- A number of an array. It is nested if it was found as an array of its own, because there are
more axes. -/
structure Entry (α : Type) where
  value : α
  nested : Bool

/-- The only number whose position starts with `start`. -/
def entry (t : Tensor α) (start : List Int) : Outcome α (Entry α) :=
  match t.below? start with
  | none => fail .outOfBounds
  | some [x] => .ok ⟨x, decide (start.length < t.shape.length)⟩
  | some _ => fail .malformed

theorem wrap?_ofNat (n i : Nat) : wrap? n (Int.ofNat i) = if i < n then some i else none := by
  simp [wrap?]

/-- Indices that do not count from the end lead to a single place, if there is one for each axis. -/
theorem span?_map_ofNat {shape p : List Nat} (h : p.length = shape.length) :
    span? shape (p.map Int.ofNat) = (place? shape p).map fun k => (k, 1) := by
  induction shape generalizing p with
  | nil =>
    cases p with
    | nil => rfl
    | cons i p => simp at h
  | cons n shape ih =>
    cases p with
    | nil => simp at h
    | cons i p =>
      rw [List.map_cons, span?, wrap?_ofNat, ih (by simpa using h), place?]
      by_cases hi : i < n
      · cases hp : place? shape p <;> simp [hi]
      · simp [hi]

/-- With an index for each axis the entry is the element, and it is not nested. -/
theorem entry_map_ofNat {t : Tensor α} {p : List Nat} (h : p.length = t.shape.length) :
    t.entry (p.map Int.ofNat) =
      orFail .outOfBounds ((t.get? p).map fun x => (⟨x, false⟩ : Entry α)) := by
  simp only [entry, below?, span?_map_ofNat h, get?]
  cases hk : place? t.shape p with
  | none => rfl
  | some k =>
    have hlt : k < t.data.size := by rw [t.size_data]; exact place?_lt hk
    have hlt' : k < t.data.toList.length := by simpa using hlt
    simp [hlt, h, orFail, List.drop_eq_getElem_cons hlt']

/-- Whether there are axes behind the first. -/
def hasRows (t : Tensor α) : Bool := decide (1 < t.shape.length)

/-- The numbers along the first axis, each of them alone at its index. -/
def points (t : Tensor α) : Outcome α (List α) :=
  match t.shape with
  | [] => fail .outOfBounds
  | n :: further => if n = 0 ∨ volume further = 1 then .ok t.toList else fail .malformed

@[simp] theorem points_ofList (xs : List α) : (ofList xs).points = .ok xs := by
  simp [points, volume]

/-- The array of what stands at some indices of the first axis. An index that is not there reads as
zeros. -/
def rows [Zero α] (t : Tensor α) (indices : Array Nat) : Tensor α :=
  match t.shape with
  | [] => t
  | _ :: further => .ofFn (indices.size :: further) fun p => match p with
    | i :: q => (indices[i]?.bind fun row => t.get? (row :: q)).getD 0
    | [] => 0

end Absorption.Tensor
