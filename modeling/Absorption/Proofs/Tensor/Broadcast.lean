import Absorption.Proofs.Tensor
import Absorption.Tensor.Broadcast

set_option autoImplicit false

/-!
Arrays stretched to a common shape. An axis of size one that was put in does not count, whatever the
index on it (`stretched?_unitAxis`), and a position within the shape of an array is read as it is
(`stretched?_of_within`). So an array with one axis that got further ones is read at its own index.
-/

namespace Absorption.Tensor

variable {α β γ : Type}

@[simp] theorem commonReversed_nil_left (s : List Nat) : commonReversed [] s = some s := rfl

@[simp] theorem commonReversed_nil_right (s : List Nat) : commonReversed s [] = some s := by
  cases s <;> rfl

@[simp] theorem commonReversed_same (n : Nat) (s t : List Nat) :
    commonReversed (n :: s) (n :: t) = (commonReversed s t).map (n :: ·) := by
  rw [commonReversed, if_pos (.inl rfl)]

@[simp] theorem commonReversed_one_right (n : Nat) (s t : List Nat) :
    commonReversed (n :: s) (1 :: t) = (commonReversed s t).map (n :: ·) := by
  rw [commonReversed, if_pos (.inr rfl)]

@[simp] theorem commonReversed_one_left (n : Nat) (s t : List Nat) :
    commonReversed (1 :: s) (n :: t) = (commonReversed s t).map (n :: ·) := by
  rw [commonReversed]
  by_cases one : n = 1
  · rw [if_pos (.inr one), one]
  · rw [if_neg (by omega), if_pos rfl]

/-- A position with the index zero on each axis of size one. -/
def clipped (shape p : List Nat) : List Nat :=
  (p.zip shape).map fun p => if p.2 = 1 then 0 else p.1

theorem stretched?_eq {t : Tensor α} {p : List Nat} (axes : p.length = t.shape.length) :
    t.stretched? p = t.get? (clipped t.shape p) := by
  rw [stretched?, axes, Nat.sub_self, List.drop_zero]
  rfl

theorem clipped_of_within {shape p : List Nat} (within : List.Forall₂ (· < ·) p shape) :
    clipped shape p = p := by
  induction within with
  | nil => rfl
  | @cons i n p shape inside _ ih =>
      rw [clipped, List.zip_cons_cons, List.map_cons]
      refine congrArg₂ List.cons ?_ ih
      by_cases one : n = 1
      · rw [if_pos one]
        omega
      · exact if_neg one

/-- A position within the shape needs no stretching. -/
theorem stretched?_of_within {t : Tensor α} {p : List Nat}
    (within : List.Forall₂ (· < ·) p t.shape) : t.stretched? p = t.get? p := by
  rw [stretched?_eq within.length_eq, clipped_of_within within]

/-- An axis of size one does not change the place of an element. -/
theorem place?_unitAxis (k : Nat) {shape p : List Nat} (axes : p.length = shape.length) :
    place? (shape.take k ++ 1 :: shape.drop k) (p.take k ++ 0 :: p.drop k) = place? shape p := by
  induction k generalizing shape p with
  | zero => simp [place?]
  | succ k ih =>
      cases shape with
      | nil =>
          rw [List.eq_nil_of_length_eq_zero axes]
          simp [place?, volume]
      | cons n shape =>
          cases p with
          | nil => cases axes
          | cons i p =>
              have size : volume (shape.take k ++ 1 :: shape.drop k) = volume shape := by
                rw [volume_append, volume, Nat.one_mul, ← volume_append, List.take_append_drop]
              rw [List.take_succ_cons, List.drop_succ_cons, List.take_succ_cons,
                List.drop_succ_cons, List.cons_append, List.cons_append, place?, place?, size,
                ih (Nat.succ.inj axes)]

theorem clipped_unitAxis (k i : Nat) {shape p : List Nat} (axes : p.length = shape.length) :
    clipped (shape.take k ++ 1 :: shape.drop k) (p.take k ++ i :: p.drop k) =
      (clipped shape p).take k ++ 0 :: (clipped shape p).drop k := by
  have front : (p.take k).length = (shape.take k).length := by
    rw [List.length_take, List.length_take, axes]
  rw [clipped, List.zip_append front, List.zip_cons_cons, List.map_append, List.map_cons,
    if_pos rfl, clipped, ← List.map_take, ← List.map_drop]
  simp only [List.zip, List.take_zipWith, List.drop_zipWith]

@[simp] theorem length_shape_unitAxis (k : Nat) (t : Tensor α) :
    (t.unitAxis k).shape.length = t.shape.length + 1 := by
  rw [unitAxis, List.length_append, List.length_cons, ← Nat.add_assoc, ← List.length_append,
    List.take_append_drop]

/-- An index on an axis of size one that was put in makes no difference. -/
theorem stretched?_unitAxis {t : Tensor α} (k i : Nat) {p : List Nat}
    (axes : p.length = t.shape.length) :
    (t.unitAxis k).stretched? (p.take k ++ i :: p.drop k) = t.stretched? p := by
  have further : (p.take k ++ i :: p.drop k).length = (t.unitAxis k).shape.length := by
    rw [length_shape_unitAxis, ← axes, List.length_append, List.length_cons, ← Nat.add_assoc,
      ← List.length_append, List.take_append_drop]
  have all : (clipped t.shape p).length = t.shape.length := by
    rw [clipped, List.length_map, List.length_zip, axes, Nat.min_self]
  rw [stretched?_eq further, stretched?_eq axes, get?, get?]
  simp only [unitAxis]
  rw [clipped_unitAxis k i axes, place?_unitAxis k all]

theorem stretched?_unitAxis_zero {t : Tensor α} (i : Nat) {p : List Nat}
    (axes : p.length = t.shape.length) : (t.unitAxis 0).stretched? (i :: p) = t.stretched? p :=
  stretched?_unitAxis 0 i axes

theorem stretched?_unitAxis_one {t : Tensor α} (i j : Nat) {p : List Nat}
    (axes : p.length + 1 = t.shape.length) :
    (t.unitAxis 1).stretched? (j :: i :: p) = t.stretched? (j :: p) :=
  stretched?_unitAxis 1 i (p := j :: p) axes

theorem stretched?_unitAxis_two {t : Tensor α} (i j k : Nat) {p : List Nat}
    (axes : p.length + 2 = t.shape.length) :
    (t.unitAxis 2).stretched? (j :: k :: i :: p) = t.stretched? (j :: k :: p) :=
  stretched?_unitAxis 2 i (p := j :: k :: p) axes

theorem stretched?_map (f : α → β) (t : Tensor α) (p : List Nat) :
    (t.map f).stretched? p = (t.stretched? p).map f := by
  rw [stretched?, stretched?, get?_map, shape_map]

theorem stretched?_ofList {xs : List α} {i : Nat} {x : α} (here : xs[i]? = some x) :
    (ofList xs).stretched? [i] = some x := by
  have inside := (List.getElem?_eq_some_iff.mp here).1
  rw [stretched?_of_within (.cons inside .nil), (isVector_ofList xs).get?, toList_ofList, here]

/-- A number as an array without axes. -/
def alone (x : α) : Tensor α := ⟨[], #[x], rfl⟩

@[simp] theorem shape_alone (x : α) : (alone x).shape = [] := rfl

@[simp] theorem stretched?_alone (x : α) (p : List Nat) : (alone x).stretched? p = some x := by
  rw [stretched?, shape_alone, List.length_nil, Nat.sub_zero, List.drop_length]
  rfl

/-- What stands at an index of an array with one axis is a number alone. -/
theorem part?_ofList {xs : List α} {i : Nat} (inside : i < xs.length) :
    (ofList xs).part? [Int.ofNat i] = some (alone xs[i]) := by
  obtain ⟨u, part, shape, same⟩ := exists_part? (shape_ofList xs) inside
  have element : u.get? [] = xs[i]? := (same []).trans ((isVector_ofList xs).get? i)
  rw [part, Option.some.injEq]
  apply eq_of_get? shape
  intro p within
  rw [shape, List.forall₂_nil_right_iff] at within
  rw [within, element, List.getElem?_eq_getElem inside]
  rfl

/-- The elements of two arrays that were stretched are combined one by one. -/
theorem get?_combine (f : α → β → γ) (rest : γ) {a : Tensor α} {b : Tensor β} {shape : List Nat}
    (common : commonShape a.shape b.shape = some shape) :
    ∃ c, combine f rest a b = some c ∧ c.shape = shape ∧ ∀ p x y,
      List.Forall₂ (· < ·) p shape → a.stretched? p = some x → b.stretched? p = some y →
        c.get? p = some (f x y) := by
  refine ⟨_, by rw [combine, common]; rfl, rfl, ?_⟩
  intro p x y within first second
  rw [get?_ofFn, if_pos (place?_isSome.mpr within), first, second]

/-- What stands in arrays of one shape stands behind the index of its array after they were laid
side by side. -/
theorem get?_layered [Zero α] {layers : List (Tensor α)} {n : Nat} {further : List Nat}
    (some : layers ≠ []) (shape : ∀ l ∈ layers, l.shape = n :: further) :
    ∃ c, layered layers = .some c ∧ c.shape = n :: layers.length :: further ∧
      ∀ i j q l, layers[j]? = .some l → (l.get? (i :: q)).isSome →
        c.get? (i :: j :: q) = l.get? (i :: q) := by
  obtain ⟨first, rest, rfl⟩ := List.exists_cons_of_ne_nil some
  have own := shape first List.mem_cons_self
  have all : (first :: rest).all (fun l => l.shape == n :: further) = true := by
    rw [List.all_eq_true]
    intro l member
    rw [beq_iff_eq, shape l member]
  refine ⟨_, by simp only [layered, List.head?_cons, own, all, ↓reduceIte]; rfl, rfl, ?_⟩
  intro i j q l here inside
  have within := get?_isSome.mp inside
  rw [shape l (List.mem_of_getElem? here), List.forall₂_cons] at within
  have bound := (List.getElem?_eq_some_iff.mp here).1
  have place : List.Forall₂ (· < ·) (i :: j :: q) (n :: (first :: rest).length :: further) :=
    .cons within.1 (.cons bound within.2)
  obtain ⟨x, found⟩ := Option.isSome_iff_exists.mp inside
  rw [get?_ofFn, if_pos (place?_isSome.mpr place)]
  simp only [List.getElem?_toArray, here, Option.bind_some, found, Option.getD_some]

end Absorption.Tensor
