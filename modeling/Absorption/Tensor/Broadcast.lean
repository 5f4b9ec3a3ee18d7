import Absorption.Tensor.Basic

set_option autoImplicit false

/-!
Arrays of different shapes stretched to a common one. Shapes are aligned at their last axes, and an
axis of size one, or one that is missing, is stretched to the size of the other.
-/

namespace Absorption.Tensor

/-- The common shape of two shapes, both given from the last axis on. -/
def commonReversed : List Nat → List Nat → Option (List Nat)
  | [], shape => some shape
  | shape, [] => some shape
  | m :: s, n :: t =>
    if m = n ∨ n = 1 then (commonReversed s t).map (m :: ·)
    else if m = 1 then (commonReversed s t).map (n :: ·)
    else none

/-- The shape that two shapes are stretched to. -/
def commonShape (s t : List Nat) : Option (List Nat) :=
  (commonReversed s.reverse t.reverse).map List.reverse

/-- The shape that all shapes of a list are stretched to, one after the other. -/
def commonShapes (shapes : List (List Nat)) : Option (List Nat) := shapes.foldlM commonShape []

/-- The element of a stretched array at a position of the common shape. -/
def stretched? {α : Type} (t : Tensor α) (position : List Nat) : Option α :=
  let own := position.drop (position.length - t.shape.length)
  t.get? ((own.zip t.shape).map fun p => if p.2 = 1 then 0 else p.1)

variable {α β γ : Type}

theorem volume_append (s t : List Nat) : volume (s ++ t) = volume s * volume t := by
  induction s with
  | nil => simp [volume]
  | cons n s ih => simp [volume, ih, Nat.mul_assoc]

/-- The array with one more axis of size one, in front of the axis `k`. -/
def unitAxis (k : Nat) (t : Tensor α) : Tensor α where
  shape := t.shape.take k ++ 1 :: t.shape.drop k
  data := t.data
  size_data := by
    rw [t.size_data, volume_append, volume, Nat.one_mul, ← volume_append, List.take_append_drop]

/-- Two arrays combined element by element after they were stretched to a common shape. -/
def combine (f : α → β → γ) (rest : γ) (a : Tensor α) (b : Tensor β) : Option (Tensor γ) :=
  (commonShape a.shape b.shape).map fun shape => .ofFn shape fun p =>
    match a.stretched? p, b.stretched? p with
    | some x, some y => f x y
    | _, _ => rest

/-- Arrays of one shape, laid side by side along a new second axis. -/
def layered [Zero α] (layers : List (Tensor α)) : Option (Tensor α) :=
  match layers.head? with
  | none => none
  | some first =>
    if layers.all fun l => l.shape == first.shape then
      match first.shape with
      | [] => none
      | n :: further =>
        let array := layers.toArray
        some (.ofFn (n :: layers.length :: further) fun p => match p with
          | i :: j :: q => (array[j]?.bind fun l => l.get? (i :: q)).getD 0
          | _ => 0)
    else none

end Absorption.Tensor
