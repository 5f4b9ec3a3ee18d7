import Absorption.Proofs.Binary64.Difference

set_option autoImplicit false

/-!
Equality of binary64 numbers. Numbers that compare as equal are the same, but for the two zeros
(`unpack_of_same`), and of a zero in a difference only another zero sees the sign (`sub_zeros`).
-/

namespace Absorption

namespace Binary64

open Float.Model UnpackedFloat

theorem eq_of_magnitude {s : Sign} {m m' : Nat} {e e' : Int} {positive : 0 < m} {positive' : 0 < m'}
    (first : Canonical (.finite s m e positive)) (second : Canonical (.finite s m' e' positive'))
    (same : magnitude m e = magnitude m' e') :
    UnpackedFloat.finite s m e positive = .finite s m' e' positive' := by
  have sizes := compare_magnitude first second
  rw [same, Int.compare_eq_eq.mpr rfl, Ordering.then_eq_eq, Int.compare_eq_eq,
    Nat.compare_eq_eq] at sizes
  obtain ⟨rfl, rfl⟩ := sizes
  rfl

/-- Numbers that compare as equal are the same number, unless they are zeros. -/
theorem eq_of_compare {x y : UnpackedFloat} (first : Canonical x) (second : Canonical y)
    (equal : x.compare y = some .eq) : x = y ∨ (∃ s, x = .zero s) ∧ ∃ s, y = .zero s := by
  cases x with
  | notANumber => cases equal
  | infinity s =>
      cases y with
      | notANumber => cases s <;> cases equal
      | infinity s' => cases s <;> cases s' <;> first | exact .inl rfl | cases equal
      | zero s' => cases s <;> cases equal
      | finite s' _ _ _ => cases s <;> cases s' <;> cases equal
  | zero s =>
      cases y with
      | notANumber => cases equal
      | infinity s' => cases s' <;> cases equal
      | zero s' => exact .inr ⟨⟨s, rfl⟩, ⟨s', rfl⟩⟩
      | finite s' _ _ _ => cases s' <;> cases equal
  | finite s m e positive =>
      cases y with
      | notANumber => cases s <;> cases equal
      | infinity s' => cases s <;> cases s' <;> cases equal
      | zero s' => cases s <;> cases equal
      | finite s' m' e' positive' =>
          rw [compare_finite first second, Option.some.injEq, Int.compare_eq_eq] at equal
          have lower := magnitude_pos (e := e) positive
          have lower' := magnitude_pos (e := e') positive'
          refine .inl ?_
          cases s <;> cases s' <;> rw [Sign.apply, Sign.apply] at equal
          · exact eq_of_magnitude first second (by omega)
          · omega
          · omega
          · exact eq_of_magnitude first second (by omega)

/-- One of the two zeros. -/
def IsZero (a : Float) : Prop := ∃ s, a.toModel.unpack = .zero s

/-- Numbers that compare as equal read the same, unless they are zeros. -/
theorem unpack_of_same {a b : Float} (same : Scalar.same a b = true) :
    a.toModel.unpack = b.toModel.unpack ∨ IsZero a ∧ IsZero b := by
  simp only [Scalar.same, Bool.and_eq_true, decide_eq_true_eq] at same
  obtain ⟨x, y, first, second, below⟩ := le_iff.mp same.1
  obtain ⟨y', x', second', first', above⟩ := le_iff.mp same.2
  rw [first, Option.some.injEq] at first'
  rw [second, Option.some.injEq] at second'
  have equal : compare x y = .eq := Int.compare_eq_eq.mpr (by omega)
  apply eq_of_compare (canonical a) (canonical b)
  rw [compare_unpack, first, second, Option.bind_some, Option.map_some, equal]

theorem unitsOf_zero {a : Float} (zero : IsZero a) : unitsOf a = some 0 := by
  obtain ⟨s, read⟩ := zero
  rw [unitsOf, read]
  rfl

theorem same_of_zeros {a b : Float} (first : IsZero a) (second : IsZero b) :
    Scalar.same a b = true := by
  have left := unitsOf_zero first
  have right := unitsOf_zero second
  simp only [Scalar.same, Bool.and_eq_true, decide_eq_true_eq]
  exact ⟨le_iff.mpr ⟨0, 0, left, right, Int.le_refl 0⟩,
    le_iff.mpr ⟨0, 0, right, left, Int.le_refl 0⟩⟩

theorem IsZero.sub {a b : Float} (first : IsZero a) (second : IsZero b) : IsZero (a - b) := by
  obtain ⟨s, first⟩ := first
  obtain ⟨s', second⟩ := second
  rw [IsZero, sub_eq, first, second]
  cases s <;> cases s' <;> exact ⟨_, rfl⟩

/-- Of two zeros that are taken from a number, or it from them, the sign counts only if that number
is a zero as well. -/
theorem sub_zeros {x : UnpackedFloat} (apart : ∀ s, x ≠ .zero s) (s s' : Sign) :
    UnpackedFloat.sub .binary64 (.zero s) x = .sub .binary64 (.zero s') x ∧
      UnpackedFloat.sub .binary64 x (.zero s) = .sub .binary64 x (.zero s') := by
  cases x with
  | zero s'' => exact absurd rfl (apart s'')
  | _ => exact ⟨rfl, rfl⟩

/-- Whether a number is the zero with a minus sign. -/
def isNegativeZero (a : Float) : Bool :=
  match a.toModel.unpack with
  | .zero .negative => true
  | _ => false

/-- A number differs from one that compares as equal as from itself, the negative zero apart. -/
theorem sub_eq_sub_self {a b : Float} (positive : isNegativeZero a = false)
    (same : Scalar.same a b = true) : a - b = a - a := by
  rw [sub_eq, sub_eq]
  obtain read | ⟨⟨s, first⟩, ⟨s', second⟩⟩ := unpack_of_same same
  · rw [read]
  · rw [isNegativeZero, first] at positive
    rw [first, second]
    cases s with
    | negative => cases positive
    | positive => cases s' <;> rfl

/-- Numbers that compare as equal have the same differences from any other number. -/
theorem sub_of_same {a b c : Float} (same : Scalar.same a b = true)
    (apart : Scalar.same a c = false) : a - c = b - c ∧ c - a = c - b := by
  simp only [sub_eq]
  obtain read | ⟨⟨s, first⟩, ⟨s', second⟩⟩ := unpack_of_same same
  · rw [read]
    exact ⟨rfl, rfl⟩
  · have other (s'' : Sign) : c.toModel.unpack ≠ .zero s'' := by
      intro zero
      rw [same_of_zeros ⟨s, first⟩ ⟨s'', zero⟩] at apart
      cases apart
    obtain ⟨left, right⟩ := sub_zeros other s s'
    rw [first, second, left, right]
    exact ⟨rfl, rfl⟩

end Binary64

open Binary64 in
instance Binary64.congruentScalar : CongruentScalar Float where
  sub_left same apart := (sub_of_same same apart).1
  sub_right same apart := (sub_of_same same apart).2
  sub_self := by
    intro a b same
    rw [sub_eq, sub_eq]
    obtain read | ⟨⟨s, first⟩, ⟨s', second⟩⟩ := unpack_of_same same
    · rw [read]
    · rw [first, second]
      cases s <;> cases s' <;> rfl
  sub_equal := by
    intro a b c same same'
    obtain read | ⟨first, second⟩ := unpack_of_same same
    · exact .inl (by rw [sub_eq, sub_eq, read])
    · have third : IsZero c := by
        obtain read' | ⟨_, third⟩ := unpack_of_same same'
        · rwa [IsZero, ← read']
        · exact third
      exact .inr (same_of_zeros (first.sub third) (second.sub third))

namespace Binary64

/-- Binary64 numbers with a logarithm of their own. -/
def WithLog (_ : Float → Float) : Type := Float

variable {log : Float → Float}

instance WithLog.scalar : Scalar (WithLog log) := { (inferInstance : Scalar Float) with log }

instance WithLog.congruentScalar : CongruentScalar (WithLog log) where
  le_self := Binary64.orderedScalar.le_self
  le_trans := Binary64.orderedScalar.le_trans
  le_total := Binary64.orderedScalar.le_total
  lt_iff := Binary64.orderedScalar.lt_iff
  zero_lt_sub := Binary64.orderedScalar.zero_lt_sub
  sub_lt_zero := Binary64.orderedScalar.sub_lt_zero
  sub_left := Binary64.congruentScalar.sub_left
  sub_right := Binary64.congruentScalar.sub_right
  sub_self := Binary64.congruentScalar.sub_self
  sub_equal := Binary64.congruentScalar.sub_equal

/-- A logarithm that gives no negative zero, and a zero at one number at most, will do. -/
theorem unsignedLog (positive : ∀ p, isNegativeZero (log p) = false)
    (single : ∀ p q : Float, IsZero (log p) → IsZero (log q) → Scalar.same p q = true) :
    UnsignedLog (WithLog log) where
  positive p _ same := sub_eq_sub_self (positive p) same
  single := by
    have isZero {a b : Float} (zero : IsZero b) (same : Scalar.same a b = true) : IsZero a := by
      obtain read | ⟨first, _⟩ := unpack_of_same same
      · rwa [IsZero, read]
      · exact first
    have binary (a b l m : Float) (apart : Scalar.same a b = false)
        (first : Scalar.same (log a) l = true) (second : Scalar.same (log b) m = true)
        (same : Scalar.same l m = true) : l - m = l - l := by
      obtain read | ⟨left, right⟩ := unpack_of_same same
      · rw [sub_eq, sub_eq, read]
      · rw [single a b (isZero left first) (isZero right second)] at apart
        cases apart
    exact binary

end Binary64
end Absorption
