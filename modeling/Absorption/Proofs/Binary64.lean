import Mathlib
import Absorption.Proofs.Numbers

set_option autoImplicit false

/-!
The order of binary64 numbers. Numbers that are read compare as whole multiples of the least
positive one (`compare_eq`, `le_iff`).
-/

namespace Absorption

namespace Binary64

open Float.Model UnpackedFloat

/-- A number as it is read: its mantissa has its full length unless the exponent is the least. -/
def Canonical : UnpackedFloat → Prop
  | .finite _ m e _ => m < 2 ^ 53 ∧ -1074 ≤ e ∧ e ≤ 971 ∧ (2 ^ 52 ≤ m ∨ e = -1074)
  | _ => True

theorem toNat_leadingOne {mantissa : BitVec 52} :
    (1#1 ++ mantissa).toNat = 2 ^ 52 + mantissa.toNat := by
  rw [BitVec.toNat_append, ← Nat.shiftLeft_add_eq_or_of_lt mantissa.isLt]
  rfl

theorem canonical_unpack (b : BitVec 64) :
    Canonical (UnpackedFloat.unpack Format.binary64 b) := by
  have mantissa : (@unpackMantissa Format.binary64 b).toNat < 2 ^ 52 :=
    (@unpackMantissa Format.binary64 b).isLt
  have exponent : (@unpackExponent Format.binary64 b).toNat < 2 ^ 11 :=
    (@unpackExponent Format.binary64 b).isLt
  have bias : (Format.binary64.exponentBias : Int) +
      Format.binary64.mantissaBitsWithoutImplicit = 1075 := rfl
  rw [UnpackedFloat.unpack]
  simp only [bias]
  split
  · split <;> trivial
  · next finite =>
      have below : (@unpackExponent Format.binary64 b).toNat ≠ 2047 := by
        intro top
        exact finite (BitVec.eq_of_toNat_eq top)
      split
      · next least =>
          split
          · trivial
          · have : (@unpackExponent Format.binary64 b).toNat = 0 := by rw [least]; rfl
            refine ⟨?_, ?_, ?_, ?_⟩ <;> omega
      · next normal =>
          have above : (@unpackExponent Format.binary64 b).toNat ≠ 0 := by
            intro least
            exact normal (BitVec.eq_of_toNat_eq least)
          have lead := @toNat_leadingOne (@unpackMantissa Format.binary64 b)
          refine ⟨?_, ?_, ?_, ?_⟩
          · change (1#1 ++ @unpackMantissa Format.binary64 b : BitVec 53).toNat < _
            omega
          · omega
          · omega
          · omega

/-- A finite number without its sign, as a multiple of the least positive one. -/
def magnitude (m : Nat) (e : Int) : Nat := m * 2 ^ (e + 1074).toNat

/-- More of the least positive number than any finite number has. -/
def beyond : Nat := magnitude (2 ^ 53) 971

/-- A number as a multiple of the least positive one. -/
def units : UnpackedFloat → Option Int
  | .notANumber => none
  | .infinity s => some (s.apply beyond)
  | .zero _ => some 0
  | .finite s m e _ => some (s.apply (magnitude m e))

theorem magnitude_pos {m : Nat} {e : Int} (positive : 0 < m) : 0 < magnitude m e :=
  Nat.mul_pos positive (Nat.two_pow_pos _)

theorem beyond_pos : 0 < beyond := magnitude_pos (by decide)

theorem magnitude_lt_beyond {m : Nat} {e : Int} (short : m < 2 ^ 53) (most : e ≤ 971) :
    magnitude m e < beyond := by
  calc m * 2 ^ (e + 1074).toNat
      < 2 ^ 53 * 2 ^ (e + 1074).toNat := Nat.mul_lt_mul_of_pos_right short (Nat.two_pow_pos _)
    _ ≤ 2 ^ 53 * 2 ^ ((971 : Int) + 1074).toNat :=
        Nat.mul_le_mul_left _ (Nat.pow_le_pow_right (by decide) (by omega))

/-- A greater exponent outweighs any mantissa, since it comes with one of full length. -/
theorem magnitude_lt_magnitude {m m' : Nat} {e e' : Int} (short : m < 2 ^ 53) (least : -1074 ≤ e)
    (full : 2 ^ 52 ≤ m' ∨ e' = -1074) (below : e < e') : magnitude m e < magnitude m' e' := by
  have long : 2 ^ 52 ≤ m' := full.resolve_right (by omega)
  calc m * 2 ^ (e + 1074).toNat
      < 2 ^ 53 * 2 ^ (e + 1074).toNat := Nat.mul_lt_mul_of_pos_right short (Nat.two_pow_pos _)
    _ = 2 ^ 52 * 2 ^ ((e + 1074).toNat + 1) := by rw [← Nat.pow_add, ← Nat.pow_add]; congr 1; omega
    _ ≤ 2 ^ 52 * 2 ^ (e' + 1074).toNat :=
        Nat.mul_le_mul_left _ (Nat.pow_le_pow_right (by decide) (by omega))
    _ ≤ m' * 2 ^ (e' + 1074).toNat := Nat.mul_le_mul_right _ long

theorem compare_magnitude {s s' : Sign} {m m' : Nat} {e e' : Int} {positive : 0 < m}
    {positive' : 0 < m'} (first : Canonical (.finite s m e positive))
    (second : Canonical (.finite s' m' e' positive')) :
    (compare e e').then (compare m m') = compare (magnitude m e : Int) (magnitude m' e') := by
  obtain ⟨short, least, _, full⟩ := first
  obtain ⟨short', least', _, full'⟩ := second
  rcases Int.lt_trichotomy e e' with below | rfl | above
  · rw [Int.compare_eq_lt.mpr below, Int.compare_eq_lt.mpr]
    · rfl
    · exact Int.ofNat_lt.mpr (magnitude_lt_magnitude short least full' below)
  · have scale := Nat.two_pow_pos (e + 1074).toNat
    rw [Int.compare_eq_eq.mpr rfl, Ordering.eq_then]
    rcases Nat.lt_trichotomy m m' with below | rfl | above
    · rw [Nat.compare_eq_lt.mpr below, Int.compare_eq_lt.mpr]
      exact Int.ofNat_lt.mpr (Nat.mul_lt_mul_of_pos_right below scale)
    · rw [Nat.compare_eq_eq.mpr rfl, Int.compare_eq_eq.mpr rfl]
    · rw [Nat.compare_eq_gt.mpr above, Int.compare_eq_gt.mpr]
      exact Int.ofNat_lt.mpr (Nat.mul_lt_mul_of_pos_right above scale)
  · rw [Int.compare_eq_gt.mpr above, Int.compare_eq_gt.mpr]
    · rfl
    · exact Int.ofNat_lt.mpr (magnitude_lt_magnitude short' least' full above)

theorem compare_neg (a b : Int) : compare (-a) (-b) = (compare a b).swap := by
  rw [Int.compare_swap]
  rcases Int.lt_trichotomy a b with below | rfl | above
  · rw [Int.compare_eq_gt.mpr below, Int.compare_eq_gt.mpr (Int.neg_lt_neg below)]
  · rw [Int.compare_eq_eq.mpr rfl, Int.compare_eq_eq.mpr rfl]
  · rw [Int.compare_eq_lt.mpr above, Int.compare_eq_lt.mpr (Int.neg_lt_neg above)]

theorem compare_finite {s s' : Sign} {m m' : Nat} {e e' : Int} {positive : 0 < m}
    {positive' : 0 < m'} (first : Canonical (.finite s m e positive))
    (second : Canonical (.finite s' m' e' positive')) :
    (finite s m e positive).compare (.finite s' m' e' positive') =
      some (compare (s.apply (magnitude m e)) (s'.apply (magnitude m' e'))) := by
  have lower := magnitude_pos (e := e) positive
  have lower' := magnitude_pos (e := e') positive'
  have sizes := compare_magnitude first second
  cases s with
  | negative =>
      cases s' with
      | negative =>
          rw [Sign.apply, Sign.apply, compare_neg, ← sizes]
          rfl
      | positive =>
          rw [Sign.apply, Sign.apply, Int.compare_eq_lt.mpr (by omega)]
          rfl
  | positive =>
      cases s' with
      | negative =>
          rw [Sign.apply, Sign.apply, Int.compare_eq_gt.mpr (by omega)]
          rfl
      | positive =>
          rw [Sign.apply, Sign.apply, ← sizes]
          rfl

/-- Numbers compare as multiples of the least positive one. -/
theorem compare_eq {x y : UnpackedFloat} (first : Canonical x) (second : Canonical y) :
    x.compare y = (units x).bind fun a => (units y).map fun b => compare a b := by
  have top := beyond_pos
  have size {s : Sign} {m : Nat} {e : Int} {positive : 0 < m}
      (canonical : Canonical (.finite s m e positive)) :
      0 < magnitude m e ∧ magnitude m e < beyond :=
    ⟨magnitude_pos positive, magnitude_lt_beyond canonical.1 canonical.2.2.1⟩
  have lt (a b : Int) : some Ordering.lt = some (compare a b) ↔ a < b := by
    rw [Option.some.injEq, eq_comm, Int.compare_eq_lt]
  have gt (a b : Int) : some Ordering.gt = some (compare a b) ↔ b < a := by
    rw [Option.some.injEq, eq_comm, Int.compare_eq_gt]
  -- Signs settle all pairs but those of finite numbers, whose mantissas count as well.
  cases x with
  | notANumber => rfl
  | infinity s =>
      cases y with
      | notANumber => cases s <;> rfl
      | infinity s' =>
          cases s <;> cases s'
          · exact congrArg some (Int.compare_eq_eq.mpr rfl).symm
          · exact (lt (-beyond) beyond).mpr (by omega)
          · exact (gt beyond (-beyond)).mpr (by omega)
          · exact congrArg some (Int.compare_eq_eq.mpr rfl).symm
      | zero s' =>
          cases s
          · exact (lt (-beyond) 0).mpr (by omega)
          · exact (gt beyond 0).mpr (by omega)
      | finite s' m e positive =>
          obtain ⟨lower, upper⟩ := size second
          cases s <;> cases s'
          · exact (lt (-beyond) (-magnitude m e)).mpr (by omega)
          · exact (lt (-beyond) (magnitude m e)).mpr (by omega)
          · exact (gt beyond (-magnitude m e)).mpr (by omega)
          · exact (gt beyond (magnitude m e)).mpr (by omega)
  | zero s =>
      cases y with
      | notANumber => rfl
      | infinity s' =>
          cases s'
          · exact (gt 0 (-beyond)).mpr (by omega)
          · exact (lt 0 beyond).mpr (by omega)
      | zero s' => exact congrArg some (Int.compare_eq_eq.mpr rfl).symm
      | finite s' m e positive =>
          obtain ⟨lower, upper⟩ := size second
          cases s'
          · exact (gt 0 (-magnitude m e)).mpr (by omega)
          · exact (lt 0 (magnitude m e)).mpr (by omega)
  | finite s m e positive =>
      obtain ⟨lower, upper⟩ := size first
      cases y with
      | notANumber => cases s <;> rfl
      | infinity s' =>
          cases s <;> cases s'
          · exact (gt (-magnitude m e) (-beyond)).mpr (by omega)
          · exact (lt (-magnitude m e) beyond).mpr (by omega)
          · exact (gt (magnitude m e) (-beyond)).mpr (by omega)
          · exact (lt (magnitude m e) beyond).mpr (by omega)
      | zero s' =>
          cases s
          · exact (lt (-magnitude m e) 0).mpr (by omega)
          · exact (gt (magnitude m e) 0).mpr (by omega)
      | finite s' m' e' positive' => exact compare_finite first second

/-- What a number is as a multiple of the least positive one. -/
def unitsOf (a : Float) : Option Int := units a.toModel.unpack

theorem canonical (a : Float) : Canonical a.toModel.unpack := canonical_unpack _

theorem compare_unpack (a b : Float) : a.toModel.unpack.compare b.toModel.unpack =
    (unitsOf a).bind fun x => (unitsOf b).map fun y => compare x y :=
  compare_eq (canonical a) (canonical b)

theorem le_iff {a b : Float} :
    a ≤ b ↔ ∃ x y, unitsOf a = some x ∧ unitsOf b = some y ∧ x ≤ y := by
  have model : a ≤ b ↔ (a.toModel.unpack.compare b.toModel.unpack).any (·.isLE) = true :=
    decide_eq_true_iff (p := a.toModel ≤ b.toModel)
  rw [model, compare_unpack]
  cases unitsOf a with
  | none => simp
  | some x => cases unitsOf b <;> simp [Int.isLE_compare]

theorem le_self_iff {a : Float} : a ≤ a ↔ ∃ u, unitsOf a = some u := by
  rw [le_iff]
  constructor
  · rintro ⟨u, _, read, _, _⟩
    exact ⟨u, read⟩
  · rintro ⟨u, read⟩
    exact ⟨u, u, read, read, Int.le_refl u⟩

theorem lt_iff_compare {a b : Float} :
    a < b ↔ a.toModel.unpack.compare b.toModel.unpack = some .lt :=
  (decide_eq_true_iff (p := a.toModel < b.toModel)).trans beq_iff_eq

theorem lt_iff {a b : Float} :
    a < b ↔ ∃ x y, unitsOf a = some x ∧ unitsOf b = some y ∧ x < y := by
  rw [lt_iff_compare, compare_unpack]
  cases unitsOf a with
  | none => simp
  | some x => cases unitsOf b <;> simp [Int.compare_eq_lt]

end Binary64

end Absorption
