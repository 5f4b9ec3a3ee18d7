import Absorption.Proofs.Decimal.Shortest

set_option autoImplicit false

/-!
The fewest digits of a number are read back as the number (`toFloat_of_value`), in whatever way they
are written.
-/

namespace Absorption

namespace Binary64

open Decimal Float.Model UnpackedFloat

def isNegative : Sign → Bool
  | .negative => true
  | .positive => false

/-- What a number stands for, as it is unpacked. -/
def fields : UnpackedFloat → Binary
  | .notANumber => .nan
  | .infinity s => .infinite (isNegative s)
  | .zero s => .finite (isNegative s) 0 (-1074)
  | .finite s m e _ => .finite (isNegative s) m e

theorem toNat_unpackExponent (b : BitVec 64) :
    (@unpackExponent Format.binary64 b).toNat = b.toNat / 2 ^ 52 % 2 ^ 11 := by
  simp [unpackExponent, Nat.shiftRight_eq_div_pow]

theorem toNat_unpackMantissa (b : BitVec 64) :
    (@unpackMantissa Format.binary64 b).toNat = b.toNat % 2 ^ 52 := by
  simp [unpackMantissa]

theorem isNegative_unpackSign (b : BitVec 64) :
    isNegative (Sign.ofBitVec (@unpackSign Format.binary64 b)) =
      decide (b.toNat / 2 ^ 63 % 2 = 1) := by
  have bit : (@unpackSign Format.binary64 b).toNat = b.toNat / 2 ^ 63 % 2 := by
    simp [unpackSign, Nat.shiftRight_eq_div_pow]
  rw [Sign.ofBitVec, ← bit]
  split
  · next zero =>
      rw [zero]
      rfl
  · next one =>
      have set : (@unpackSign Format.binary64 b).toNat ≠ 0 := fun none =>
        one (BitVec.eq_of_toNat_eq none)
      have small := (@unpackSign Format.binary64 b).isLt
      rw [decide_eq_true (by omega)]
      rfl

/-- The fields of the pattern are what is unpacked. -/
theorem ofFloat_eq (x : Float) : Binary.ofFloat x = fields x.toModel.unpack := by
  change Binary.ofBits x.toModel.toBits.toBitVec.toNat = fields (UnpackedFloat.unpack _ _)
  generalize x.toModel.toBits.toBitVec = b
  rw [UnpackedFloat.unpack, Binary.ofBits]
  simp only [Nat.pow_eq, ← toNat_unpackExponent, ← toNat_unpackMantissa, ← isNegative_unpackSign]
  have top : (@unpackExponent Format.binary64 b).toNat = 2047 ↔
      @unpackExponent Format.binary64 b = -BitVec.ofNat _ 1 :=
    ⟨fun same => BitVec.eq_of_toNat_eq same, fun same => by rw [same]; rfl⟩
  have bottom : (@unpackExponent Format.binary64 b).toNat = 0 ↔
      @unpackExponent Format.binary64 b = BitVec.ofNat _ 0 :=
    ⟨fun same => BitVec.eq_of_toNat_eq same, fun same => by rw [same]; rfl⟩
  have none : (@unpackMantissa Format.binary64 b).toNat = 0 ↔
      @unpackMantissa Format.binary64 b = BitVec.ofNat _ 0 :=
    ⟨fun same => BitVec.eq_of_toNat_eq same, fun same => by rw [same]; rfl⟩
  simp only [top, bottom, none]
  split
  · split <;> rfl
  · split
    · next least =>
        split
        · next zero =>
            rw [none.mpr zero]
            rfl
        · simp only [fields, bottom.mpr least]
          rfl
    · simp only [fields, toNat_leadingOne]
      rfl

/-- A pattern of bits is told by its fields, if it stands for a finite number. -/
theorem ofBits_inj {b c : Nat} (short : b < 2 ^ 64) (short' : c < 2 ^ 64) {n : Bool} {m : Nat}
    {e : Int} (first : Binary.ofBits b = .finite n m e) (second : Binary.ofBits c = .finite n m e) :
    b = c := by
  have parts {b : Nat} (read : Binary.ofBits b = .finite n m e) :
      n = decide (b / 2 ^ 63 % 2 = 1) ∧
        (b / 2 ^ 52 % 2 ^ 11 = 0 ∧ m = b % 2 ^ 52 ∧ e = -1074 ∨
          0 < b / 2 ^ 52 % 2 ^ 11 ∧ m = 2 ^ 52 + b % 2 ^ 52 ∧
            e = (b / 2 ^ 52 % 2 ^ 11 : Nat) - 1075) := by
    rw [Binary.ofBits] at read
    simp only [Nat.pow_eq] at read
    split at read
    · split at read <;> cases read
    · split at read
      · next least =>
          cases read
          exact ⟨rfl, .inl ⟨least, rfl, rfl⟩⟩
      · next above =>
          cases read
          exact ⟨rfl, .inr ⟨Nat.pos_of_ne_zero above, rfl, rfl⟩⟩
  obtain ⟨sign, size⟩ := parts first
  obtain ⟨sign', size'⟩ := parts second
  rw [sign, decide_eq_decide] at sign'
  omega

theorem eq_of_ofFloat {x y : Float} {n : Bool} {m : Nat} {e : Int}
    (first : Binary.ofFloat x = .finite n m e) (second : Binary.ofFloat y = .finite n m e) :
    x = y := by
  have bits : x.toBits = y.toBits :=
    UInt64.toNat_inj.mp (ofBits_inj x.toBits.toNat_lt y.toBits.toNat_lt first second)
  cases x with
  | ofModel x =>
      cases y with
      | ofModel y =>
          cases x
          cases y
          cases bits
          rfl

/-- A number with the other sign. -/
theorem unpack_neg {x : Float} {s : Sign} {m : Nat} {e : Int} {long : 0 < m}
    (unpacked : x.toModel.unpack = .finite s m e long) :
    (-x).toModel.unpack = .finite (-s) m e long := by
  have whole := canonical x
  rw [unpacked] at whole
  change stored x.toModel.unpack.neg = _
  rw [unpacked]
  refine eq_finite_of_units (canonical_stored _) whole ?_
  change units (stored (.finite (-s) m e long)) = _
  rw [units_stored (-s) ⟨whole.1, whole.2.1, whole.2.2.2⟩,
    Nat.min_eq_left (magnitude_lt_beyond whole.1 whole.2.2.1).le]

end Binary64

namespace Decimal

open Binary64 Float.Model UnpackedFloat

/-- The fewest digits of a finite number are read back as the number, with whatever power of ten
they are written. -/
theorem toFloat_of_value {x : Float} {n : Bool} {m : Nat} {e : Int} {d : Decimal}
    (finite : Binary.ofFloat x = .finite n m e) (same : d.value = (shortestOrZero m e).value) :
    toFloat n d = x := by
  refine eq_of_ofFloat ?_ finite
  have whole := canonical x
  rw [ofFloat_eq] at finite ⊢
  cases unpacked : x.toModel.unpack with
  | notANumber => rw [unpacked] at finite; cases finite
  | infinity s => rw [unpacked] at finite; cases finite
  | zero s =>
      rw [unpacked, fields] at finite
      cases finite
      have zero : d.significand = 0 := by
        rw [shortestOrZero, if_pos rfl, value, value, Nat.cast_zero, zero_mul, mul_eq_zero,
          Nat.cast_eq_zero] at same
        exact same.resolve_right (zpow_ne_zero _ (by norm_num))
      rw [toFloat]
      simp only [zero, if_true]
      cases s <;> rfl
  | finite s m' e' long =>
      rw [unpacked] at whole
      rw [unpacked, fields] at finite
      cases finite
      rw [shortestOrZero, if_neg long.ne'] at same
      have result : (toFloat false d).toModel.unpack = .finite .positive m e long :=
        unpack_toFloat whole (same ▸ rounds_shortest long whole.1)
      cases s with
      | positive => rw [isNegative, result, fields, isNegative]
      | negative =>
          have other : toFloat true d = -toFloat false d := rfl
          rw [isNegative, other, unpack_neg result]
          rfl

/-- Digits that are all zero are those of zero. -/
theorem scale_shortestOrZero {x : Float} {n : Bool} {m : Nat} {e : Int}
    (finite : Binary.ofFloat x = .finite n m e) (zero : (shortestOrZero m e).significand = 0) :
    (shortestOrZero m e).scale = 0 := by
  have short : m < 2 ^ 53 := by
    have whole := canonical x
    rw [ofFloat_eq] at finite
    cases unpacked : x.toModel.unpack <;> rw [unpacked] at finite whole <;> cases finite
    · decide
    · exact whole.1
  rw [shortestOrZero] at zero ⊢
  split at zero
  · next none => rw [if_pos none]
  · next some =>
      have one : (1 : ℚ) ≤ m := by exact_mod_cast Nat.pos_of_ne_zero some
      have lower := (rounds_shortest (e := e) (Nat.pos_of_ne_zero some) short).lower
      have positive : 0 < ((m : ℚ) - below m e / 4) * 2 ^ e :=
        mul_pos (by linarith [below_le m e]) (zpow_pos two_pos e)
      rw [value, zero, Nat.cast_zero, zero_mul] at lower
      exact absurd lower (not_le.mpr positive)

/-- A finite number is not written by name. -/
theorem exists_finite_ofFloat {x : Float} (finite : x.isFinite = true) :
    ∃ n m e, Binary.ofFloat x = .finite n m e := by
  change x.toModel.unpack.isFinite = true at finite
  rw [ofFloat_eq]
  cases unpacked : x.toModel.unpack <;> rw [unpacked] at finite
  · cases finite
  · cases finite
  · exact ⟨_, _, _, rfl⟩
  · exact ⟨_, _, _, rfl⟩

end Decimal

end Absorption
