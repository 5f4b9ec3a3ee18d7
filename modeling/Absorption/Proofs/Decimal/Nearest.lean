import Absorption.Decimal.Layout
import Absorption.Proofs.Binary64.Quotient
import Absorption.Proofs.Digits

set_option autoImplicit false

/-!
Decimals as binary64 numbers. A decimal that is rounded to a number is read as this number, however
its digits and its exponent are chosen (`unpack_toFloat`).
-/

namespace Absorption

namespace Binary64

open Float.Model UnpackedFloat

/-- The size of a number, as a rational number. -/
theorem cast_magnitude (m : Nat) {e : Int} (least : -1074 ≤ e) :
    (magnitude m e : ℚ) = m * 2 ^ e * 2 ^ (1074 : Int) := by
  rw [magnitude, Nat.cast_mul, Nat.cast_pow, Nat.cast_ofNat, ← zpow_natCast,
    Int.toNat_of_nonneg (by omega), zpow_add₀ two_ne_zero, mul_assoc]

/-- A binary64 number that is a positive whole number. -/
structure IsWhole (a : Float) (n : Nat) : Prop where
  positive : 0 < n
  small : magnitude n 0 < beyond
  units : unitsOf a = some (magnitude n 0 : Int)

/-- A whole number has its full length. -/
theorem IsWhole.exists_finite {a : Float} {n : Nat} (a_eq : IsWhole a n) : ∃ m e long,
    a.toModel.unpack = .finite .positive m e long ∧ (m : ℚ) * 2 ^ e = n ∧ 2 ^ 52 ≤ m := by
  obtain ⟨positive, small, read⟩ := a_eq
  have size := magnitude_pos (e := 0) positive
  have canonical := canonical a
  rw [unitsOf] at read
  cases unpacked : a.toModel.unpack with
  | notANumber => rw [unpacked] at read; cases read
  | infinity s =>
      rw [unpacked, Binary64.units, Option.some.injEq] at read
      have sizes := congrArg Int.natAbs read
      rw [natAbs_apply] at sizes
      omega
  | zero s =>
      rw [unpacked, Binary64.units, Option.some.injEq] at read
      omega
  | finite s m e long =>
      rw [unpacked, Binary64.units, Option.some.injEq] at read
      rw [unpacked] at canonical
      obtain ⟨short, least, most, lead⟩ := canonical
      cases s with
      | negative =>
          rw [Sign.apply] at read
          omega
      | positive =>
          have same : magnitude m e = magnitude n 0 := Int.ofNat.inj read
          refine ⟨m, e, long, rfl, ?_, ?_⟩
          · have sizes := congrArg (Nat.cast : Nat → ℚ) same
            rw [cast_magnitude m least, cast_magnitude n (by decide), zpow_zero, mul_one] at sizes
            exact mul_right_cancel₀ (zpow_ne_zero _ two_ne_zero) sizes
          · refine lead.elim id fun bottom => ?_
            rw [bottom] at same
            calc 2 ^ 52 ≤ 2 ^ ((0 : Int) + 1074).toNat :=
                  Nat.pow_le_pow_right (by decide) (by decide)
              _ ≤ magnitude n 0 := Nat.le_mul_of_pos_left _ positive
              _ = magnitude m (-1074) := same.symm
              _ = m := Nat.mul_one m

/-- Up to 53 digits every whole number is a binary64 number. -/
theorem isWhole_toFloat {n : Nat} (positive : 0 < n) (short : n < 2 ^ 53) :
    IsWhole n.toUInt64.toFloat n := by
  have small := magnitude_lt_beyond (e := 0) short (by decide)
  have kept : n.toUInt64.toNat = n := by
    rw [UInt64.toNat_ofNat']
    exact Nat.mod_eq_of_lt (by omega)
  have settles := settled_apply .positive (magnitude n 0)
  rw [rounded_magnitude positive short, Nat.min_eq_left small.le] at settles
  refine ⟨positive, small, ?_⟩
  change units (stored (normalize Format.binary64 (n.toUInt64.toNat : Int) 0 .positive)) = _
  rw [kept, units_normalize _ (by decide)]
  exact congrArg some settles

/-- The powers of ten that are kept in a table are binary64 numbers. -/
theorem isWhole_powerOfTen {i : Nat} (entry : i < Float.exactlyRepresentablePowersOfTen.size) :
    IsWhole Float.exactlyRepresentablePowersOfTen[i] (10 ^ i) := by
  have each : ∀ i : Fin 23, magnitude (10 ^ i.val) 0 < beyond ∧
      unitsOf Float.exactlyRepresentablePowersOfTen[i] = some (magnitude (10 ^ i.val) 0 : Int) := by
    decide +kernel
  obtain ⟨small, units⟩ := each ⟨i, entry⟩
  exact ⟨Nat.pow_pos (by decide), small, units⟩

variable {m : Nat} {e : Int} {long : 0 < m}

/-- A quotient of whole numbers is the number that it is rounded to. -/
theorem unpack_div {a b : Float} {n d : Nat} (a_eq : IsWhole a n) (b_eq : IsWhole b d)
    (canonical : Canonical (.finite .positive m e long)) (rounds : Rounds (n / d) m e) :
    (a / b).toModel.unpack = .finite .positive m e long := by
  obtain ⟨m₁, e₁, long₁, read₁, value₁, _⟩ := a_eq.exists_finite
  obtain ⟨m₂, e₂, long₂, read₂, value₂, _⟩ := b_eq.exists_finite
  change stored (UnpackedFloat.div .binary64 a.toModel.unpack b.toModel.unpack) = _
  rw [read₁, read₂]
  exact stored_div canonical (by rwa [value₁, value₂])

theorem unpack_mul {a b : Float} {n d : Nat} (a_eq : IsWhole a n) (b_eq : IsWhole b d)
    (canonical : Canonical (.finite .positive m e long)) (rounds : Rounds (n * d) m e) :
    (a * b).toModel.unpack = .finite .positive m e long := by
  obtain ⟨m₁, e₁, long₁, read₁, value₁, full⟩ := a_eq.exists_finite
  obtain ⟨m₂, e₂, long₂, read₂, value₂, _⟩ := b_eq.exists_finite
  change stored (UnpackedFloat.mul .binary64 a.toModel.unpack b.toModel.unpack) = _
  rw [read₁, read₂]
  exact stored_mul full canonical (by rwa [value₁, value₂])

/-- An exponent beyond the format does not go with a number in its range. -/
theorem scale_of_bounds {n : Nat} {k : Int} {v : ℚ} (value : v = n * 10 ^ k) (positive : 0 < n)
    (bounds : (2 : ℚ) ^ (-1075 : Int) ≤ v ∧ v < 2 ^ (1024 : Int)) :
    k ≤ 2048 ∧ -(2048 + n.log2 : Int) ≤ k := by
  have one : (1 : ℚ) ≤ n := by exact_mod_cast positive
  constructor
  · by_contra above
    refine (bounds.2.trans_le ?_).false
    calc (2 : ℚ) ^ (1024 : Int) ≤ 2 ^ k := zpow_le_zpow_right₀ one_le_two (by omega)
      _ ≤ 10 ^ k := zpow_le_zpow_left₀ (by omega) two_pos.le (by norm_num)
      _ ≤ n * 10 ^ k := le_mul_of_one_le_left (zpow_nonneg (by norm_num) k) one
      _ = v := value.symm
  · by_contra below
    have digits : (n : ℚ) < 2 ^ ((n.log2 : Int) + 1) := by
      exact_mod_cast Nat.lt_log2_self (n := n)
    have power : (10 : ℚ) ^ k ≤ 2 ^ k := by
      have inverse : (2 : ℚ) ^ (-k) ≤ 10 ^ (-k) :=
        zpow_le_zpow_left₀ (by omega) two_pos.le (by norm_num)
      rw [zpow_neg, zpow_neg] at inverse
      exact (inv_le_inv₀ (zpow_pos two_pos k) (zpow_pos (by norm_num) k)).mp inverse
    refine (bounds.1.trans_lt ?_).false
    calc v = n * 10 ^ k := value
      _ < 2 ^ ((n.log2 : Int) + 1) * 10 ^ k :=
          mul_lt_mul_of_pos_right digits (zpow_pos (by norm_num) k)
      _ ≤ 2 ^ ((n.log2 : Int) + 1) * 2 ^ k := mul_le_mul_of_nonneg_left power (by positivity)
      _ = 2 ^ ((n.log2 : Int) + 1 + k) := (zpow_add₀ two_ne_zero _ _).symm
      _ ≤ 2 ^ (-1075 : Int) := zpow_le_zpow_right₀ one_le_two (by omega)

theorem stored_ofScientific {n : Nat} {k : Int} (positive : 0 < n)
    (canonical : Canonical (.finite .positive m e long)) (rounds : Rounds (n * 10 ^ k) m e) :
    stored (UnpackedFloat.ofScientific .binary64 n k) = .finite .positive m e long := by
  obtain ⟨most, least⟩ := scale_of_bounds rfl positive (rounds.bounds canonical)
  have range : (2 : Int) ^ Format.binary64.exponentBits = 2048 := rfl
  rw [UnpackedFloat.ofScientific, dif_neg positive.ne', if_neg (by rw [range]; omega),
    if_neg (by rw [range]; omega)]
  split
  · next whole =>
      have value : ((n <<< 53 : Nat) : ℚ) * 2 ^ (-53 : Int) *
          ((10 ^ k.toNat : Nat) * 2 ^ (0 : Int)) = n * 10 ^ k := by
        rw [Nat.shiftLeft_eq, ← Int.toNat_of_nonneg whole, zpow_natCast, Int.toNat_natCast]
        push_cast
        norm_num [mul_assoc]
      refine stored_mul ?_ canonical ?_
      · change 2 ^ 52 ≤ n <<< 53
        rw [Nat.shiftLeft_eq]
        omega
      · change Rounds ((n <<< 53 : Nat) * 2 ^ (-53 : Int) *
          ((10 ^ k.toNat : Nat) * 2 ^ (0 : Int))) m e
        rwa [value]
  · next fractional =>
      have value : (n : ℚ) * 2 ^ (0 : Int) / ((10 ^ (-k).toNat : Nat) * 2 ^ (0 : Int)) =
          n * 10 ^ k := by
        have flip : k = -((-k).toNat : Int) := by omega
        generalize (-k).toNat = j at flip
        rw [flip, zpow_zero, mul_one, mul_one, zpow_neg, zpow_natCast, div_eq_mul_inv]
        push_cast
        rfl
      refine stored_div canonical ?_
      rwa [value]

/-- A decimal is read as the number that it is rounded to, whether its digits and the power of ten
are numbers themselves or not. -/
theorem unpack_ofScientific {n : Nat} {k : Int} (positive : 0 < n)
    (canonical : Canonical (.finite .positive m e long)) (rounds : Rounds (n * 10 ^ k) m e) :
    (Float.ofScientific n (k < 0) k.natAbs).toModel.unpack = .finite .positive m e long := by
  rw [Float.ofScientific]
  split
  · next short =>
      have digits := isWhole_toFloat positive short.1
      have power := isWhole_powerOfTen (Nat.lt_succ_of_le short.2)
      have value (negative : k < 0) : (n / (10 ^ k.natAbs : Nat) : ℚ) = n * 10 ^ k := by
        have flip : k = -(k.natAbs : Int) := by omega
        generalize k.natAbs = j at flip
        rw [flip, zpow_neg, zpow_natCast, div_eq_mul_inv]
        push_cast
        rfl
      have value' (whole : ¬ k < 0) : (n * (10 ^ k.natAbs : Nat) : ℚ) = n * 10 ^ k := by
        have same : k = (k.natAbs : Int) := by omega
        generalize k.natAbs = j at same
        rw [same, zpow_natCast]
        push_cast
        rfl
      split
      · next negative =>
          refine unpack_div digits power canonical ?_
          rwa [value (of_decide_eq_true negative)]
      · next whole =>
          refine unpack_mul digits power canonical ?_
          rwa [value' fun negative => whole (decide_eq_true negative)]
  · have scale : (if decide (k < 0) = true then Int.negOfNat k.natAbs
        else Int.ofNat k.natAbs) = k := by
      split
      · next negative =>
          have below := of_decide_eq_true negative
          rw [Int.negOfNat_eq]
          change -(k.natAbs : Int) = k
          omega
      · next whole =>
          have above : ¬ k < 0 := fun negative => whole (decide_eq_true negative)
          change (k.natAbs : Int) = k
          omega
    rw [scale]
    exact stored_ofScientific positive canonical rounds

end Binary64

namespace Decimal

open Binary64 Float.Model UnpackedFloat

/-- The number that a decimal stands for. -/
def value (d : Decimal) : ℚ := d.significand * 10 ^ d.scale

/-- A positive decimal is at least the power of ten that its digits and its scale tell. -/
theorem value_bounds {d : Decimal} (positive : d.significand ≠ 0) :
    (10 : ℚ) ^ (d.scale + (Text.digits d.significand).length - 1) ≤ d.value ∧
      d.value < 10 ^ (d.scale + (Text.digits d.significand).length) := by
  have ten : (10 : ℚ) ≠ 0 := by norm_num
  have power : (0 : ℚ) < 10 ^ d.scale := zpow_pos (by norm_num) _
  rw [Text.length_digits, value]
  push_cast
  constructor
  · have lower : (10 : ℚ) ^ (Nat.log 10 d.significand : Int) ≤ d.significand := by
      exact_mod_cast Nat.pow_log_le_self 10 positive
    calc (10 : ℚ) ^ (d.scale + ((Nat.log 10 d.significand : Int) + 1) - 1)
        = 10 ^ (Nat.log 10 d.significand : Int) * 10 ^ d.scale := by
          rw [← zpow_add₀ ten]; congr 1; ring
      _ ≤ d.significand * 10 ^ d.scale := mul_le_mul_of_nonneg_right lower power.le
  · have upper : (d.significand : ℚ) < 10 ^ ((Nat.log 10 d.significand : Int) + 1) := by
      exact_mod_cast Nat.lt_pow_succ_log_self (b := 10) (by decide) d.significand
    calc (d.significand : ℚ) * 10 ^ d.scale
        < 10 ^ ((Nat.log 10 d.significand : Int) + 1) * 10 ^ d.scale :=
          mul_lt_mul_of_pos_right upper power
      _ = 10 ^ (d.scale + ((Nat.log 10 d.significand : Int) + 1)) := by
          rw [← zpow_add₀ ten]; congr 1; ring

/-- Powers of ten that are beyond all binary64 numbers. -/
theorem two_pow_le : (2 : ℚ) ^ (1024 : Int) ≤ 10 ^ (310 : Int) := by
  have short : (2 : ℚ) ^ 205 ≤ 10 ^ 62 := by norm_num
  rw [zpow_ofNat, zpow_ofNat]
  calc (2 : ℚ) ^ 1024 ≤ 2 ^ (205 * 5) := pow_le_pow_right₀ one_le_two (by decide)
    _ = (2 ^ 205) ^ 5 := pow_mul _ _ _
    _ ≤ (10 ^ 62) ^ 5 := pow_le_pow_left₀ (by positivity) short 5
    _ = 10 ^ (62 * 5) := (pow_mul _ _ _).symm

theorem ten_pow_le : (10 : ℚ) ^ (-401 : Int) ≤ 2 ^ (-1075 : Int) := by
  have short : (2 : ℚ) ^ 215 ≤ 10 ^ 80 := by norm_num
  rw [zpow_neg, zpow_neg, zpow_ofNat, zpow_ofNat]
  refine inv_anti₀ (by positivity) ?_
  calc (2 : ℚ) ^ 1075 ≤ 2 ^ (215 * 5) := pow_le_pow_right₀ one_le_two (by decide)
    _ = (2 ^ 215) ^ 5 := pow_mul _ _ _
    _ ≤ (10 ^ 80) ^ 5 := pow_le_pow_left₀ (by positivity) short 5
    _ = 10 ^ (80 * 5) := (pow_mul _ _ _).symm
    _ ≤ 10 ^ 401 := pow_le_pow_right₀ (by norm_num) (by decide)

variable {m : Nat} {e : Int} {long : 0 < m}

/-- A decimal is read as the number that it is rounded to. -/
theorem unpack_toFloat {d : Decimal} (canonical : Canonical (.finite .positive m e long))
    (rounds : Rounds d.value m e) :
    (toFloat false d).toModel.unpack = .finite .positive m e long := by
  obtain ⟨least, most⟩ := rounds.bounds canonical
  have nonzero : d.significand ≠ 0 := by
    intro zero
    rw [value, zero, Nat.cast_zero, zero_mul] at least
    exact absurd least (not_le.mpr (zpow_pos two_pos _))
  obtain ⟨lower, upper⟩ := value_bounds nonzero
  have ten : (1 : ℚ) ≤ 10 := by norm_num
  rw [toFloat]
  simp only [if_neg nonzero, Bool.false_eq_true, if_false]
  rw [if_neg, if_neg]
  · exact unpack_ofScientific (Nat.pos_of_ne_zero nonzero) canonical rounds
  · intro below
    have further := zpow_le_zpow_right₀ ten
      (show d.scale + (Text.digits d.significand).length ≤ -401 by omega)
    exact (least.trans_lt (upper.trans_le (further.trans ten_pow_le))).false
  · intro above
    have further := zpow_le_zpow_right₀ ten
      (show 310 ≤ d.scale + (Text.digits d.significand).length - 1 by omega)
    exact (most.trans_le (two_pow_le.trans (further.trans lower))).false

end Decimal

end Absorption
