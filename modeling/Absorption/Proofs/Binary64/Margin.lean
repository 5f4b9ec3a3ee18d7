import Absorption.Proofs.Binary64.Difference

set_option autoImplicit false

/-!
Margins of binary64 numbers. Half of a positive number is a number that is not negative, if perhaps
zero (`unitsOf_half_mul`), and what it is taken from or added to does not move to the other side.
-/

namespace Absorption

namespace Binary64

open Float.Model UnpackedFloat

/-- The first shift of an exact product leaves 53 digits, or a carry, unless the exponent is the
least. -/
theorem shiftToTargetExponent_low {m : Nat} {e : Int}
    (low : e ≤ Format.binary64.targetExponent (totalExponent m e)) : ∃ em e',
      shiftToTargetExponent Format.binary64 m e .exact = (em, e') ∧ -1074 ≤ e' ∧
      em.roundedMantissa ≤ 2 ^ 53 ∧ (2 ^ 52 ≤ em.roundedMantissa ∨ e' = -1074) := by
  have target : Format.binary64.targetExponent (totalExponent m e) =
      max (m.log2 + 1 + e - 53) (-1074) := rfl
  obtain ⟨shift, amount⟩ := Int.eq_ofNat_of_zero_le (Int.sub_nonneg_of_le low)
  have shifted : shiftToTargetExponent Format.binary64 m e .exact =
      (whole m >>> shift, e + shift) := by
    rw [shiftToTargetExponent, shiftToExponent, amount]
    rfl
  have bounds := nearest_bounds m shift
  rw [← roundedMantissa_shiftRight] at bounds
  refine ⟨whole m >>> shift, e + shift, shifted, by omega, ?_, ?_⟩
  · have short : m / 2 ^ shift < 2 ^ 53 := by
      rw [Nat.div_lt_iff_lt_mul (Nat.two_pow_pos _), ← Nat.pow_add]
      calc m < 2 ^ (53 + excess m) := lt_two_pow_excess m
        _ ≤ 2 ^ (53 + shift) := Nat.pow_le_pow_right (by decide) (by rw [excess]; omega)
    omega
  · by_cases least : e + shift = -1074
    · exact .inr least
    · have log : m.log2 = 52 + shift := by omega
      have nonzero : m ≠ 0 := by
        rintro rfl
        rw [Nat.log2_zero] at log
        omega
      have long : 2 ^ 52 ≤ m / 2 ^ shift := by
        rw [Nat.le_div_iff_mul_le (Nat.two_pow_pos _), ← Nat.pow_add, ← log]
        exact Nat.log2_self_le nonzero
      exact .inl (by omega)

/-- A product that is rounded is a zero, or a number with its full length. -/
theorem roundWithAccuracy_low (s : Sign) {m : Nat} {e : Int}
    (low : e ≤ Format.binary64.targetExponent (totalExponent m e)) :
    UnpackedFloat.roundWithAccuracy Format.binary64 s m e .exact = .zero s ∨
      ∃ m' e' positive, UnpackedFloat.roundWithAccuracy Format.binary64 s m e .exact =
        .finite s m' e' positive ∧ Full m' e' := by
  obtain ⟨em, e', first, least, short, full⟩ := shiftToTargetExponent_low low
  by_cases zero : em.roundedMantissa = 0
  · refine .inl ?_
    have none : (shiftToTargetExponent Format.binary64 em.roundedMantissa e' .exact).1.mantissa =
        0 := by
      rw [zero, shiftToTargetExponent, shiftToExponent]
      exact (mantissa_shiftRight (whole 0) _).trans (Nat.zero_div _)
    simp only [roundWithAccuracy, first]
    rw [dif_pos none]
  · obtain ⟨em', e'', second, positive, long, _⟩ :=
      shiftToTargetExponent_of_le (Nat.pos_of_ne_zero zero) short least full
    refine .inr ⟨em'.mantissa, e'', positive, ?_, long⟩
    simp only [roundWithAccuracy, first, second]
    rw [dif_neg (Nat.ne_of_gt positive)]

theorem mul_eq (a b : Float) : a * b =
    Float.ofModel (.pack (UnpackedFloat.mul .binary64 a.toModel.unpack b.toModel.unpack)) := rfl

/-- One half as it is read. -/
theorem unpack_half : (Scalar.half : Float).toModel.unpack =
    .finite .positive (2 ^ 52) (-53) (Nat.two_pow_pos 52) := by
  rfl

/-- What is packed of a product with a number of full length is not negative, if neither factor
is. -/
theorem units_mul {m : Nat} {e : Int} {long : 0 < m} (full : 2 ^ 52 ≤ m) {y : UnpackedFloat}
    {n : Int} (read : units y = some n) (positive : 0 < n) :
    ∃ k, units (stored (UnpackedFloat.mul .binary64 (.finite .positive m e long) y)) = some k ∧
      0 ≤ k := by
  cases y with
  | notANumber => cases read
  | zero s =>
      rw [units, Option.some.injEq] at read
      omega
  | infinity s =>
      rw [units, Option.some.injEq] at read
      cases s with
      | negative =>
          rw [Sign.apply] at read
          omega
      | positive =>
          exact ⟨beyond, congrArg units (stored_infinity .positive), Int.natCast_nonneg beyond⟩
  | finite s m' e' long' =>
      rw [units, Option.some.injEq] at read
      cases s with
      | negative =>
          rw [Sign.apply] at read
          omega
      | positive =>
          -- The product has at least 53 digits, so the first shift goes down and loses none of 53.
          have log : 52 ≤ (m * m').log2 :=
            (Nat.le_log2 (Nat.ne_of_gt (Nat.mul_pos long long'))).mpr
              (Nat.le_trans full (Nat.le_mul_of_pos_right m long'))
          have target : Format.binary64.targetExponent (totalExponent (m * m') (e + e')) =
              max ((m * m').log2 + 1 + (e + e') - 53) (-1074) := rfl
          change ∃ k, units (stored (UnpackedFloat.roundWithAccuracy Format.binary64 .positive
            (m * m') (e + e') .exact)) = some k ∧ 0 ≤ k
          obtain zero | ⟨m'', e'', positive'', finite, full''⟩ :=
            roundWithAccuracy_low .positive (m := m * m') (e := e + e') (by omega)
          · rw [zero]
            exact ⟨0, congrArg units (stored_zero .positive), Int.le_refl 0⟩
          · rw [finite, units_stored .positive full'']
            exact ⟨_, rfl, Int.natCast_nonneg _⟩

/-- Half of a positive number is not negative. -/
theorem unitsOf_half_mul {d : Float} (positive : 0 < d) :
    ∃ k, unitsOf (Scalar.half * d) = some k ∧ 0 ≤ k := by
  obtain ⟨z, n, zero, read, above⟩ := lt_iff.mp positive
  have least : (some 0 : Option Int) = some z := zero
  rw [Option.some.injEq] at least
  have full : (2 ^ 52 : Nat) ≤ 2 ^ 52 := Nat.le_refl _
  obtain ⟨k, packed, lower⟩ := units_mul (e := -53) full read (least ▸ above)
  refine ⟨k, ?_, lower⟩
  rw [mul_eq, unpack_half]
  exact packed

/-- A finite number stands for itself. -/
theorem settled_unitsOf {a : Float} {w : Int} (read : unitsOf a = some w)
    (small : w.natAbs < beyond) : settled w = w := by
  rw [unitsOf] at read
  have whole := canonical a
  cases unpacked : a.toModel.unpack with
  | notANumber => rw [unpacked] at read; cases read
  | infinity s =>
      rw [unpacked, units, Option.some.injEq] at read
      rw [← read, natAbs_apply] at small
      omega
  | zero s =>
      rw [unpacked, units, Option.some.injEq] at read
      rw [← read, settled_zero]
  | finite s m e positive =>
      rw [unpacked] at read whole
      rw [units, Option.some.injEq] at read
      rw [← read, natAbs_apply] at small
      rw [← read, settled_apply, rounded_magnitude positive whole.1,
        Nat.min_eq_left (Nat.le_of_lt small)]

theorem sub_le_of_nonneg {a m : Float} {w k : Int} (read : unitsOf a = some w)
    (below : w < beyond) (taken : unitsOf m = some k) (positive : 0 ≤ k) : a - m ≤ a := by
  have range := natAbs_unitsOf_le taken
  have range' := natAbs_unitsOf_le read
  have left : ∃ d, difference w k = some d ∧ d ≤ w := by
    by_cases all : k = beyond
    · rw [difference, if_pos all, if_neg (by omega)]
      exact ⟨_, rfl, by omega⟩
    · by_cases least : w.natAbs = beyond
      · rw [difference, if_neg all, if_neg (by omega), if_pos least]
        exact ⟨w, rfl, Int.le_refl w⟩
      · rw [difference_finite (by omega) (by omega)]
        refine ⟨_, rfl, ?_⟩
        calc settled (w - k) ≤ settled w := settled_mono (by omega)
          _ = w := settled_unitsOf read (by omega)
  obtain ⟨d, differ, less⟩ := left
  exact le_iff.mpr ⟨d, w, unitsOf_sub_eq_some.mpr ⟨w, k, read, taken, differ⟩, read, less⟩

/-- A sum is the difference from the other sign. -/
theorem add_eq_sub_neg (x y : UnpackedFloat) :
    UnpackedFloat.add .binary64 x y = UnpackedFloat.sub .binary64 x y.neg := by
  cases x with
  | notANumber => cases y <;> rfl
  | infinity s =>
      cases y with
      | infinity s' => cases s <;> cases s' <;> rfl
      | _ => rfl
  | zero s =>
      cases y with
      | zero s' => cases s <;> cases s' <;> rfl
      | finite s' m e positive => cases s' <;> rfl
      | infinity s' => cases s' <;> rfl
      | notANumber => rfl
  | finite s m e positive =>
      cases y with
      | infinity s' => cases s' <;> rfl
      | finite s' m' e' positive' =>
          rw [UnpackedFloat.neg, UnpackedFloat.add, UnpackedFloat.sub]
          simp only [apply_neg, Int.sub_neg]
      | _ => rfl

theorem canonical_neg {y : UnpackedFloat} (read : Canonical y) : Canonical y.neg := by
  cases y <;> exact read

theorem units_neg (y : UnpackedFloat) : units y.neg = (units y).map (-·) := by
  cases y with
  | notANumber => rfl
  | zero s => rfl
  | infinity s => exact congrArg some (apply_neg s beyond)
  | finite s m e positive => exact congrArg some (apply_neg s (magnitude m e))

theorem add_eq (a b : Float) : a + b =
    Float.ofModel (.pack (UnpackedFloat.add .binary64 a.toModel.unpack b.toModel.unpack)) := rfl

theorem unitsOf_add {a b : Float} {w u : Int} (first : unitsOf a = some w)
    (second : unitsOf b = some u) : unitsOf (a + b) = difference w (-u) := by
  have negated : units b.toModel.unpack.neg = some (-u) := by
    rw [units_neg, show units b.toModel.unpack = some u from second]
    rfl
  rw [add_eq, add_eq_sub_neg]
  exact (units_sub (canonical a) (canonical_neg (canonical b))).trans (bind_units first negated)

/-- What is added to a number does not make it less. -/
theorem le_add_of_nonneg {a m : Float} {w k : Int} (read : unitsOf a = some w)
    (above : -beyond < w) (added : unitsOf m = some k) (positive : 0 ≤ k) : a ≤ a + m := by
  have range := natAbs_unitsOf_le added
  have range' := natAbs_unitsOf_le read
  have sum : ∃ d, difference w (-k) = some d ∧ w ≤ d := by
    have top := beyond_pos
    by_cases all : k = beyond
    · rw [difference, if_neg (by omega), if_pos (by omega), if_neg (by omega)]
      exact ⟨_, rfl, by omega⟩
    · by_cases most : w.natAbs = beyond
      · rw [difference, if_neg (by omega), if_neg (by omega), if_pos most]
        exact ⟨w, rfl, Int.le_refl w⟩
      · rw [difference_finite (by omega) (by omega)]
        refine ⟨_, rfl, ?_⟩
        calc w = settled w := (settled_unitsOf read (by omega)).symm
          _ ≤ settled (w - -k) := settled_mono (by omega)
  obtain ⟨d, differ, more⟩ := sum
  exact le_iff.mpr ⟨w, d, read, (unitsOf_add read added).trans differ, more⟩

end Binary64

open Binary64 in
instance Binary64.marginScalar : MarginScalar Float where
  sub_margin := by
    intro a b below
    obtain ⟨k, taken, positive⟩ := unitsOf_half_mul (OrderedScalar.zero_lt_sub.mpr below)
    obtain ⟨w, u, first, second, less⟩ := lt_iff.mp below
    have range := natAbs_unitsOf_le second
    exact sub_le_of_nonneg first (by omega) taken positive
  add_margin := by
    intro a b below
    obtain ⟨k, added, positive⟩ := unitsOf_half_mul (OrderedScalar.zero_lt_sub.mpr below)
    obtain ⟨w, u, first, second, less⟩ := lt_iff.mp below
    have range := natAbs_unitsOf_le first
    exact le_add_of_nonneg second (by omega) added positive

end Absorption
