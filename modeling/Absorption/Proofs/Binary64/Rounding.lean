import Absorption.Proofs.Binary64

set_option autoImplicit false

/-!
How binary64 numbers are rounded. A multiple of the least positive number keeps its first 53 digits,
to the nearest (`round_eq`), and no number is taken past another (`rounded_mono`).
-/

namespace Absorption

namespace Binary64

open Float.Model UnpackedFloat

/-- The whole number nearest to `n / 2 ^ k`, and of two the even one. -/
def nearest (n k : Nat) : Nat :=
  if 2 * (n % 2 ^ k) < 2 ^ k then n / 2 ^ k
  else if 2 * (n % 2 ^ k) = 2 ^ k then n / 2 ^ k + n / 2 ^ k % 2
  else n / 2 ^ k + 1

theorem nearest_bounds (n k : Nat) : n / 2 ^ k ≤ nearest n k ∧ nearest n k ≤ n / 2 ^ k + 1 := by
  rw [nearest]
  split
  · omega
  · split <;> omega

theorem nearest_mono {n n' : Nat} (k : Nat) (below : n ≤ n') : nearest n k ≤ nearest n' k := by
  have quotients : n / 2 ^ k ≤ n' / 2 ^ k := Nat.div_le_div_right below
  obtain less | same := Nat.lt_or_eq_of_le quotients
  · have upper := (nearest_bounds n k).2
    have lower := (nearest_bounds n' k).1
    omega
  · have remainders : n % 2 ^ k ≤ n' % 2 ^ k := by
      have first := Nat.div_add_mod n (2 ^ k)
      have second := Nat.div_add_mod n' (2 ^ k)
      rw [← same] at second
      omega
    rw [nearest, nearest, ← same]
    split <;> split <;> (try split) <;> (try split) <;> omega

/-- Only the quotient counts. -/
theorem nearest_mul (m k a : Nat) : nearest (m * 2 ^ a) (k + a) = nearest m k := by
  have scale := Nat.two_pow_pos a
  have remainder : m * 2 ^ a % 2 ^ (k + a) = m % 2 ^ k * 2 ^ a := by
    rw [Nat.pow_add, Nat.mul_mod_mul_right]
  have less : 2 * (m % 2 ^ k * 2 ^ a) < 2 ^ k * 2 ^ a ↔ 2 * (m % 2 ^ k) < 2 ^ k := by
    rw [← Nat.mul_assoc, Nat.mul_lt_mul_right scale]
  have tie : 2 * (m % 2 ^ k * 2 ^ a) = 2 ^ k * 2 ^ a ↔ 2 * (m % 2 ^ k) = 2 ^ k := by
    rw [← Nat.mul_assoc, Nat.mul_right_cancel_iff scale]
  rw [nearest, nearest, remainder, Nat.pow_add, Nat.mul_div_mul_right _ _ scale]
  simp only [less, tie]

theorem nearest_zero (m : Nat) : nearest m 0 = m := by
  simp [nearest, Nat.mod_one]

theorem nearest_mul_self (m a : Nat) : nearest (m * 2 ^ a) a = m := by
  have scaled := nearest_mul m 0 a
  rwa [Nat.zero_add, nearest_zero] at scaled

theorem mantissa_shiftRight (em : ExtendedMantissa) (n : Nat) :
    (em >>> n).mantissa = em.mantissa / 2 ^ n := by
  induction n with
  | zero => exact (Nat.div_one _).symm
  | succ n ih =>
      change (em >>> n).mantissa / 2 = _
      rw [ih, Nat.div_div_eq_div_mul, Nat.pow_succ]

/-- A whole mantissa, of which nothing was cut off. -/
def whole (m : Nat) : ExtendedMantissa := ⟨m, false, false⟩

theorem roundBit_shiftRight (m k : Nat) :
    (whole m >>> (k + 1)).roundBit = (m / 2 ^ k % 2 != 0) := by
  change ((whole m >>> k).mantissa % 2 != 0) = _
  rw [mantissa_shiftRight]
  rfl

theorem stickyBit_shiftRight (m k : Nat) :
    (whole m >>> (k + 1)).stickyBit = (m % 2 ^ k != 0) := by
  induction k with
  | zero => exact (congrArg (· != 0) (Nat.mod_one m)).symm
  | succ k ih =>
      change ((whole m >>> (k + 1)).roundBit || (whole m >>> (k + 1)).stickyBit) = _
      rw [ih, roundBit_shiftRight, Nat.mod_pow_succ]
      have power := Nat.two_pow_pos k
      obtain zero | one : m / 2 ^ k % 2 = 0 ∨ m / 2 ^ k % 2 = 1 := by omega
      · rw [zero, Nat.mul_zero, Nat.add_zero]
        rfl
      · have set : m % 2 ^ k + 2 ^ k ≠ 0 := by omega
        rw [one, Nat.mul_one, bne_iff_ne.mpr set]
        rfl

/-- The digit that is cut off first and whether others follow it settle what is nearest. -/
theorem roundedMantissa_shiftRight (m k : Nat) : (whole m >>> k).roundedMantissa = nearest m k := by
  cases k with
  | zero => exact (nearest_zero m).symm
  | succ k =>
      have quotient : m / 2 ^ (k + 1) = (whole m >>> (k + 1)).mantissa :=
        (mantissa_shiftRight (whole m) (k + 1)).symm
      have parts : whole m >>> (k + 1) =
          ⟨m / 2 ^ (k + 1), m / 2 ^ k % 2 != 0, m % 2 ^ k != 0⟩ := by
        rw [quotient, ← roundBit_shiftRight, ← stickyBit_shiftRight]
      have low := Nat.mod_lt m (Nat.two_pow_pos k)
      rw [parts, nearest, Nat.mod_pow_succ, Nat.pow_succ 2 k]
      obtain zero | one : m / 2 ^ k % 2 = 0 ∨ m / 2 ^ k % 2 = 1 := by omega
      · rw [zero, Nat.mul_zero, if_pos (by omega)]
        cases m % 2 ^ k != 0 <;> rfl
      · rw [one, Nat.mul_one, if_neg (by omega)]
        by_cases tie : m % 2 ^ k = 0
        · rw [tie, if_pos (by omega)]
          rfl
        · rw [if_neg (by omega), bne_iff_ne.mpr tie]
          rfl

/-- The places that a number of this size has too many. -/
def excess (n : Nat) : Nat := n.log2 - 52

/-- A multiple of the least positive number, with its first 53 digits rounded. -/
def rounded (n : Nat) : Nat := nearest n (excess n) * 2 ^ excess n

theorem lt_two_pow_excess (n : Nat) : n < 2 ^ (53 + excess n) := by
  have upper := Nat.lt_log2_self (n := n)
  exact Nat.lt_of_lt_of_le upper (Nat.pow_le_pow_right (by decide) (by rw [excess]; omega))

theorem two_pow_le_of_excess {n : Nat} (long : 0 < excess n) : 2 ^ (52 + excess n) ≤ n := by
  rw [excess] at long ⊢
  have nonzero : n ≠ 0 := by
    intro zero
    rw [zero] at long
    exact absurd long (by decide)
  have lower := Nat.log2_self_le nonzero
  rwa [show 52 + (n.log2 - 52) = n.log2 by omega]

theorem nearest_excess_le (n : Nat) : nearest n (excess n) ≤ 2 ^ 53 := by
  have upper := (nearest_bounds n (excess n)).2
  have short : n / 2 ^ excess n < 2 ^ 53 := by
    rw [Nat.div_lt_iff_lt_mul (Nat.two_pow_pos _), ← Nat.pow_add]
    exact lt_two_pow_excess n
  omega

theorem le_nearest_excess {n : Nat} (long : 0 < excess n) : 2 ^ 52 ≤ nearest n (excess n) := by
  have lower := (nearest_bounds n (excess n)).1
  have full : 2 ^ 52 ≤ n / 2 ^ excess n := by
    rw [Nat.le_div_iff_mul_le (Nat.two_pow_pos _), ← Nat.pow_add]
    exact two_pow_le_of_excess long
  omega

theorem nearest_excess_pos {n : Nat} (positive : 0 < n) : 0 < nearest n (excess n) := by
  by_cases long : 0 < excess n
  · exact Nat.lt_of_lt_of_le (Nat.two_pow_pos 52) (le_nearest_excess long)
  · rwa [Nat.eq_zero_of_not_pos long, nearest_zero]

theorem rounded_pos {n : Nat} (positive : 0 < n) : 0 < rounded n :=
  Nat.mul_pos (nearest_excess_pos positive) (Nat.two_pow_pos _)

/-- Of two numbers the one that loses more places stays at or above a power of two that the other
cannot pass. -/
theorem rounded_mono {n n' : Nat} (below : n ≤ n') : rounded n ≤ rounded n' := by
  have places : excess n ≤ excess n' := by
    by_cases zero : n = 0
    · rw [zero]
      exact Nat.zero_le _
    · have longer : n.log2 ≤ n'.log2 :=
        (Nat.le_log2 (by omega)).mpr (Nat.le_trans (Nat.log2_self_le zero) below)
      rw [excess, excess]
      omega
  obtain fewer | same := Nat.lt_or_eq_of_le places
  · calc nearest n (excess n) * 2 ^ excess n
        ≤ 2 ^ 53 * 2 ^ excess n := Nat.mul_le_mul_right _ (nearest_excess_le n)
      _ = 2 ^ 52 * 2 ^ (excess n + 1) := by rw [← Nat.pow_add, ← Nat.pow_add]; congr 1; omega
      _ ≤ 2 ^ 52 * 2 ^ excess n' :=
          Nat.mul_le_mul_left _ (Nat.pow_le_pow_right (by decide) fewer)
      _ ≤ nearest n' (excess n') * 2 ^ excess n' :=
          Nat.mul_le_mul_right _ (le_nearest_excess (by omega))
  · rw [rounded, rounded, ← same]
    exact Nat.mul_le_mul_right _ (nearest_mono _ below)

theorem log2_mul_two_pow {m : Nat} (nonzero : m ≠ 0) (a : Nat) :
    (m * 2 ^ a).log2 = m.log2 + a := by
  have scale := Nat.two_pow_pos a
  rw [Nat.log2_eq_iff (Nat.mul_ne_zero nonzero (Nat.ne_of_gt scale))]
  constructor
  · rw [Nat.pow_add]
    exact Nat.mul_le_mul_right _ (Nat.log2_self_le nonzero)
  · rw [Nat.add_right_comm, Nat.pow_add]
    exact Nat.mul_lt_mul_of_pos_right Nat.lt_log2_self scale

/-- A number without excess digits other than zeros is kept. -/
theorem rounded_eq_self {n m : Nat} (cut : n = m * 2 ^ excess n) : rounded n = n := by
  rw [rounded]
  generalize excess n = k at cut ⊢
  rw [cut, nearest_mul_self]

theorem rounded_magnitude {m : Nat} {e : Int} (positive : 0 < m) (short : m < 2 ^ 53) :
    rounded (magnitude m e) = magnitude m e := by
  have log : m.log2 < 53 := (Nat.log2_lt (Nat.ne_of_gt positive)).mpr short
  have places : excess (magnitude m e) ≤ (e + 1074).toNat := by
    rw [excess, magnitude, log2_mul_two_pow (Nat.ne_of_gt positive)]
    omega
  apply rounded_eq_self (m := m * 2 ^ ((e + 1074).toNat - excess (magnitude m e)))
  rw [Nat.mul_assoc, ← Nat.pow_add, Nat.sub_add_cancel places, magnitude]

/-- The exponent at which a number keeps 53 digits is that of its excess. -/
theorem targetExponent_eq {m : Nat} {e : Int} (positive : 0 < m) (least : -1074 ≤ e) :
    Format.binary64.targetExponent (totalExponent m e) = excess (magnitude m e) - 1074 := by
  have target : Format.binary64.targetExponent (totalExponent m e) =
      max (m.log2 + 1 + e - 53) (-1074) := rfl
  rw [target, excess, magnitude, log2_mul_two_pow (Nat.ne_of_gt positive)]
  omega

/-- The first shift leaves what is nearest, at the exponent of the excess. -/
theorem shiftToTargetExponent_eq {m : Nat} {e : Int} (positive : 0 < m) (least : -1074 ≤ e)
    (low : e ≤ excess (magnitude m e) - 1074) : ∃ em : ExtendedMantissa,
      shiftToTargetExponent Format.binary64 m e .exact =
        (em, (excess (magnitude m e) : Int) - 1074) ∧
      em.roundedMantissa = nearest (magnitude m e) (excess (magnitude m e)) := by
  obtain ⟨shift, amount⟩ := Int.eq_ofNat_of_zero_le (Int.sub_nonneg_of_le low)
  refine ⟨whole m >>> shift, ?_, ?_⟩
  · rw [shiftToTargetExponent, targetExponent_eq positive least, shiftToExponent, amount]
    refine Prod.ext rfl ?_
    change e + ((shift : Int).toNat : Int) = _
    omega
  · have places : excess (magnitude m e) = shift + (e + 1074).toNat := by omega
    rw [roundedMantissa_shiftRight, places, magnitude, nearest_mul]

/-- A mantissa of its full length, unless the exponent is the least. -/
def Full (m : Nat) (e : Int) : Prop := m < 2 ^ 53 ∧ -1074 ≤ e ∧ (2 ^ 52 ≤ m ∨ e = -1074)

/-- A mantissa that was rounded up to 54 digits is halved, with no further loss. -/
theorem shiftToTargetExponent_of_le {r : Nat} {e : Int} (positive : 0 < r) (short : r ≤ 2 ^ 53)
    (least : -1074 ≤ e) (full : 2 ^ 52 ≤ r ∨ e = -1074) : ∃ em e',
      shiftToTargetExponent Format.binary64 r e .exact = (em, e') ∧ 0 < em.mantissa ∧
      Full em.mantissa e' ∧ magnitude em.mantissa e' = magnitude r e := by
  have target : Format.binary64.targetExponent (totalExponent r e) =
      max (r.log2 + 1 + e - 53) (-1074) := rfl
  obtain shorter | same := Nat.lt_or_eq_of_le short
  · have log : r.log2 < 53 := (Nat.log2_lt (Nat.ne_of_gt positive)).mpr shorter
    refine ⟨whole r, e, ?_, positive, ⟨shorter, least, full⟩, rfl⟩
    have kept : (Format.binary64.targetExponent (totalExponent r e) - e).toNat = 0 := by
      rw [target]
      omega
    rw [shiftToTargetExponent, shiftToExponent, kept]
    exact Prod.ext rfl (Int.add_zero e)
  · have log : r.log2 = 53 := by rw [same, Nat.log2_two_pow]
    have halved : (Format.binary64.targetExponent (totalExponent r e) - e).toNat = 1 := by
      rw [target, log]
      omega
    refine ⟨whole r >>> 1, e + 1, ?_, ?_⟩
    · rw [shiftToTargetExponent, shiftToExponent, halved]
      rfl
    · have half : (whole r >>> 1).mantissa = 2 ^ 52 := by
        rw [mantissa_shiftRight, same]
        rfl
      rw [half]
      refine ⟨by decide, ⟨by decide, by omega, .inl (Nat.le_refl _)⟩, ?_⟩
      rw [magnitude, magnitude, same, ← Nat.pow_add, ← Nat.pow_add]
      congr 1
      omega

theorem magnitude_shiftLeft (m : Nat) {e : Int} {a : Nat} (least : -1074 ≤ e - a) :
    magnitude (m <<< a) (e - a) = magnitude m e := by
  rw [magnitude, magnitude, Nat.shiftLeft_eq, Nat.mul_assoc, ← Nat.pow_add]
  congr 2
  omega

/-- Rounding keeps 53 digits. -/
theorem round_eq (s : Sign) {m : Nat} {e : Int} (positive : 0 < m) (least : -1074 ≤ e) :
    ∃ m' e' positive', UnpackedFloat.round Format.binary64 s m e = .finite s m' e' positive' ∧
      Full m' e' ∧ magnitude m' e' = rounded (magnitude m e) := by
  obtain ⟨a, down⟩ : ∃ a, (e - Format.binary64.targetExponent (totalExponent m e)).toNat = a :=
    ⟨_, rfl⟩
  have target := targetExponent_eq positive least
  have same := magnitude_shiftLeft m (e := e) (a := a) (by omega)
  have positive₁ : 0 < m <<< a := by
    rw [Nat.shiftLeft_eq]
    exact Nat.mul_pos positive (Nat.two_pow_pos a)
  obtain ⟨em, first, value⟩ :=
    shiftToTargetExponent_eq positive₁ (e := e - a) (by omega) (by rw [same]; omega)
  rw [same] at first value
  have full : 2 ^ 52 ≤ em.roundedMantissa ∨ (excess (magnitude m e) : Int) - 1074 = -1074 := by
    rw [value]
    by_cases long : 0 < excess (magnitude m e)
    · exact .inl (le_nearest_excess long)
    · exact .inr (by omega)
  have nonzero : 0 < em.roundedMantissa := by
    rw [value]
    exact nearest_excess_pos (magnitude_pos positive)
  obtain ⟨em', e', second, positive', short, kept⟩ :=
    shiftToTargetExponent_of_le nonzero (by rw [value]; exact nearest_excess_le _) (by omega) full
  refine ⟨em'.mantissa, e', positive', ?_, short, ?_⟩
  · rw [UnpackedFloat.round, decreaseExponent, down]
    simp only [roundWithAccuracy, first, second]
    rw [dif_neg (Nat.ne_of_gt positive')]
  · rw [kept, value, magnitude, rounded]
    congr 2
    omega

end Binary64
end Absorption
