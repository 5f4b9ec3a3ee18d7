import Absorption.Decimal.Rounding
import Absorption.Proofs.Binary64.Equality

set_option autoImplicit false

/-!
How quotients are rounded. Of a fraction the whole part is kept and how the rest compares with one
half, which is enough to find the nearest number of 53 digits (`stored_roundWithAccuracy`).
-/

namespace Absorption

namespace Binary64

open Float.Model UnpackedFloat

/-- The whole part of a fraction, and what the rest is against one half. -/
def quotient (n d : Nat) : ExtendedMantissa :=
  .ofMantissaAndAccuracy (n / d) (accuracyOfFraction (n % d) d)

theorem quotient_eq {d : Nat} (positive : 0 < d) (n : Nat) : quotient n d =
    ⟨n / d, decide (d ≤ 2 * (n % d)), decide (n % d ≠ 0 ∧ d ≠ 2 * (n % d))⟩ := by
  rw [quotient, accuracyOfFraction]
  by_cases whole : n % d = 0
  · rw [if_pos whole, whole, decide_eq_false (by omega), decide_eq_false (by omega)]
    rfl
  · rw [if_neg whole]
    rcases Nat.lt_trichotomy (2 * (n % d)) d with less | tie | more
    · rw [Nat.compare_eq_lt.mpr less, decide_eq_false (by omega), decide_eq_true (by omega)]
      rfl
    · rw [Nat.compare_eq_eq.mpr tie, decide_eq_true (by omega), decide_eq_false (by omega)]
      rfl
    · rw [Nat.compare_eq_gt.mpr more, decide_eq_true (by omega), decide_eq_true (by omega)]
      rfl

/-- To cut off a binary place is to double the denominator. -/
theorem quotient_shiftRight {d : Nat} (positive : 0 < d) (n k : Nat) :
    quotient n d >>> k = quotient n (d * 2 ^ k) := by
  induction k with
  | zero => rw [Nat.pow_zero, Nat.mul_one]; rfl
  | succ k ih =>
      change (quotient n d >>> k).shiftRightOne = _
      have positive' : 0 < d * 2 ^ k := Nat.mul_pos positive (Nat.two_pow_pos k)
      rw [ih, Nat.pow_succ, ← Nat.mul_assoc]
      generalize d * 2 ^ k = d at positive'
      rw [quotient_eq positive', quotient_eq (Nat.mul_pos positive' (by decide))]
      have rest := Nat.mod_lt n positive'
      have double : n % (d * 2) = n % d + d * (n / d % 2) := Nat.mod_mul
      have bit : (n / d % 2 != 0) = decide (d * 2 ≤ 2 * (n % (d * 2))) := by
        rw [double]
        rcases Nat.mod_two_eq_zero_or_one (n / d) with even | odd
        · rw [even, decide_eq_false (by omega)]
          rfl
        · rw [odd, decide_eq_true (by omega)]
          rfl
      have sticky : (decide (d ≤ 2 * (n % d)) || decide (n % d ≠ 0 ∧ d ≠ 2 * (n % d))) =
          decide (n % (d * 2) ≠ 0 ∧ d * 2 ≠ 2 * (n % (d * 2))) := by
        rw [double, ← Bool.decide_or, decide_eq_decide]
        rcases Nat.mod_two_eq_zero_or_one (n / d) with even | odd
        · rw [even]
          omega
        · rw [odd]
          omega
      rw [ExtendedMantissa.shiftRightOne, bit, sticky, Nat.div_div_eq_div_mul]

/-- The nearest whole number to the fraction is what remains. -/
theorem roundedMantissa_quotient {d : Nat} (positive : 0 < d) (n : Nat) :
    (quotient n d).roundedMantissa = Decimal.roundDiv n d := by
  rw [quotient_eq positive, Decimal.roundDiv]
  rcases Nat.lt_trichotomy (2 * (n % d)) d with less | tie | more
  · rw [if_pos less, decide_eq_false (by omega : ¬ d ≤ 2 * (n % d))]
    cases decide (n % d ≠ 0 ∧ d ≠ 2 * (n % d)) <;> rfl
  · rw [if_neg (by omega), if_neg (by omega), decide_eq_true (by omega : d ≤ 2 * (n % d)),
      decide_eq_false (by omega)]
    rfl
  · rw [if_neg (by omega), if_pos more, decide_eq_true (by omega : d ≤ 2 * (n % d)),
      decide_eq_true (by omega)]
    rfl

/-- The one whole number at most one half away, and the even one of two. -/
theorem roundDiv_eq {n d m : Nat} (positive : 0 < d) (lower : (m : ℚ) - 1 / 2 ≤ n / d)
    (upper : (n : ℚ) / d ≤ m + 1 / 2)
    (odd : m % 2 = 1 → (m : ℚ) - 1 / 2 < n / d ∧ (n : ℚ) / d < m + 1 / 2) :
    Decimal.roundDiv n d = m := by
  have scale : (0 : ℚ) < d := Nat.cast_pos.mpr positive
  have whole := Nat.div_add_mod n d
  have rest := Nat.mod_lt n positive
  rw [le_div_iff₀ scale] at lower
  rw [div_le_iff₀ scale] at upper
  rw [lt_div_iff₀ scale, div_lt_iff₀ scale] at odd
  have least : 2 * (m * d) ≤ 2 * n + d := by
    have : (2 * (m * d) : ℚ) ≤ 2 * n + d := by linarith
    exact_mod_cast this
  have most : 2 * n ≤ 2 * (m * d) + d := by
    have : (2 * n : ℚ) ≤ 2 * (m * d) + d := by linarith
    exact_mod_cast this
  have strict : m % 2 = 1 → 2 * (m * d) < 2 * n + d ∧ 2 * n < 2 * (m * d) + d := by
    intro parity
    obtain ⟨above, below⟩ := odd parity
    have first : (2 * (m * d) : ℚ) < 2 * n + d := by linarith
    have second : (2 * n : ℚ) < 2 * (m * d) + d := by linarith
    exact ⟨by exact_mod_cast first, by exact_mod_cast second⟩
  have near : m = n / d ∨ m = n / d + 1 := by
    have order := Nat.mul_comm m d
    have low : n / d < m + 1 := by
      refine Nat.lt_of_mul_lt_mul_left (a := d) ?_
      rw [Nat.mul_add, Nat.mul_one]
      omega
    have high : m < n / d + 2 := by
      refine Nat.lt_of_mul_lt_mul_left (a := d) ?_
      rw [Nat.mul_add]
      omega
    omega
  rw [Decimal.roundDiv]
  rcases near with same | next
  · have product : m * d = d * (n / d) := by rw [same, Nat.mul_comm]
    split
    · omega
    · split <;> omega
  · have product : m * d = d * (n / d) + d := by rw [next]; ring
    split
    · omega
    · split <;> omega

/-- How far below a number, in quarters of its last place, others are rounded to it: half as far
below a power of two, where the next binary places are closer, except among the smallest numbers. -/
def below (m : Nat) (e : Int) : Nat := if m = 2 ^ 52 ∧ -1074 < e then 1 else 2

/-- The exact numbers that are rounded to `m * 2 ^ e`. -/
structure Rounds (v : ℚ) (m : Nat) (e : Int) : Prop where
  lower : ((m : ℚ) - below m e / 4) * 2 ^ e ≤ v
  upper : v ≤ ((m : ℚ) + 1 / 2) * 2 ^ e
  odd : m % 2 = 1 → ((m : ℚ) - below m e / 4) * 2 ^ e < v ∧ v < ((m : ℚ) + 1 / 2) * 2 ^ e

theorem below_le (m : Nat) (e : Int) : (below m e : ℚ) ≤ 2 := by
  rw [below]
  split <;> norm_num

/-- What is rounded to a finite number is neither too small nor too large. -/
theorem Rounds.bounds {v : ℚ} {s : Sign} {m : Nat} {e : Int} {long : 0 < m}
    (canonical : Canonical (.finite s m e long)) (rounds : Rounds v m e) :
    (2 : ℚ) ^ (-1075 : Int) ≤ v ∧ v < 2 ^ (1024 : Int) := by
  obtain ⟨short, least, most, _⟩ := canonical
  have quarter := below_le m e
  have one : (1 : ℚ) ≤ m := by exact_mod_cast long
  have mantissa : (m : ℚ) + 1 ≤ 2 ^ 53 := by exact_mod_cast short
  have power : (0 : ℚ) < 2 ^ e := zpow_pos two_pos e
  constructor
  · calc (2 : ℚ) ^ (-1075 : Int) = 1 / 2 * 2 ^ (-1074 : Int) := by
          rw [show (-1075 : Int) = -1074 - 1 from rfl, zpow_sub_one₀ two_ne_zero]
          ring
      _ ≤ 1 / 2 * 2 ^ e :=
          mul_le_mul_of_nonneg_left (zpow_le_zpow_right₀ one_le_two least) (by norm_num)
      _ ≤ (m - below m e / 4) * 2 ^ e := mul_le_mul_of_nonneg_right (by linarith) power.le
      _ ≤ v := rounds.lower
  · calc v ≤ (m + 1 / 2) * 2 ^ e := rounds.upper
      _ < 2 ^ 53 * 2 ^ e := mul_lt_mul_of_pos_right (by linarith) power
      _ ≤ 2 ^ 53 * 2 ^ (971 : Int) :=
          mul_le_mul_of_nonneg_left (zpow_le_zpow_right₀ one_le_two most) (by norm_num)
      _ = 2 ^ (1024 : Int) := by
          rw [show (1024 : Int) = (53 : Nat) + 971 from rfl, zpow_add₀ two_ne_zero, zpow_natCast]

/-- The exponent at which a fraction has 53 digits, or the least one. -/
def target (n d : Nat) (t : Int) : Int := max ((n / d).log2 + 1 + t - 53) (-1074)

variable {n d k m : Nat} {t e : Int}

theorem lt_of_target (positive : 0 < d) (shift : target n d t = t + k) :
    n < 2 ^ 53 * (d * 2 ^ k) := by
  have digits : (n / d).log2 + 1 ≤ 53 + k := by
    rw [target] at shift
    omega
  have short : n / d < 2 ^ (53 + k) :=
    Nat.lt_of_lt_of_le Nat.lt_log2_self (Nat.pow_le_pow_right (by decide) digits)
  rw [Nat.div_lt_iff_lt_mul positive] at short
  calc n < 2 ^ (53 + k) * d := short
    _ = 2 ^ 53 * (d * 2 ^ k) := by rw [Nat.pow_add]; ring

theorem le_of_target (positive : 0 < d) (shift : target n d t = t + k)
    (above : -1074 < t + k) : 2 ^ 52 * (d * 2 ^ k) ≤ n := by
  have digits : (n / d).log2 = 52 + k := by
    rw [target] at shift
    omega
  have nonzero : n / d ≠ 0 := by
    intro zero
    rw [zero, Nat.log2_zero] at digits
    omega
  have long : 2 ^ (52 + k) ≤ n / d := by
    rw [← digits]
    exact Nat.log2_self_le nonzero
  rw [Nat.le_div_iff_mul_le positive] at long
  calc 2 ^ 52 * (d * 2 ^ k) = 2 ^ (52 + k) * d := by rw [Nat.pow_add]; ring
    _ ≤ n := long

section Exponent

variable {w : ℚ} {r : Int}

/-- Rounded up to a higher exponent: only a power of two is reached from below, where the places are
half as wide. -/
theorem Rounds.of_exponent_lt (rounds : Rounds (w * 2 ^ r) m e) (full : Full m e)
    (short : w < 2 ^ 53) (least : -1074 ≤ r) (less : r < e) :
    r = e - 1 ∧ m = 2 ^ 52 ∧ (2 : ℚ) ^ 53 - 1 / 2 ≤ w := by
  have lower := rounds.lower
  have quarter := below_le m e
  have power : (0 : ℚ) < 2 ^ e := zpow_pos two_pos e
  have long : (2 ^ 52 : ℚ) ≤ m := by exact_mod_cast full.2.2.resolve_right (by omega)
  have half : (2 : ℚ) ^ r * 2 ≤ 2 ^ e := by
    rw [← zpow_add_one₀ two_ne_zero]
    exact zpow_le_zpow_right₀ one_le_two (by omega)
  have top : w * 2 ^ r < 2 ^ 53 * 2 ^ r := mul_lt_mul_of_pos_right short (zpow_pos two_pos r)
  have close : (m : ℚ) - below m e / 4 < 2 ^ 52 := by
    refine lt_of_mul_lt_mul_right ?_ power.le
    linarith
  have power_two : m = 2 ^ 52 := by
    have : (m : ℚ) < 2 ^ 52 + 1 := by linarith
    have : m < 2 ^ 52 + 1 := by exact_mod_cast this
    have : 2 ^ 52 ≤ m := by exact_mod_cast long
    omega
  have one : below m e = 1 := if_pos ⟨power_two, by omega⟩
  rw [one, power_two] at lower
  push_cast at lower
  have last : r = e - 1 := by
    by_contra apart
    have fourth : (2 : ℚ) ^ r * 2 * 2 ≤ 2 ^ e := by
      rw [← zpow_add_one₀ two_ne_zero, ← zpow_add_one₀ two_ne_zero]
      exact zpow_le_zpow_right₀ one_le_two (by omega)
    linarith
  obtain rfl : e = r + 1 := by omega
  rw [zpow_add_one₀ two_ne_zero, mul_comm _ (2 : ℚ), ← mul_assoc] at lower
  have near := le_of_mul_le_mul_right lower (zpow_pos two_pos r)
  exact ⟨last, power_two, by linarith⟩

/-- Nothing of 53 digits is rounded down to a lower exponent. -/
theorem Rounds.exponent_le (rounds : Rounds (w * 2 ^ r) m e) (full : Full m e)
    (long : -1074 < r → 2 ^ 52 ≤ w) : r ≤ e := by
  by_contra more
  have double : (2 : ℚ) ^ e * 2 ≤ 2 ^ r := by
    rw [← zpow_add_one₀ two_ne_zero]
    exact zpow_le_zpow_right₀ one_le_two (by omega)
  have mantissa : (m : ℚ) + 1 ≤ 2 ^ 53 := by exact_mod_cast full.1
  have least := full.2.1
  refine lt_irrefl ((2 : ℚ) ^ 53 * 2 ^ e) ?_
  calc (2 : ℚ) ^ 53 * 2 ^ e = 2 ^ 52 * (2 ^ e * 2) := by ring
    _ ≤ 2 ^ 52 * 2 ^ r := mul_le_mul_of_nonneg_left double (by norm_num)
    _ ≤ w * 2 ^ r := mul_le_mul_of_nonneg_right (long (by omega)) (zpow_pos two_pos r).le
    _ ≤ (m + 1 / 2) * 2 ^ e := rounds.upper
    _ < 2 ^ 53 * 2 ^ e := mul_lt_mul_of_pos_right (by linarith) (zpow_pos two_pos e)

/-- At the exponent itself rounding is to the nearest whole number. -/
theorem Rounds.near (rounds : Rounds (w * 2 ^ e) m e) :
    (m : ℚ) - 1 / 2 ≤ w ∧ w ≤ m + 1 / 2 ∧
      (m % 2 = 1 → (m : ℚ) - 1 / 2 < w ∧ w < m + 1 / 2) := by
  have power : (0 : ℚ) < 2 ^ e := zpow_pos two_pos e
  have quarter := below_le m e
  have lower := le_of_mul_le_mul_right rounds.lower power
  refine ⟨by linarith, le_of_mul_le_mul_right rounds.upper power, fun odd => ?_⟩
  have above := lt_of_mul_lt_mul_right (rounds.odd odd).1 power.le
  exact ⟨by linarith, lt_of_mul_lt_mul_right (rounds.odd odd).2 power.le⟩

end Exponent

/-- The digits that are kept are those of the number, or a power of two is reached from below. -/
theorem roundDiv_of_rounds (positive : 0 < d) (shift : target n d t = t + k) (full : Full m e)
    (rounds : Rounds (n / d * 2 ^ t) m e) :
    t + k = e ∧ Decimal.roundDiv n (d * 2 ^ k) = m ∨
      t + k = e - 1 ∧ m = 2 ^ 52 ∧ Decimal.roundDiv n (d * 2 ^ k) = 2 ^ 53 := by
  have positive' : 0 < d * 2 ^ k := Nat.mul_pos positive (Nat.two_pow_pos k)
  have scale : (0 : ℚ) < (d * 2 ^ k : Nat) := Nat.cast_pos.mpr positive'
  have value : (n / d * 2 ^ t : ℚ) = n / (d * 2 ^ k : Nat) * 2 ^ (t + k) := by
    rw [zpow_add₀ two_ne_zero, zpow_natCast]
    push_cast
    field_simp
  have short : (n : ℚ) / (d * 2 ^ k : Nat) < 2 ^ 53 := by
    rw [div_lt_iff₀ scale]
    exact_mod_cast lt_of_target positive shift
  have long (above : -1074 < t + k) : (2 ^ 52 : ℚ) ≤ n / (d * 2 ^ k : Nat) := by
    rw [le_div_iff₀ scale]
    exact_mod_cast le_of_target positive shift above
  have least : -1074 ≤ t + k := shift ▸ le_max_right _ _
  rw [value] at rounds
  rcases (rounds.exponent_le full long).lt_or_eq with less | same
  · right
    obtain ⟨last, power_two, near⟩ := rounds.of_exponent_lt full short least less
    refine ⟨last, power_two, roundDiv_eq positive' ?_ ?_ fun odd => absurd odd (by decide)⟩
    · exact_mod_cast near
    · push_cast at short ⊢
      linarith
  · left
    rw [same] at rounds
    obtain ⟨lower, upper, odd⟩ := rounds.near
    exact ⟨same, roundDiv_eq positive' lower upper odd⟩

theorem shiftToTargetExponent_quotient (positive : 0 < d) (shift : target n d t = t + k) :
    shiftToTargetExponent Format.binary64 (n / d) t (accuracyOfFraction (n % d) d) =
      (quotient n (d * 2 ^ k), t + k) := by
  have amount : (Format.binary64.targetExponent (totalExponent (n / d) t) - t).toNat = k := by
    change (target n d t - t).toNat = k
    omega
  rw [shiftToTargetExponent, shiftToExponent, amount, ← quotient_shiftRight positive]
  rfl

/-- A finite number is told by its sign and its size. -/
theorem eq_finite_of_units {x : UnpackedFloat} (read : Canonical x) {s : Sign} {long : 0 < m}
    (canonical : Canonical (.finite s m e long)) (same : units x = some (s.apply (magnitude m e))) :
    x = .finite s m e long := by
  have size := magnitude_pos (e := e) long
  have small := magnitude_lt_beyond canonical.1 canonical.2.2.1
  cases x with
  | notANumber => cases same
  | infinity s' =>
      have sizes := congrArg Int.natAbs (Option.some.inj same)
      rw [natAbs_apply, natAbs_apply] at sizes
      omega
  | zero s' =>
      have sizes := congrArg Int.natAbs (Option.some.inj same)
      rw [natAbs_apply, Int.natAbs_zero] at sizes
      omega
  | finite s' m' e' long' =>
      have signed := Option.some.inj same
      have sizes := congrArg Int.natAbs signed
      rw [natAbs_apply, natAbs_apply] at sizes
      cases s <;> cases s' <;> rw [Sign.apply, Sign.apply] at signed
      · exact eq_of_magnitude read canonical sizes
      · omega
      · omega
      · exact eq_of_magnitude read canonical sizes

theorem canonical_stored (x : UnpackedFloat) : Canonical (stored x) := canonical_unpack _

/-- A fraction is packed as the number that it is rounded to. -/
theorem stored_roundWithAccuracy (s : Sign) (positive : 0 < d) (shift : target n d t = t + k)
    {long : 0 < m} (canonical : Canonical (.finite s m e long))
    (rounds : Rounds (n / d * 2 ^ t) m e) :
    stored (UnpackedFloat.roundWithAccuracy Format.binary64 s (n / d) t
      (accuracyOfFraction (n % d) d)) = .finite s m e long := by
  obtain ⟨short, least, most, lead⟩ := canonical
  have lowest : -1074 ≤ t + k := shift ▸ le_max_right _ _
  obtain ⟨nonzero, few, some, same⟩ : 0 < Decimal.roundDiv n (d * 2 ^ k) ∧
      Decimal.roundDiv n (d * 2 ^ k) ≤ 2 ^ 53 ∧
      (2 ^ 52 ≤ Decimal.roundDiv n (d * 2 ^ k) ∨ t + k = -1074) ∧
      magnitude (Decimal.roundDiv n (d * 2 ^ k)) (t + k) = magnitude m e := by
    rcases roundDiv_of_rounds positive shift ⟨short, least, lead⟩ rounds with
      ⟨exponent, mantissa⟩ | ⟨exponent, power, mantissa⟩
    · rw [exponent, mantissa]
      exact ⟨long, short.le, lead, rfl⟩
    · rw [exponent, mantissa, power]
      exact ⟨by decide, le_rfl, .inl (by decide), magnitude_shiftLeft (2 ^ 52) (a := 1) (by omega)⟩
  rw [← roundedMantissa_quotient (Nat.mul_pos positive (Nat.two_pow_pos k))]
    at nonzero few some same
  obtain ⟨em, e', second, positive', full, kept⟩ :=
    shiftToTargetExponent_of_le nonzero few lowest some
  have result : UnpackedFloat.roundWithAccuracy Format.binary64 s (n / d) t
      (accuracyOfFraction (n % d) d) = .finite s em.mantissa e' positive' := by
    simp only [roundWithAccuracy, shiftToTargetExponent_quotient positive shift, second]
    rw [dif_neg (Nat.ne_of_gt positive')]
  rw [result]
  refine eq_finite_of_units (canonical_stored _) ⟨short, least, most, lead⟩ ?_
  rw [units_stored s full, kept, same, Nat.min_eq_left (magnitude_lt_beyond short most).le]

/-- A quotient is shifted up until it has 53 digits, or to the least exponent. -/
theorem le_target_div {m₁ m₂ a : Nat} {t₀ : Int} (first : 0 < m₁) (second : 0 < m₂)
    (shift : t ≤ -1074 ∨ t ≤ m₁.log2 - m₂.log2 + t₀ - 53) (amount : t₀ - t = a) :
    t ≤ target (m₁ <<< a) m₂ t := by
  rw [target]
  rcases shift with low | high
  · exact le_trans low (le_max_right _ _)
  · have lower := Nat.log2_self_le (Nat.ne_of_gt first)
    have upper := Nat.lt_log2_self (n := m₂)
    have long : 2 ^ 52 ≤ m₁ <<< a / m₂ := by
      rw [Nat.le_div_iff_mul_le second, Nat.shiftLeft_eq]
      calc 2 ^ 52 * m₂ ≤ 2 ^ 52 * 2 ^ (m₂.log2 + 1) := Nat.mul_le_mul_left _ upper.le
        _ = 2 ^ (m₂.log2 + 53) := by rw [← Nat.pow_add]; congr 1; omega
        _ ≤ 2 ^ (m₁.log2 + a) := Nat.pow_le_pow_right (by decide) (by omega)
        _ = 2 ^ m₁.log2 * 2 ^ a := Nat.pow_add ..
        _ ≤ m₁ * 2 ^ a := Nat.mul_le_mul_right _ lower
    have digits : 52 ≤ (m₁ <<< a / m₂).log2 :=
      (Nat.le_log2 (Nat.ne_of_gt (Nat.lt_of_lt_of_le (by decide) long))).mpr long
    exact le_trans (by omega) (le_max_left _ _)

/-- A quotient of positive numbers is packed as the number that it is rounded to. -/
theorem stored_div {m₁ m₂ : Nat} {e₁ e₂ : Int} {long₁ : 0 < m₁} {long₂ : 0 < m₂} {long : 0 < m}
    (canonical : Canonical (.finite .positive m e long))
    (rounds : Rounds (m₁ * 2 ^ e₁ / (m₂ * 2 ^ e₂)) m e) :
    stored (UnpackedFloat.div .binary64 (.finite .positive m₁ e₁ long₁)
      (.finite .positive m₂ e₂ long₂)) = .finite .positive m e long := by
  obtain ⟨t, chosen⟩ : ∃ t, min (e₁ - e₂) (Format.binary64.targetExponent
    (totalExponent m₁ e₁ - totalExponent m₂ e₂)) = t := ⟨_, rfl⟩
  have goal : Format.binary64.targetExponent (totalExponent m₁ e₁ - totalExponent m₂ e₂) =
    max (m₁.log2 + 1 + e₁ - (m₂.log2 + 1 + e₂) - 53) (-1074) := rfl
  obtain ⟨a, amount⟩ := Int.eq_ofNat_of_zero_le (show 0 ≤ e₁ - e₂ - t by omega)
  obtain ⟨k, shift⟩ := Int.eq_ofNat_of_zero_le (Int.sub_nonneg_of_le
    (le_target_div (a := a) (t := t) long₁ long₂ (by omega) amount))
  have value : ((m₁ <<< a : Nat) / m₂ * 2 ^ t : ℚ) = m₁ * 2 ^ e₁ / (m₂ * 2 ^ e₂) := by
    obtain rfl : e₁ = a + t + e₂ := by omega
    rw [Nat.shiftLeft_eq, zpow_add₀ two_ne_zero, zpow_add₀ two_ne_zero, zpow_natCast]
    push_cast
    field_simp
  have result := stored_roundWithAccuracy .positive long₂ (k := k) (by omega) canonical
    (value ▸ rounds)
  rw [← result]
  simp only [UnpackedFloat.div, divCore, chosen, amount]
  rfl

/-- A product of positive numbers with 53 digits is packed as the number that it is rounded to. -/
theorem stored_mul {m₁ m₂ : Nat} {e₁ e₂ : Int} {long₁ : 0 < m₁} {long₂ : 0 < m₂} {long : 0 < m}
    (full : 2 ^ 52 ≤ m₁) (canonical : Canonical (.finite .positive m e long))
    (rounds : Rounds (m₁ * 2 ^ e₁ * (m₂ * 2 ^ e₂)) m e) :
    stored (UnpackedFloat.mul .binary64 (.finite .positive m₁ e₁ long₁)
      (.finite .positive m₂ e₂ long₂)) = .finite .positive m e long := by
  have digits : 52 ≤ (m₁ * m₂).log2 := (Nat.le_log2 (Nat.mul_pos long₁ long₂).ne').mpr
    (full.trans (Nat.le_mul_of_pos_right m₁ long₂))
  have low : e₁ + e₂ ≤ target (m₁ * m₂) 1 (e₁ + e₂) := by
    rw [target, Nat.div_one]
    exact le_trans (by omega) (le_max_left _ _)
  obtain ⟨k, shift⟩ := Int.eq_ofNat_of_zero_le (Int.sub_nonneg_of_le low)
  have value : ((m₁ * m₂ : Nat) / (1 : Nat) * 2 ^ (e₁ + e₂) : ℚ) =
      m₁ * 2 ^ e₁ * (m₂ * 2 ^ e₂) := by
    rw [zpow_add₀ two_ne_zero]
    push_cast
    ring
  have result := stored_roundWithAccuracy .positive Nat.one_pos (k := k) (by omega) canonical
    (value ▸ rounds)
  rw [Nat.div_one, Nat.mod_one] at result
  exact result

end Binary64
end Absorption
