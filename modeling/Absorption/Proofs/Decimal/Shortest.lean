import Absorption.Decimal.Shortest
import Absorption.Proofs.Decimal.Nearest

set_option autoImplicit false

/-!
The fewest digits. The search ends at digits that are rounded to the number, since seventeen of them
always are (`rounds_shortest`).
-/

namespace Absorption

namespace Decimal

open Binary64

namespace Fraction

/-- The number that a fraction stands for. -/
def value (x : Fraction) : ℚ := x.numerator / x.denominator

theorem denominator_scaled_pos (n : Nat) {b : Nat} (positive : 0 < b) (k : Int) :
    0 < (scaled n b k).denominator := by
  rw [scaled]
  split
  · exact Nat.one_pos
  · exact Nat.pow_pos positive

theorem value_scaled (n b : Nat) (k : Int) :
    (scaled n b k).value = n * (b : ℚ) ^ k := by
  rw [scaled, value]
  split
  · next whole =>
      obtain ⟨j, rfl⟩ := Int.eq_ofNat_of_zero_le whole
      simp
  · next fractional =>
      obtain ⟨j, flip⟩ := Int.eq_ofNat_of_zero_le (show 0 ≤ -k by omega)
      obtain rfl : k = -(j : Int) := by omega
      simp [div_eq_mul_inv]

/-- Fractions are compared crosswise. -/
theorem mul_lt_iff {x u : Fraction} (positive : 0 < x.denominator) (positive' : 0 < u.denominator)
    (a : Nat) : a * u.numerator * x.denominator < x.numerator * u.denominator ↔
      (a : ℚ) * u.value < x.value := by
  rw [value, value, ← mul_div_assoc, div_lt_div_iff₀ (Nat.cast_pos.mpr positive')
    (Nat.cast_pos.mpr positive)]
  norm_cast

theorem lt_mul_iff {x u : Fraction} (positive : 0 < x.denominator) (positive' : 0 < u.denominator)
    (a : Nat) : x.numerator * u.denominator < a * u.numerator * x.denominator ↔
      x.value < (a : ℚ) * u.value := by
  rw [value, value, ← mul_div_assoc, div_lt_div_iff₀ (Nat.cast_pos.mpr positive)
    (Nat.cast_pos.mpr positive')]
  norm_cast

end Fraction

theorem value_eq_scaled (d : Decimal) :
    d.value = (Fraction.scaled d.significand 10 d.scale).value := by
  rw [Fraction.value_scaled, value]
  rfl

variable {m : Nat} {e : Int}

/-- A quarter of the last place. -/
theorem value_unit (m : Nat) (e : Int) : (Basin.of m e).unit.value = 2 ^ e / 4 := by
  change (Fraction.scaled 1 2 (e - 2)).value = _
  rw [Fraction.value_scaled, Nat.cast_one, Nat.cast_ofNat, zpow_sub₀ two_ne_zero]
  norm_num

/-- What is in the basin is rounded to the number. -/
theorem rounds_of_holds {d : Decimal} (positive : 0 < m) (holds : (Basin.of m e).holds d = true) :
    Rounds d.value m e := by
  have dec := Fraction.denominator_scaled_pos d.significand (b := 10) (by decide) d.scale
  have bin : 0 < (Basin.of m e).unit.denominator :=
    Fraction.denominator_scaled_pos 1 (b := 2) (by decide) (e - 2)
  have few : below m e ≤ 4 * m := by
    have : below m e ≤ 2 := by exact_mod_cast below_le m e
    omega
  have lowest : ((4 * m - below m e : Nat) : ℚ) * (Basin.of m e).unit.value =
      (m - below m e / 4) * 2 ^ e := by
    rw [value_unit, Nat.cast_sub few]
    push_cast
    ring
  have highest : ((4 * m + 2 : Nat) : ℚ) * (Basin.of m e).unit.value = (m + 1 / 2) * 2 ^ e := by
    rw [value_unit]
    push_cast
    ring
  change (if m % 2 = 0 then
      decide ((4 * m - below m e) * _ * _ ≤ _ ∧ _ ≤ (4 * m + 2) * _ * _)
    else decide ((4 * m - below m e) * _ * _ < _ ∧ _ < (4 * m + 2) * _ * _)) = true at holds
  rw [value_eq_scaled]
  split at holds
  · next even =>
      obtain ⟨lower, upper⟩ := of_decide_eq_true holds
      refine ⟨?_, ?_, fun odd => by omega⟩
      · rw [← lowest]
        exact not_lt.mp (mt (Fraction.lt_mul_iff dec bin _).mpr (not_lt.mpr lower))
      · rw [← highest]
        exact not_lt.mp (mt (Fraction.mul_lt_iff dec bin _).mpr (not_lt.mpr upper))
  · obtain ⟨lower, upper⟩ := of_decide_eq_true holds
    rw [Fraction.mul_lt_iff dec bin, lowest] at lower
    rw [Fraction.lt_mul_iff dec bin, highest] at upper
    exact ⟨lower.le, upper.le, fun _ => ⟨lower, upper⟩⟩

namespace Fraction

variable {x : Fraction}

theorem reaches_iff (positive : 0 < x.denominator) (k : Int) :
    (if 0 ≤ k then x.denominator * 10 ^ k.toNat ≤ x.numerator
      else x.denominator ≤ x.numerator * 10 ^ (-k).toNat) ↔ (10 : ℚ) ^ k ≤ x.value := by
  have scale : (0 : ℚ) < x.denominator := Nat.cast_pos.mpr positive
  rw [value, le_div_iff₀ scale]
  split
  · next whole =>
      obtain ⟨j, rfl⟩ := Int.eq_ofNat_of_zero_le whole
      rw [Int.toNat_natCast, zpow_natCast, mul_comm]
      norm_cast
  · next fractional =>
      obtain ⟨j, flip⟩ := Int.eq_ofNat_of_zero_le (show 0 ≤ -k by omega)
      obtain rfl : k = -(j : Int) := by omega
      rw [Int.neg_neg, Int.toNat_natCast, zpow_neg, zpow_natCast, inv_mul_le_iff₀ (by positivity),
        mul_comm]
      norm_cast

/-- The order of a fraction is that of its first digit. -/
theorem order_bounds (positive : 0 < x.numerator) (positive' : 0 < x.denominator) :
    (10 : ℚ) ^ x.order ≤ x.value ∧ x.value < 10 ^ (x.order + 1) := by
  have ten : (10 : ℚ) ≠ 0 := by norm_num
  have scale : (0 : ℚ) < x.denominator := Nat.cast_pos.mpr positive'
  have top := value_bounds (d := ⟨x.numerator, 0⟩) positive.ne'
  have bottom := value_bounds (d := ⟨x.denominator, 0⟩) positive'.ne'
  simp only [Decimal.value, zpow_zero, mul_one, zero_add] at top bottom
  obtain ⟨k, difference⟩ : ∃ k : Int, ((Text.digits x.numerator).length : Int) -
    (Text.digits x.denominator).length = k := ⟨_, rfl⟩
  have lower : (10 : ℚ) ^ (k - 1) ≤ x.value := by
    rw [value, le_div_iff₀ scale]
    calc (10 : ℚ) ^ (k - 1) * x.denominator
        ≤ 10 ^ (k - 1) * 10 ^ ((Text.digits x.denominator).length : Int) :=
          mul_le_mul_of_nonneg_left bottom.2.le (by positivity)
      _ = 10 ^ (((Text.digits x.numerator).length : Int) - 1) := by
          rw [← zpow_add₀ ten]; congr 1; omega
      _ ≤ x.numerator := top.1
  have upper : x.value < 10 ^ (k + 1) := by
    rw [value, div_lt_iff₀ scale]
    calc (x.numerator : ℚ) < 10 ^ ((Text.digits x.numerator).length : Int) := top.2
      _ = 10 ^ (k + 1) * 10 ^ (((Text.digits x.denominator).length : Int) - 1) := by
          rw [← zpow_add₀ ten]; congr 1; omega
      _ ≤ 10 ^ (k + 1) * x.denominator := mul_le_mul_of_nonneg_left bottom.1 (by positivity)
  have reaches := reaches_iff positive' k
  have order : x.order = if (10 : ℚ) ^ k ≤ x.value then k else k - 1 := by
    rw [Fraction.order]
    simp only [difference, Nat.pow_eq, ← reaches]
    by_cases whole : 0 ≤ k
    · simp only [if_pos whole, decide_eq_true_eq]
    · simp only [if_neg whole, decide_eq_true_eq]
  rw [order]
  split
  · next reached => exact ⟨reached, upper⟩
  · next missed =>
      rw [Int.sub_add_cancel]
      exact ⟨lower, not_le.mp missed⟩

end Fraction

/-- A fraction rounded to a decimal grid is at most half a step away. -/
theorem roundAt_near {x : Fraction} (positive : 0 < x.denominator) (k : Int) :
    x.value - 10 ^ k / 2 ≤ (x.roundAt k : ℚ) * 10 ^ k ∧
      (x.roundAt k : ℚ) * 10 ^ k ≤ x.value + 10 ^ k / 2 := by
  obtain ⟨n, d, scale, rounded, value⟩ : ∃ n d : Nat, 0 < d ∧ x.roundAt k = roundDiv n d ∧
      x.value = (n : ℚ) / d * 10 ^ k := by
    rw [Fraction.roundAt]
    split
    · next whole =>
        obtain ⟨j, rfl⟩ := Int.eq_ofNat_of_zero_le whole
        refine ⟨_, _, Nat.mul_pos positive (Nat.pow_pos (by decide)), rfl, ?_⟩
        rw [Fraction.value, Int.toNat_natCast, zpow_natCast]
        push_cast
        field_simp
    · next fractional =>
        obtain ⟨j, flip⟩ := Int.eq_ofNat_of_zero_le (show 0 ≤ -k by omega)
        obtain rfl : k = -(j : Int) := by omega
        refine ⟨_, _, positive, rfl, ?_⟩
        rw [Fraction.value, Int.neg_neg, Int.toNat_natCast, zpow_neg, zpow_natCast, Nat.pow_eq]
        push_cast
        field_simp
  have near := roundDiv_near n d scale
  have scale' : (0 : ℚ) < d := Nat.cast_pos.mpr scale
  have power : (0 : ℚ) < 10 ^ k := zpow_pos (by norm_num) k
  have lower : (n : ℚ) / d - 1 / 2 ≤ roundDiv n d := by
    rw [sub_le_iff_le_add, div_le_iff₀ scale']
    have : (2 * n : ℚ) ≤ (2 * roundDiv n d + 1) * d := by exact_mod_cast near.1
    linarith
  have upper : (roundDiv n d : ℚ) ≤ n / d + 1 / 2 := by
    rw [← sub_le_iff_le_add, le_div_iff₀ scale']
    have : (2 * (roundDiv n d * d) : ℚ) ≤ 2 * n + d := by exact_mod_cast near.2
    linarith
  rw [rounded, value]
  constructor
  · have := mul_le_mul_of_nonneg_right lower power.le
    linarith
  · have := mul_le_mul_of_nonneg_right upper power.le
    linarith

/-- Seventeen digits are at most half a step away, also if they are carried to the next power of
ten. -/
theorem significant_near {x : Fraction} (positive : 0 < x.numerator) (positive' : 0 < x.denominator)
    (count : Nat) (some : 0 < count) :
    x.value - 10 ^ (x.order - (count - 1 : Nat)) / 2 ≤ (x.significant count).value ∧
      (x.significant count).value ≤ x.value + 10 ^ (x.order - (count - 1 : Nat)) / 2 := by
  have near := roundAt_near positive' (x.order - (count - 1 : Nat))
  have same : (x.significant count).value =
      (x.roundAt (x.order - (count - 1 : Nat)) : ℚ) * 10 ^ (x.order - (count - 1 : Nat)) := by
    rw [Fraction.significant]
    simp only [Nat.pow_eq]
    split
    · rfl
    · next carried =>
        -- The digits round up to a power of ten, so the last one is zero.
        have power : (0 : ℚ) < 10 ^ (x.order - (count - 1 : Nat)) := zpow_pos (by norm_num) _
        have top := (Fraction.order_bounds positive positive').2
        generalize x.roundAt (x.order - (count - 1 : Nat)) = s at *
        have order : x.order + 1 = x.order - (count - 1 : Nat) + (count : Int) := by omega
        rw [order, zpow_add₀ (by norm_num), zpow_natCast] at top
        generalize x.order - (count - 1 : Nat) = k at *
        have few : (s : ℚ) < 10 ^ count + 1 := by
          refine lt_of_mul_lt_mul_right ?_ power.le
          linarith [near.2]
        have exact : s = 10 ^ count := by
          have : s < 10 ^ count + 1 := by exact_mod_cast few
          omega
        obtain ⟨c, rfl⟩ := Nat.exists_eq_add_one_of_ne_zero some.ne'
        rw [exact, value, Nat.pow_succ, Nat.mul_div_cancel _ (by decide),
          zpow_add_one₀ (by norm_num)]
        push_cast
        ring
  rwa [same]

theorem value_center (m : Nat) (e : Int) : (Basin.of m e).center.value = m * 2 ^ e := by
  have unit := value_unit m e
  rw [Fraction.value] at unit
  rw [Fraction.value, Basin.center]
  change ((4 * m * (Basin.of m e).unit.numerator : Nat) : ℚ) / (Basin.of m e).unit.denominator = _
  push_cast
  rw [mul_div_assoc, unit]
  ring

/-- Seventeen digits are enough. -/
theorem rounds_significant (positive : 0 < m) (short : m < 2 ^ 53) :
    Rounds ((Basin.of m e).center.significant 17).value m e := by
  have unit : 0 < (Basin.of m e).unit.numerator := by
    refine Nat.pos_of_ne_zero fun zero => ?_
    have place := value_unit m e
    rw [Fraction.value, zero, Nat.cast_zero, zero_div] at place
    exact absurd place (by positivity)
  have denominator : 0 < (Basin.of m e).center.denominator :=
    Fraction.denominator_scaled_pos 1 (b := 2) (by decide) (e - 2)
  have numerator : 0 < (Basin.of m e).center.numerator :=
    Nat.mul_pos (Nat.mul_pos (by decide) positive) unit
  have first := (Fraction.order_bounds numerator denominator).1
  obtain ⟨lower, upper⟩ := significant_near numerator denominator 17 (by decide)
  rw [value_center] at first lower upper
  have step : (10 : ℚ) ^ ((Basin.of m e).center.order - (17 - 1 : Nat)) * 10 ^ 16 ≤ m * 2 ^ e := by
    rw [zpow_sub₀ (by norm_num), zpow_natCast, div_mul_cancel₀ _ (by norm_num)]
    exact first
  have power : (0 : ℚ) < 2 ^ e := zpow_pos two_pos e
  generalize (10 : ℚ) ^ ((Basin.of m e).center.order - (17 - 1 : Nat)) = s at *
  have few : 2 * (m : ℚ) < below m e * 10 ^ 16 := by
    rw [below]
    split
    · next power_two =>
        rw [power_two.1]
        norm_num
    · have : (m : ℚ) < 2 ^ 53 := by exact_mod_cast short
      push_cast
      linarith
  have half : 2 * s < below m e * 2 ^ e := by
    have := mul_lt_mul_of_pos_right few power
    linarith
  have quarter := mul_le_mul_of_nonneg_right (below_le m e) power.le
  have above :
      ((m : ℚ) - below m e / 4) * 2 ^ e < ((Basin.of m e).center.significant 17).value := by
    linarith
  have under : ((Basin.of m e).center.significant 17).value < ((m : ℚ) + 1 / 2) * 2 ^ e := by
    linarith
  exact ⟨above.le, under.le, fun _ => ⟨above, under⟩⟩

theorem holds_of_onGrid {b : Basin} {order : Int} {count : Nat} {d : Decimal}
    (found : b.onGrid order count = some d) : b.holds d = true := by
  have chosen {near far : Decimal} (found : (if b.holds near then some near
      else if b.holds far then some far else none) = some d) : b.holds d = true := by
    split at found
    · next holds =>
        cases found
        exact holds
    · split at found
      · next holds =>
          cases found
          exact holds
      · cases found
  exact chosen found

/-- The search ends at digits in the basin, at the latest when there are seventeen. -/
theorem rounds_search (positive : 0 < m) (short : m < 2 ^ 53) (order : Int) {left count : Nat}
    (most : count + left = 17) : Rounds ((Basin.of m e).search order left count).value m e := by
  induction left generalizing count with
  | zero =>
      obtain rfl : count = 17 := most
      exact rounds_significant positive short
  | succ left ih =>
      rw [Basin.search]
      split
      · next found => exact rounds_of_holds positive (holds_of_onGrid found)
      · exact ih (by omega)

theorem value_trimFrom (fuel : Nat) (d : Decimal) : (trimFrom fuel d).value = d.value := by
  induction fuel generalizing d with
  | zero => rfl
  | succ fuel ih =>
      rw [trimFrom]
      split
      · next zero =>
          have whole : d.significand = d.significand / 10 * 10 := by omega
          rw [ih, value, value, zpow_add_one₀ (by norm_num)]
          nth_rewrite 2 [whole]
          push_cast
          ring
      · rfl

/-- The fewest digits of a number are rounded to it. -/
theorem rounds_shortest (positive : 0 < m) (short : m < 2 ^ 53) :
    Rounds (shortest m e).value m e := by
  rw [shortest, trim, value_trimFrom]
  exact rounds_search positive short _ rfl

end Decimal

end Absorption
