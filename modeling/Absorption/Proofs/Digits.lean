import Mathlib.Data.Nat.Log
import Mathlib.Tactic.Ring
import Absorption.Text.Digits

set_option autoImplicit false

/-!
Decimal digits. They are as many as the logarithm tells (`length_digits`), and zeros in front do not
count while zeros behind multiply by ten (`value_zeros_append`, `valueFrom_zeros`).
-/

namespace Absorption.Text

theorem isDigit_digitChar {d : Nat} (digit : d < 10) : (digitChar d).isDigit = true := by
  have each : ∀ d : Fin 10, (digitChar d.val).isDigit = true := by decide
  exact each ⟨d, digit⟩

theorem digitsOnto_of_lt {n : Nat} (small : n < 10) (rest : List Char) :
    digitsOnto n rest = digitChar n :: rest := by
  rw [digitsOnto, if_pos small]

theorem digitsOnto_of_le {n : Nat} (large : 10 ≤ n) (rest : List Char) :
    digitsOnto n rest = digitsOnto (n / 10) (digitChar (n % 10) :: rest) := by
  rw [digitsOnto, if_neg (Nat.not_lt.mpr large)]

theorem digitsOnto_eq (n : Nat) (rest : List Char) : digitsOnto n rest = digits n ++ rest := by
  rw [digits]
  induction n using Nat.strongRecOn generalizing rest with
  | ind n ih =>
      rcases Nat.lt_or_ge n 10 with small | large
      · rw [digitsOnto_of_lt small, digitsOnto_of_lt small]
        rfl
      · rw [digitsOnto_of_le large, digitsOnto_of_le large, ih (n / 10) (by omega),
          ih (n / 10) (by omega) [digitChar (n % 10)], List.append_assoc]
        rfl

theorem digits_of_lt {n : Nat} (small : n < 10) : digits n = [digitChar n] :=
  digitsOnto_of_lt small []

/-- The last digit is the rest of a division by ten. -/
theorem digits_of_le {n : Nat} (large : 10 ≤ n) :
    digits n = digits (n / 10) ++ [digitChar (n % 10)] := by
  rw [digits, digitsOnto_of_le large, digitsOnto_eq]

theorem digits_ne_nil (n : Nat) : digits n ≠ [] := by
  rcases Nat.lt_or_ge n 10 with small | large
  · rw [digits_of_lt small]
    exact List.cons_ne_nil _ _
  · rw [digits_of_le large]
    exact List.append_ne_nil_of_right_ne_nil _ (List.cons_ne_nil _ _)

theorem isDigit_of_mem_digits {n : Nat} {c : Char} (member : c ∈ digits n) : c.isDigit = true := by
  induction n using Nat.strongRecOn with
  | ind n ih =>
      rcases Nat.lt_or_ge n 10 with small | large
      · rw [digits_of_lt small, List.mem_singleton] at member
        rw [member]
        exact isDigit_digitChar small
      · rw [digits_of_le large, List.mem_append, List.mem_singleton] at member
        rcases member with before | rfl
        · exact ih (n / 10) (by omega) before
        · exact isDigit_digitChar (Nat.mod_lt n (by decide))

/-- Only zero is written with a zero in front. -/
theorem digits_of_head {n : Nat} (zero : (digits n).head? = some '0') : n = 0 := by
  induction n using Nat.strongRecOn with
  | ind n ih =>
      rcases Nat.lt_or_ge n 10 with small | large
      · rw [digits_of_lt small, List.head?_cons, Option.some.injEq] at zero
        rw [← digitValue_digitChar small, zero]
        rfl
      · rw [digits_of_le large, List.head?_append,
          Option.or_of_isSome (List.isSome_head?.mpr (digits_ne_nil _))] at zero
        have none := ih (n / 10) (by omega) zero
        omega

theorem length_digits (n : Nat) : (digits n).length = Nat.log 10 n + 1 := by
  induction n using Nat.strongRecOn with
  | ind n ih =>
      rcases Nat.lt_or_ge n 10 with small | large
      · rw [digits_of_lt small, Nat.log_of_lt small]
        rfl
      · rw [digits_of_le large, List.length_append, ih (n / 10) (by omega),
          Nat.log_of_one_lt_of_le (by decide) large]
        rfl

theorem value_append (ds places : List Char) : value (ds ++ places) = valueFrom (value ds) places :=
  List.foldl_append

theorem valueFrom_zeros (acc k : Nat) :
    valueFrom acc (List.replicate k '0') = acc * 10 ^ k := by
  induction k generalizing acc with
  | zero => simp only [List.replicate_zero, valueFrom, List.foldl_nil, Nat.pow_zero, Nat.mul_one]
  | succ k ih =>
      have zero : digitValue '0' = 0 := by decide
      rw [List.replicate_succ, Nat.pow_succ, valueFrom, List.foldl_cons, zero, Nat.add_zero]
      exact (ih (10 * acc)).trans (by ring)

theorem value_zeros_append (k : Nat) (ds : List Char) :
    value (List.replicate k '0' ++ ds) = value ds := by
  rw [value_append, value, valueFrom_zeros, Nat.zero_mul, value]

end Absorption.Text
