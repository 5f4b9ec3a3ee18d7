set_option autoImplicit false

/-!
Natural numbers as decimal and hexadecimal digits. Reading the written digits gives the number
back (`value_digits`).
-/

namespace Absorption.Text

/-- The character of a decimal digit. -/
def digitChar (d : Nat) : Char := Char.ofNat (48 + d)

/-- The number that a decimal digit stands for. -/
def digitValue (c : Char) : Nat := c.toNat - 48

/-- The decimal digits of `n` in front of `rest`. -/
def digitsOnto (n : Nat) (rest : List Char) : List Char :=
  if n < 10 then digitChar n :: rest
  else digitsOnto (n / 10) (digitChar (n % 10) :: rest)
termination_by n

/-- The decimal digits of a number, without leading zeros. -/
def digits (n : Nat) : List Char := digitsOnto n []

/-- The number that a string of decimal digits stands for, continuing from `acc`. -/
def valueFrom (acc : Nat) (cs : List Char) : Nat :=
  cs.foldl (fun a c => 10 * a + digitValue c) acc

/-- The number that a string of decimal digits stands for. -/
def value (cs : List Char) : Nat := valueFrom 0 cs

/-- An integer: a minus sign if it is negative, then its digits. -/
def integer (n : Int) : List Char :=
  if n < 0 then '-' :: digits n.natAbs else digits n.natAbs

/-- An integer as a text. -/
def intText (n : Int) : String := String.ofList (integer n)

/-- A lower-case hexadecimal digit. -/
def hexChar (d : Nat) : Char :=
  if d < 10 then digitChar d else Char.ofNat (87 + d)

/-- The last `width` hexadecimal digits of a number. -/
def hex : (width : Nat) → Nat → List Char
  | 0, _ => []
  | width + 1, n => hex width (n / 16) ++ [hexChar (n % 16)]

/-- The number that a hexadecimal digit of either case stands for. -/
def hexValue? (c : Char) : Option Nat :=
  if '0' ≤ c ∧ c ≤ '9' then some (c.toNat - 48)
  else if 'a' ≤ c ∧ c ≤ 'f' then some (c.toNat - 87)
  else if 'A' ≤ c ∧ c ≤ 'F' then some (c.toNat - 55)
  else none

/-- The digits of a number that is written with single underscores between digits, if it is. -/
def ungrouped? : List Char → Option (List Char)
  | [] => none
  | [c] => if c.isDigit then some [c] else none
  | c :: '_' :: rest => if c.isDigit then (ungrouped? rest).map (c :: ·) else none
  | c :: rest => if c.isDigit then (ungrouped? rest).map (c :: ·) else none

theorem digitValue_digitChar {d : Nat} (h : d < 10) : digitValue (digitChar d) = d := by
  have h' : ∀ d : Fin 10, digitValue (digitChar d.val) = d.val := by decide
  exact h' ⟨d, h⟩

theorem valueFrom_digitsOnto (n : Nat) (rest : List Char) :
    value (digitsOnto n rest) = valueFrom n rest := by
  induction n using Nat.strongRecOn generalizing rest with
  | ind n ih =>
    rw [digitsOnto]
    split
    · next h => simp [value, valueFrom, digitValue_digitChar h]
    · next h =>
      rw [ih (n / 10) (by omega)]
      have hm : n % 10 < 10 := Nat.mod_lt _ (by omega)
      simp only [valueFrom, List.foldl_cons, digitValue_digitChar hm]
      congr 1
      omega

/-- The digits of a number are read back as the number. -/
theorem value_digits (n : Nat) : value (digits n) = n := valueFrom_digitsOnto n []

end Absorption.Text
