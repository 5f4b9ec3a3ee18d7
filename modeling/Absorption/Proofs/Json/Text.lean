import Absorption.Json.Reader
import Absorption.Json.Writer

set_option autoImplicit false

/-!
Texts between quotation marks. Every character is written as one or two units of sixteen bits or as
itself, and from the units the characters are read back (`readText_literal`).
-/

namespace Absorption.Json

theorem hexValue?_hexChar {d : Nat} (digit : d < 16) :
    Text.hexValue? (Text.hexChar d) = some d := by
  have each : ∀ d : Fin 16, Text.hexValue? (Text.hexChar d.val) = some d.val := by decide
  exact each ⟨d, digit⟩

/-- The characters of an escape: the four hexadecimal digits from the highest down. -/
theorem escapedUnit_eq (n : Nat) : escapedUnit n =
    ['\\', 'u', Text.hexChar (n / 16 / 16 / 16 % 16), Text.hexChar (n / 16 / 16 % 16),
      Text.hexChar (n / 16 % 16), Text.hexChar (n % 16)] := rfl

theorem unit?_hexChar {n : Nat} (small : n < 0x10000) :
    unit? (Text.hexChar (n / 16 / 16 / 16 % 16)) (Text.hexChar (n / 16 / 16 % 16))
      (Text.hexChar (n / 16 % 16)) (Text.hexChar (n % 16)) = some n := by
  have digit (k : Nat) : k % 16 < 16 := Nat.mod_lt k (by decide)
  simp only [unit?, hexValue?_hexChar (digit _), Option.bind_eq_bind, Option.bind_some,
    Option.pure_def, Option.some.injEq]
  omega

/-- An escape of sixteen bits is read as its unit. -/
theorem scanText_escapedUnit {n : Nat} {cs units rest} (small : n < 0x10000)
    (scanned : scanText cs = some (units, rest)) :
    scanText (escapedUnit n ++ cs) = some (n :: units, rest) := by
  rw [escapedUnit_eq]
  simp only [List.cons_append, List.nil_append, scanText, unit?_hexChar small, scanned]

/-- A character is no surrogate and within the seventeen planes. -/
theorem toNat_bounds (c : Char) : c.toNat < 0xd800 ∨ 0xdfff < c.toNat ∧ c.toNat < 0x110000 :=
  c.valid

/-- The units of a character: itself, or beyond the first plane its two surrogates. -/
def unitsOf (c : Char) : List Nat :=
  if c.toNat < 0x10000 then [c.toNat]
  else [0xd800 + (c.toNat - 0x10000) / 0x400, 0xdc00 + (c.toNat - 0x10000) % 0x400]

theorem unitsOf_of_lt {c : Char} (small : c.toNat < 0x10000) : unitsOf c = [c.toNat] := if_pos small

/-- A letter behind a backslash is read as the character that it stands for. -/
theorem scanText_escape {e c : Char} {cs units rest} (letter : e ≠ 'u')
    (escape : escape? e = some c) (scanned : scanText cs = some (units, rest)) :
    scanText ('\\' :: e :: cs) = some (c.toNat :: units, rest) := by
  rw [scanText]
  · simp only [escape, scanned]
  · intro a b c d rest same
    exact absurd same letter

theorem scanText_plain {c : Char} {cs units rest} (quote : c ≠ '"') (backslash : c ≠ '\\')
    (printable : 32 ≤ c.toNat) (scanned : scanText cs = some (units, rest)) :
    scanText (c :: cs) = some (c.toNat :: units, rest) := by
  rw [scanText]
  · rw [if_neg (by omega), scanned]
  · exact quote
  · exact backslash

/-- A written character is read as its units. -/
theorem scanText_escapedChar (c : Char) {cs units rest}
    (scanned : scanText cs = some (units, rest)) :
    scanText (escapedChar c ++ cs) = some (unitsOf c ++ units, rest) := by
  have bounds := toNat_bounds c
  rw [escapedChar]
  split
  · next quote => subst quote; exact scanText_escape (by decide) rfl scanned
  split
  · next backslash => subst backslash; exact scanText_escape (by decide) rfl scanned
  split
  · next newline => subst newline; exact scanText_escape (by decide) rfl scanned
  split
  · next carriage => subst carriage; exact scanText_escape (by decide) rfl scanned
  split
  · next tab => subst tab; exact scanText_escape (by decide) rfl scanned
  split
  · next feed =>
      rw [unitsOf_of_lt (by omega), feed]
      exact scanText_escape (c := Char.ofNat 12) (by decide) rfl scanned
  split
  · next backspace =>
      rw [unitsOf_of_lt (by omega), backspace]
      exact scanText_escape (c := Char.ofNat 8) (by decide) rfl scanned
  split
  · next quote backslash _ _ _ _ _ printable =>
      rw [unitsOf_of_lt (by omega)]
      exact scanText_plain quote backslash printable.1 scanned
  split
  · next small =>
      rw [unitsOf_of_lt small]
      exact scanText_escapedUnit small scanned
  · next large =>
      rw [unitsOf, if_neg large, List.append_assoc]
      exact scanText_escapedUnit (by omega) (scanText_escapedUnit (by omega) scanned)

/-- A written text is read up to its closing quotation mark. -/
theorem scanText_literal (cs rest : List Char) :
    scanText (cs.flatMap escapedChar ++ '"' :: rest) = some (cs.flatMap unitsOf, rest) := by
  induction cs with
  | nil => simp only [List.flatMap_nil, List.nil_append, scanText]
  | cons c cs ih =>
      rw [List.flatMap_cons, List.flatMap_cons, List.append_assoc]
      exact scanText_escapedChar c ih

theorem charOfUnit_toNat (c : Char) : charOfUnit c.toNat = c := by
  rw [charOfUnit, if_pos (show c.toNat.isValidChar from c.valid), Char.ofNat_toNat]

/-- The units of a character in front of others make the character. -/
theorem joinUnits_unitsOf (c : Char) (units : List Nat) :
    joinUnits (unitsOf c ++ units) = c :: joinUnits units := by
  have bounds := toNat_bounds c
  rw [unitsOf]
  split
  · cases units with
    | nil => simp only [List.append_nil, joinUnits, charOfUnit_toNat]
    | cons n units =>
        rw [List.singleton_append, joinUnits, if_neg (by omega), charOfUnit_toNat]
  · next large =>
      have whole : 0x10000 + (0xd800 + (c.toNat - 0x10000) / 0x400 - 0xd800) * 0x400 +
          (0xdc00 + (c.toNat - 0x10000) % 0x400 - 0xdc00) = c.toNat := by omega
      rw [List.cons_append, List.singleton_append, joinUnits, if_pos (by omega), whole,
        Char.ofNat_toNat]

theorem joinUnits_flatMap (cs : List Char) : joinUnits (cs.flatMap unitsOf) = cs := by
  induction cs with
  | nil => rfl
  | cons c cs ih => rw [List.flatMap_cons, joinUnits_unitsOf, ih]

/-- A written text is read back. -/
theorem readText_literal (s : String) (rest : List Char) :
    readText (s.toList.flatMap escapedChar ++ '"' :: rest) = .ok (s, rest) := by
  simp only [readText, scanText_literal, joinUnits_flatMap, String.ofList_toList]

end Absorption.Json
