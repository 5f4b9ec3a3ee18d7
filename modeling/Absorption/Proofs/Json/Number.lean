import Absorption.Json.Reader
import Absorption.Json.Writer
import Absorption.Proofs.Decimal.ReadBack

set_option autoImplicit false

/-!
Numbers in text. An integer is written as its digits and read back (`readUnsigned_digits`). A
binary64 number is written as the fewest digits that tell it apart, and what is read is the number
nearest to these digits (`Parts.readUnsigned_text`), which is the number itself (`floatLiteral_eq`).
-/

namespace Absorption

namespace Json

/-- A whole part as it may be written: digits, and a zero in front only if it stands alone. -/
structure Whole (ds : List Char) : Prop where
  nonempty : ds ≠ []
  digits : ∀ c ∈ ds, c.isDigit = true
  lead : ds.head? = some '0' → ds = ['0']

/-- What follows a number that ends here. -/
def Ends (rest : List Char) : Prop :=
  ∀ c ∈ rest.head?, c.isDigit = false ∧ c ≠ '.' ∧ c ≠ 'e' ∧ c ≠ 'E'

theorem takeDigits_append {ds rest : List Char} (digits : ∀ c ∈ ds, c.isDigit = true)
    (stop : ∀ c ∈ rest.head?, c.isDigit = false) : takeDigits (ds ++ rest) = (ds, rest) := by
  rw [takeDigits, List.takeWhile_append_of_pos digits, List.dropWhile_append_of_pos digits]
  cases rest with
  | nil => rw [List.takeWhile_nil, List.dropWhile_nil, List.append_nil]
  | cons c rest =>
      have other : ¬ c.isDigit = true := by rw [stop c rfl]; decide
      rw [List.takeWhile_cons_of_neg other, List.dropWhile_cons_of_neg other, List.append_nil]

theorem takeWhole_append {ds rest : List Char} (whole : Whole ds)
    (stop : ∀ c ∈ rest.head?, c.isDigit = false) : takeWhole (ds ++ rest) = (ds, rest) := by
  by_cases zero : ds.head? = some '0'
  · rw [whole.lead zero]
    rfl
  · obtain ⟨c, cs, rfl⟩ := List.exists_cons_of_ne_nil whole.nonempty
    rw [List.cons_append, takeWhole]
    · exact takeDigits_append whole.digits stop
    · rintro rest ⟨⟩
      exact zero rfl

theorem takeFraction_append {ds rest : List Char} (some : ds ≠ [])
    (digits : ∀ c ∈ ds, c.isDigit = true) (stop : ∀ c ∈ rest.head?, c.isDigit = false) :
    takeFraction ('.' :: ds ++ rest) = (.some ds, rest) := by
  rw [List.cons_append, takeFraction, takeDigits_append digits stop]
  split
  · next none => exact absurd (congrArg Prod.fst none) some
  · next read => cases read; rfl

theorem takeFraction_none {rest : List Char} (stop : ∀ c ∈ rest.head?, c ≠ '.') :
    takeFraction rest = (none, rest) := by
  cases rest with
  | nil => rfl
  | cons c rest =>
      rw [takeFraction]
      rintro rest ⟨⟩
      exact stop '.' rfl rfl

theorem takeExponent_none {rest : List Char} (stop : ∀ c ∈ rest.head?, c ≠ 'e' ∧ c ≠ 'E') :
    takeExponent rest = (none, rest) := by
  cases rest with
  | nil => rfl
  | cons c rest =>
      have other : ¬ (c = 'e' ∨ c = 'E') := not_or.mpr (stop c rfl)
      simp only [takeExponent, if_neg other]

theorem takeExponent_digits (negative : Bool) {ds rest : List Char} (some : ds ≠ [])
    (digits : ∀ c ∈ ds, c.isDigit = true) (stop : ∀ c ∈ rest.head?, c.isDigit = false) :
    takeExponent ('e' :: (if negative then '-' else '+') :: (ds ++ rest)) =
      (.some (if negative then -(Text.value ds : Int) else Text.value ds), rest) := by
  obtain ⟨c, cs, rfl⟩ := List.exists_cons_of_ne_nil some
  have read := takeDigits_append digits stop
  rw [List.cons_append] at read
  cases negative <;> simp [takeExponent, read]

theorem takeExponent_exponentText (e : Int) {rest : List Char}
    (stop : ∀ c ∈ rest.head?, c.isDigit = false) :
    takeExponent (Decimal.exponentText e ++ rest) = (some e, rest) := by
  let ds := List.replicate (2 - (Text.digits e.natAbs).length) '0' ++ Text.digits e.natAbs
  have nonempty : ds ≠ [] := List.append_ne_nil_of_right_ne_nil _ (Text.digits_ne_nil _)
  have digits : ∀ c ∈ ds, c.isDigit = true := by
    intro c member
    rcases List.mem_append.mp member with zero | digit
    · rw [List.eq_of_mem_replicate zero]
      rfl
    · exact Text.isDigit_of_mem_digits digit
  have value : Text.value ds = e.natAbs := (Text.value_zeros_append _ _).trans (Text.value_digits _)
  have text : Decimal.exponentText e ++ rest =
      'e' :: (if decide (e < 0) then '-' else '+') :: (ds ++ rest) := by
    simp only [Decimal.exponentText, List.cons_append, decide_eq_true_eq, ds]
  rw [text, takeExponent_digits _ nonempty digits stop, value]
  by_cases negative : e < 0
  · simp only [negative, decide_true, if_true]
    congr 2
    omega
  · simp only [negative, decide_false, Bool.false_eq_true, if_false]
    congr 2
    omega

/-- The digits of a number, as they are written, are a whole part. -/
theorem whole_digits (n : Nat) : Whole (Text.digits n) where
  nonempty := Text.digits_ne_nil n
  digits _ member := Text.isDigit_of_mem_digits member
  lead first := by
    rw [Text.digits_of_head first, Text.digits_of_lt (by decide)]
    rfl

theorem whole_zero : Whole ['0'] := by
  have zero := whole_digits 0
  rwa [Text.digits_of_lt (by decide)] at zero

theorem readUnsigned_digits (negative : Bool) {n : Nat} {rest : List Char} (ends : Ends rest)
    (short : (Text.digits n).length ≤ digitLimit) :
    readUnsigned negative (Text.digits n ++ rest) =
      .ok (.int (if negative then -(n : Int) else n), rest) := by
  have some := Text.digits_ne_nil n
  rw [readUnsigned, takeWhole_append (whole_digits n) fun c first => (ends c first).1]
  simp only [takeFraction_none fun c first => (ends c first).2.1,
    takeExponent_none fun c first => (ends c first).2.2, if_neg (Nat.not_lt.mpr short),
    Text.value_digits]

/-- The parts of a number that is written with a point or with an exponent. Without a point there
are no places. -/
structure Parts where
  whole : List Char
  places : List Char
  exponent : Option Int

namespace Parts

/-- The text of the places, and of the exponent. -/
def placesText (p : Parts) : List Char := if p.places = [] then [] else '.' :: p.places

def exponentText (p : Parts) : List Char := p.exponent.elim [] Decimal.exponentText

def text (p : Parts) : List Char := p.whole ++ (p.placesText ++ p.exponentText)

/-- The number that the parts make. -/
def decimal (p : Parts) : Decimal :=
  ⟨Text.value (p.whole ++ p.places), p.exponent.getD 0 - p.places.length⟩

structure Sound (p : Parts) : Prop where
  whole : Whole p.whole
  places : ∀ c ∈ p.places, c.isDigit = true
  real : p.places ≠ [] ∨ p.exponent ≠ none

variable {p : Parts} {rest : List Char}

theorem head_exponentText (ends : Ends rest) :
    ∀ c ∈ (p.exponentText ++ rest).head?, c.isDigit = false ∧ c ≠ '.' := by
  intro c first
  rw [exponentText] at first
  cases exponent : p.exponent with
  | none =>
      rw [exponent] at first
      exact ⟨(ends c first).1, (ends c first).2.1⟩
  | some e =>
      rw [exponent] at first
      cases first
      decide

theorem head_placesText (ends : Ends rest) :
    ∀ c ∈ (p.placesText ++ (p.exponentText ++ rest)).head?, c.isDigit = false := by
  intro c first
  rw [placesText] at first
  split at first
  · exact (head_exponentText ends c first).1
  · cases first
    decide

theorem takeFraction_text (sound : p.Sound) (ends : Ends rest) :
    takeFraction (p.placesText ++ (p.exponentText ++ rest)) =
      (if p.places = [] then none else some p.places, p.exponentText ++ rest) := by
  rw [placesText]
  split
  · exact takeFraction_none fun c first => (head_exponentText ends c first).2
  · next some =>
      exact takeFraction_append some sound.places fun c first => (head_exponentText ends c first).1

theorem takeExponent_text (ends : Ends rest) :
    takeExponent (p.exponentText ++ rest) = (p.exponent, rest) := by
  rw [exponentText]
  cases p.exponent with
  | none => exact takeExponent_none fun c first => (ends c first).2.2
  | some e => exact takeExponent_exponentText e fun c first => (ends c first).1

/-- What is read is the number nearest to the one that the parts make. -/
theorem readUnsigned_text (negative : Bool) (sound : p.Sound) (ends : Ends rest) :
    readUnsigned negative (p.text ++ rest) =
      .ok (.float (Decimal.toFloat negative p.decimal), rest) := by
  have nonempty := sound.whole.nonempty
  rw [text, List.append_assoc, List.append_assoc, readUnsigned,
    takeWhole_append sound.whole (head_placesText ends)]
  simp only [takeFraction_text sound ends, takeExponent_text ends, decimal]
  by_cases places : p.places = []
  · obtain ⟨e, exponent⟩ := Option.ne_none_iff_exists'.mp (sound.real.resolve_left (· places))
    simp only [exponent, places, if_true, Option.getD_none]
  · simp only [if_neg places, Option.getD_some]

end Parts

/-- The parts that a decimal is written in. -/
def parts (d : Decimal) : Parts :=
  let ds := Text.digits d.significand
  let e : Int := d.scale + ds.length - 1
  if -4 ≤ e ∧ e < 16 then
    if 0 ≤ d.scale then ⟨ds ++ List.replicate d.scale.toNat '0', ['0'], none⟩
    else if 0 ≤ e then ⟨ds.take (e.toNat + 1), ds.drop (e.toNat + 1), none⟩
    else ⟨['0'], List.replicate ((-e).toNat - 1) '0' ++ ds, none⟩
  else ⟨ds.take 1, ds.drop 1, some e⟩

/-- A decimal as it is read: behind a whole number that is written without an exponent there is
one more place. -/
def written (d : Decimal) : Decimal :=
  if 0 ≤ d.scale ∧ d.scale + (Text.digits d.significand).length ≤ 16 then
    ⟨d.significand * 10 ^ (d.scale.toNat + 1), -1⟩
  else d

theorem Whole.take {ds : List Char} (whole : Whole ds) (n : Nat) : Whole (ds.take (n + 1)) := by
  obtain ⟨c, cs, rfl⟩ := List.exists_cons_of_ne_nil whole.nonempty
  rw [List.take_succ_cons]
  refine ⟨List.cons_ne_nil _ _, fun d member => whole.digits d ?_, fun first => ?_⟩
  · exact List.mem_of_mem_take (i := n + 1) member
  · obtain ⟨rfl, rfl⟩ := List.cons_eq_cons.mp (whole.lead first)
    rw [List.take_nil]

theorem parts_text (d : Decimal) : Decimal.exact.render d = (parts d).text := by
  have some := Text.digits_ne_nil d.significand
  simp only [Decimal.Layout.render, Decimal.exact, parts, Parts.text, Parts.placesText,
    Parts.exponentText]
  split
  · split
    · rw [if_neg (List.cons_ne_nil _ _)]
      rfl
    · split
      · have places : (Text.digits d.significand).drop
            ((d.scale + (Text.digits d.significand).length - 1).toNat + 1) ≠ [] := by
          rw [← List.length_pos_iff, List.length_drop]
          omega
        rw [if_neg places]
        simp
      · rw [if_neg (List.append_ne_nil_of_right_ne_nil _ some)]
        simp
  · generalize Text.digits d.significand = ds at some
    rcases ds with _ | ⟨c, _ | ⟨c', cs⟩⟩
    · exact absurd rfl some
    · simp [Decimal.scientific]
    · simp [Decimal.scientific]

theorem parts_sound {d : Decimal} (zero : d.significand = 0 → d.scale = 0) : (parts d).Sound := by
  have whole := whole_digits d.significand
  have zeros (k : Nat) : ∀ c ∈ List.replicate k '0', c.isDigit = true := by
    intro c member
    rw [List.eq_of_mem_replicate member]
    rfl
  rw [parts]
  split
  · split
    · refine ⟨⟨List.append_ne_nil_of_left_ne_nil whole.nonempty _, ?_, ?_⟩, zeros 1,
        Or.inl (List.cons_ne_nil _ _)⟩
      · intro c member
        exact (List.mem_append.mp member).elim (whole.digits c) (zeros _ c)
      · intro first
        rw [List.head?_append, Option.or_of_isSome (List.isSome_head?.mpr whole.nonempty)] at first
        have alone := whole.lead first
        have none : d.significand = 0 := by
          rw [← Text.value_digits d.significand, alone]
          rfl
        rw [alone, zero none]
        rfl
    · split
      · refine ⟨whole.take _, fun c member => whole.digits c (List.mem_of_mem_drop member),
          Or.inl ?_⟩
        rw [← List.length_pos_iff, List.length_drop]
        omega
      · refine ⟨whole_zero, ?_, Or.inl ?_⟩
        · intro c member
          exact (List.mem_append.mp member).elim (zeros _ c) (whole.digits c)
        · exact List.append_ne_nil_of_right_ne_nil _ whole.nonempty
  · exact ⟨whole.take 0, fun c member => whole.digits c (List.mem_of_mem_drop member),
      Or.inr (Option.some_ne_none _)⟩

theorem parts_decimal (d : Decimal) : (parts d).decimal = written d := by
  have length := List.length_pos_iff.mpr (Text.digits_ne_nil d.significand)
  have value := Text.value_digits d.significand
  simp only [parts]
  split
  · split
    · have longer : written d = ⟨d.significand * 10 ^ (d.scale.toNat + 1), -1⟩ :=
        if_pos (by omega)
      rw [longer, Parts.decimal, List.append_assoc, ← List.replicate_succ', Text.value_append,
        value, Text.valueFrom_zeros]
      rfl
    · have same : written d = d := if_neg (by omega)
      split
      · rw [same, Parts.decimal, List.take_append_drop, value]
        simp only [Option.getD_none, List.length_drop]
        congr 1
        omega
      · rw [same, Parts.decimal, ← List.append_assoc, List.singleton_append,
          ← List.replicate_succ, Text.value_zeros_append, value]
        simp only [Option.getD_none, List.length_append, List.length_replicate]
        congr 1
        omega
  · have same : written d = d := if_neg (by omega)
    rw [same, Parts.decimal, List.take_append_drop, value]
    simp only [Option.getD_some, List.length_drop]
    congr 1
    omega

/-- To write one more place does not change the number. -/
theorem value_written (d : Decimal) : (written d).value = d.value := by
  rw [written]
  split
  · next whole =>
      obtain ⟨j, scale⟩ := Int.eq_ofNat_of_zero_le whole.1
      rw [Decimal.value, Decimal.value, scale, Int.toNat_natCast, zpow_neg_one, zpow_natCast,
        Nat.pow_succ]
      push_cast
      ring
  · rfl

theorem floatLiteral_of_isFinite {x : Float} (finite : x.isFinite = true) :
    floatLiteral x = (Decimal.exactText x).toList := by
  have kind : x.isNaN = false ∧ x.isInf = false := by
    change x.toModel.unpack.isFinite = true at finite
    change x.toModel.unpack.isNaN = false ∧ x.toModel.unpack.isInf = false
    cases unpacked : x.toModel.unpack <;> rw [unpacked] at finite <;> trivial
  rw [floatLiteral, kind.1, kind.2]
  rfl

/-- A finite number is written as its sign and digits that are read back as the number. -/
theorem floatLiteral_eq {x : Float} (finite : x.isFinite = true) :
    ∃ negative d, (d.significand = 0 → d.scale = 0) ∧
      Decimal.toFloat negative (written d) = x ∧
      floatLiteral x = Decimal.signText negative ++ Decimal.exact.render d := by
  obtain ⟨negative, m, e, binary⟩ := Decimal.exists_finite_ofFloat finite
  refine ⟨negative, Decimal.shortestOrZero m e, Decimal.scale_shortestOrZero binary,
    Decimal.toFloat_of_value binary (value_written _), ?_⟩
  rw [floatLiteral_of_isFinite finite, Decimal.exactText, Decimal.withSign, binary,
    String.toList_ofList]

end Json

end Absorption
