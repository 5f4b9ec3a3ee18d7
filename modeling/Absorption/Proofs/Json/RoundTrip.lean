import Absorption.Config.Json
import Absorption.Proofs.Json.Number
import Absorption.Proofs.Json.Text

set_option autoImplicit false

/-!
Values as texts and back. Whatever is written of a value is read as the value, on one line or with
one item to a line (`readChars_writeAt`).
-/

namespace Absorption

/-- A value that a text can hold: integers have no more digits than can be read, binary64 numbers
are finite, and the keys of a mapping are texts, each of them there once. -/
inductive Value.IsJson : Value → Prop
  | null : IsJson .null
  | bool (b : Bool) : IsJson (.bool b)
  | int {n : Int} (short : (Text.digits n.natAbs).length ≤ digitLimit) : IsJson (.int n)
  | float {x : Float} (finite : x.isFinite = true) : IsJson (.float x)
  | text (s : String) : IsJson (.text s)
  | list {items : List Value} (each : ∀ v ∈ items, IsJson v) : IsJson (.list items)
  | record {fields : List (String × Value)} (distinct : (fields.map Prod.fst).Nodup)
      (each : ∀ f ∈ fields, IsJson f.2) : IsJson (.record fields)

namespace Json

theorem digit_ne {c d : Char} (digit : c.isDigit = true) (other : d.isDigit = false) : c ≠ d := by
  rintro rfl
  rw [digit] at other
  exact Bool.noConfusion other

theorem readValue_digit {c : Char} (digit : c.isDigit = true) (fuel : Nat) (cs : List Char) :
    readValue (fuel + 1) (c :: cs) = readUnsigned false (c :: cs) := by
  rw [readValue]
  · exact List.cons_ne_nil c cs
  all_goals
    rintro rest ⟨⟩
    exact digit_ne digit rfl rfl

/-- Behind a minus sign that digits follow stands a number. -/
theorem readValue_minus {c : Char} (digit : c.isDigit = true) (fuel : Nat) (cs : List Char) :
    readValue (fuel + 1) ('-' :: c :: cs) = readUnsigned true (c :: cs) := by
  rw [readValue]
  rintro rest ⟨⟩
  exact digit_ne digit rfl rfl

/-- A sign and digits are read as a number. -/
theorem readValue_signed (negative : Bool) {ds : List Char} (digits : Whole ds) (fuel : Nat)
    (cs : List Char) : readValue (fuel + 1) (Decimal.signText negative ++ (ds ++ cs)) =
      readUnsigned negative (ds ++ cs) := by
  obtain ⟨c, ds, rfl⟩ := List.exists_cons_of_ne_nil digits.nonempty
  have digit := digits.digits c List.mem_cons_self
  cases negative
  · exact readValue_digit digit fuel _
  · exact readValue_minus digit fuel _

/-- Nothing but space stands between items. -/
def Layout.IsBlank : Layout → Prop
  | .single => True
  | .lines step => ∀ c ∈ step, isSpace c = true

theorem skipSpace_append {gap cs : List Char} (blank : ∀ c ∈ gap, isSpace c = true)
    (start : ∀ c ∈ cs.head?, isSpace c = false) : skipSpace (gap ++ cs) = cs := by
  rw [skipSpace, List.dropWhile_append_of_pos blank]
  cases cs with
  | nil => rfl
  | cons c cs => rw [List.dropWhile_cons_of_neg (by rw [start c rfl]; decide)]

theorem isSpace_blank : ∀ c ∈ [' '], isSpace c = true := List.forall_mem_singleton.mpr rfl

variable {l : Layout}

theorem isSpace_of_mem_lead (blank : l.IsBlank) (level : Nat) :
    ∀ c ∈ l.lead level, isSpace c = true := by
  intro c member
  cases l with
  | single => exact absurd member List.not_mem_nil
  | lines step =>
      rcases List.mem_cons.mp member with rfl | later
      · rfl
      · obtain ⟨piece, pieces, inside⟩ := List.mem_flatten.mp later
        rw [List.eq_of_mem_replicate pieces] at inside
        exact blank c inside

/-- Two items are parted by a comma and space. -/
theorem between_eq_cons (blank : l.IsBlank) (level : Nat) :
    ∃ gap, l.between level = ',' :: gap ∧ ∀ c ∈ gap, isSpace c = true := by
  cases l with
  | single => exact ⟨[' '], rfl, isSpace_blank⟩
  | lines step => exact ⟨_, rfl, isSpace_of_mem_lead blank level⟩

theorem ends_cons {c : Char} (digit : c.isDigit = false) (point : c ≠ '.') (lower : c ≠ 'e')
    (upper : c ≠ 'E') (cs : List Char) : Ends (c :: cs) := by
  rintro d ⟨⟩
  exact ⟨digit, point, lower, upper⟩

/-- A closing bracket ends a number, also from the next line. -/
theorem ends_close (l : Layout) (level : Nat) {c : Char} (close : c = ']' ∨ c = '\x7d')
    (rest : List Char) : Ends (l.lead level ++ c :: rest) := by
  cases l with
  | single =>
      rcases close with rfl | rfl <;>
        exact ends_cons (by decide) (by decide) (by decide) (by decide) _
  | lines step => exact ends_cons (by decide) (by decide) (by decide) (by decide) _

theorem ends_between (l : Layout) (level : Nat) (cs : List Char) :
    Ends (l.between level ++ cs) := by
  cases l with
  | single => exact ends_cons (by decide) (by decide) (by decide) (by decide) _
  | lines step => exact ends_cons (by decide) (by decide) (by decide) (by decide) _

/-- A value whose text starts with neither space nor a closing bracket and is read back, whatever
follows that does not go on with a number. -/
structure Reads (l : Layout) (v : Value) : Prop where
  start : ∀ level, ∃ c cs, writeAt l level v = c :: cs ∧ isSpace c = false ∧ c ≠ ']'
  read : ∀ level fuel rest, Ends rest → 2 * (writeAt l level v).length ≤ fuel →
    readValue fuel (writeAt l level v ++ rest) = .ok (v, rest)

/-- A value that is read in one step. -/
theorem Reads.atom {v : Value} {c : Char} {cs : List Char}
    (text : ∀ level, writeAt l level v = c :: cs) (solid : isSpace c = false) (item : c ≠ ']')
    (read : ∀ fuel rest, Ends rest → readValue (fuel + 1) (c :: cs ++ rest) = .ok (v, rest)) :
    Reads l v := by
  refine ⟨fun level => ⟨c, cs, text level, solid, item⟩, fun level fuel rest ends enough => ?_⟩
  rw [text, List.length_cons] at enough
  obtain ⟨fuel, rfl⟩ := Nat.exists_eq_add_one_of_ne_zero (show fuel ≠ 0 by omega)
  rw [text, read fuel rest ends]

theorem Reads.skipSpace_append {v : Value} (reads : Reads l v) {gap : List Char}
    (blank : ∀ c ∈ gap, isSpace c = true) (level : Nat) (rest : List Char) :
    skipSpace (gap ++ (writeAt l level v ++ rest)) = writeAt l level v ++ rest := by
  obtain ⟨c, cs, text, solid, _⟩ := reads.start level
  refine Json.skipSpace_append blank ?_
  rw [text]
  rintro d ⟨⟩
  exact solid

theorem ends_writeItems (l : Layout) {cs : List Char} (ends : Ends cs) (level : Nat)
    (vs : List Value) : Ends (writeItems l level vs ++ cs) := by
  cases vs with
  | nil => exact ends
  | cons v vs =>
      rw [writeItems, List.append_assoc, List.append_assoc]
      exact ends_between l level _

/-- The items of a list after the first one are read up to the closing bracket. -/
theorem readItems_writeItems (blank : l.IsBlank) {vs : List Value} (each : ∀ v ∈ vs, Reads l v)
    (level outer : Nat) {fuel : Nat} (rest : List Char)
    (enough : 2 * (writeItems l level vs).length < fuel) :
    readItems fuel (skipSpace (writeItems l level vs ++ (l.lead outer ++ ']' :: rest))) =
      .ok (vs, rest) := by
  induction vs generalizing fuel with
  | nil =>
      obtain ⟨fuel, rfl⟩ := Nat.exists_eq_add_one_of_ne_zero (Nat.ne_zero_of_lt enough)
      rw [writeItems, List.nil_append, skipSpace_append (isSpace_of_mem_lead blank outer)]
      · rfl
      · rintro c ⟨⟩
        rfl
  | cons v vs ih =>
      obtain ⟨fuel, rfl⟩ := Nat.exists_eq_add_one_of_ne_zero (Nat.ne_zero_of_lt enough)
      obtain ⟨gap, between, space⟩ := between_eq_cons blank level
      have reads := each v List.mem_cons_self
      simp only [writeItems, between, List.cons_append, List.append_assoc, List.length_append,
        List.length_cons] at enough ⊢
      have comma (cs : List Char) : skipSpace (',' :: cs) = ',' :: cs := rfl
      have ends := ends_writeItems l (ends_close l outer (.inl rfl) rest) level vs
      rw [comma, readItems, reads.skipSpace_append space, reads.read level fuel _ ends (by omega)]
      simp only [bind, Except.bind]
      rw [ih (fun w later => each w (List.mem_cons_of_mem v later)) (by omega)]
      rfl

/-- A list that does not end at once starts with a value. -/
theorem readValue_list {fuel : Nat} {cs : List Char} (item : (skipSpace cs).head? ≠ some ']') :
    readValue (fuel + 1) ('[' :: cs) = (do
      let (v, rest) ← readValue fuel (skipSpace cs)
      let (vs, rest) ← readItems fuel (skipSpace rest)
      return (.list (v :: vs), rest)) := by
  rw [readValue]
  split
  · next close => exact absurd (congrArg List.head? close) item
  · rfl

theorem Reads.list (blank : l.IsBlank) {vs : List Value} (each : ∀ v ∈ vs, Reads l v) :
    Reads l (.list vs) := by
  cases vs with
  | nil => exact Reads.atom (fun _ => rfl) (by decide) (by decide) fun _ _ _ => rfl
  | cons v vs =>
      refine ⟨fun level => ⟨'[', _, rfl, by decide, by decide⟩, ?_⟩
      intro level fuel rest _ enough
      have reads := each v List.mem_cons_self
      simp only [writeAt, List.cons_append, List.append_assoc, List.length_append,
        List.length_cons, List.nil_append, List.length_nil] at enough ⊢
      obtain ⟨fuel, rfl⟩ := Nat.exists_eq_add_one_of_ne_zero (show fuel ≠ 0 by omega)
      have space := reads.skipSpace_append (isSpace_of_mem_lead blank (level + 1))
        (level + 1) (writeItems l (level + 1) vs ++ (l.lead level ++ ']' :: rest))
      have ends := ends_writeItems l (ends_close l level (.inl rfl) rest) (level + 1) vs
      rw [readValue_list, space, reads.read _ _ _ ends (by omega)]
      · simp only [bind, Except.bind]
        rw [readItems_writeItems blank (fun w later => each w (List.mem_cons_of_mem v later)) _ _ _
          (by omega)]
        rfl
      · obtain ⟨c, cs, text, _, item⟩ := reads.start (level + 1)
        rw [space, text]
        exact fun close => item (Option.some.inj close)

/-- A value under a text. -/
def keyed (f : String × Value) : Key × Value := (.text f.1, f.2)

/-- A key that is not there yet comes last. -/
theorem setEntry_keyed {name : String} {fields : List (String × Value)}
    (fresh : name ∉ fields.map Prod.fst) (v : Value) :
    Value.setEntry (.text name) v (fields.map keyed) = (fields ++ [(name, v)]).map keyed := by
  induction fields with
  | nil => rfl
  | cons f fields ih =>
      rw [List.map_cons, List.mem_cons, not_or] at fresh
      have other : Key.same false (keyed f).1 (.text name) = false :=
        beq_eq_false_iff_ne.mpr (Ne.symm fresh.1)
      rw [List.map_cons, Value.setEntry, other, if_neg Bool.false_ne_true, ih fresh.2]
      rfl

theorem readEntry_writeEntry {f : String × Value} (reads : Reads l f.2) {level fuel : Nat}
    {rest : List Char} (ends : Ends rest)
    (enough : 2 * (writeEntry l level (keyed f)).length ≤ fuel) :
    readEntry fuel (writeEntry l level (keyed f) ++ rest) = .ok (f.1, f.2, rest) := by
  simp only [keyed, writeEntry, keyLiteral, textLiteral, List.cons_append, List.append_assoc,
    List.length_append, List.length_cons, List.nil_append] at enough ⊢
  obtain ⟨fuel, rfl⟩ := Nat.exists_eq_add_one_of_ne_zero (show fuel ≠ 0 by omega)
  have space := reads.skipSpace_append isSpace_blank level rest
  rw [readEntry, readText_literal]
  change (do let (v, rest) ← readValue fuel (skipSpace ([' '] ++ (writeAt l level f.2 ++ rest)))
             return (f.1, v, rest)) = _
  rw [space, reads.read level fuel rest ends (by omega)]
  rfl

theorem ends_writeEntries (l : Layout) {cs : List Char} (ends : Ends cs) (level : Nat)
    (es : List (Key × Value)) : Ends (writeEntries l level es ++ cs) := by
  cases es with
  | nil => exact ends
  | cons e es =>
      rw [writeEntries, List.append_assoc, List.append_assoc]
      exact ends_between l level _

/-- The text of an entry starts with a quotation mark. -/
theorem skipSpace_writeEntry {gap : List Char} (blank : ∀ c ∈ gap, isSpace c = true)
    (level : Nat) (f : String × Value) (rest : List Char) :
    skipSpace (gap ++ (writeEntry l level (keyed f) ++ rest)) =
      writeEntry l level (keyed f) ++ rest := by
  refine skipSpace_append blank ?_
  rintro c ⟨⟩
  rfl

/-- The entries of a mapping after those that were seen are read up to the closing bracket. -/
theorem readEntries_writeEntries (blank : l.IsBlank) {seen fields : List (String × Value)}
    (distinct : ((seen ++ fields).map Prod.fst).Nodup) (each : ∀ f ∈ fields, Reads l f.2)
    (level outer : Nat) {fuel : Nat} (rest : List Char)
    (enough : 2 * (writeEntries l level (fields.map keyed)).length < fuel) :
    readEntries fuel (seen.map keyed) (skipSpace (writeEntries l level (fields.map keyed) ++
      (l.lead outer ++ '\x7d' :: rest))) = .ok ((seen ++ fields).map keyed, rest) := by
  induction fields generalizing seen fuel with
  | nil =>
      obtain ⟨fuel, rfl⟩ := Nat.exists_eq_add_one_of_ne_zero (Nat.ne_zero_of_lt enough)
      rw [List.map_nil, writeEntries, List.nil_append, List.append_nil,
        skipSpace_append (isSpace_of_mem_lead blank outer)]
      · rfl
      · rintro c ⟨⟩
        rfl
  | cons f fields ih =>
      obtain ⟨fuel, rfl⟩ := Nat.exists_eq_add_one_of_ne_zero (Nat.ne_zero_of_lt enough)
      obtain ⟨gap, between, space⟩ := between_eq_cons blank level
      have reads := each f List.mem_cons_self
      have regroup : seen ++ f :: fields = seen ++ [f] ++ fields := List.append_cons seen f fields
      rw [regroup] at distinct
      have fresh : f.1 ∉ seen.map Prod.fst := by
        rw [List.map_append, List.map_append] at distinct
        intro member
        exact (List.nodup_append.mp (List.nodup_append.mp distinct).1).2.2 f.1 member f.1
          List.mem_cons_self rfl
      simp only [List.map_cons, writeEntries, between, List.cons_append, List.append_assoc,
        List.length_append, List.length_cons] at enough ⊢
      have comma (cs : List Char) : skipSpace (',' :: cs) = ',' :: cs := rfl
      have ends := ends_writeEntries l (ends_close l outer (.inr rfl) rest) level (fields.map keyed)
      rw [comma, readEntries, skipSpace_writeEntry space,
        readEntry_writeEntry reads ends (by omega)]
      simp only [bind, Except.bind]
      rw [setEntry_keyed fresh, regroup]
      exact ih distinct (fun w later => each w (List.mem_cons_of_mem f later)) (by omega)

/-- A mapping that does not end at once starts with an entry. -/
theorem readValue_map {fuel : Nat} {cs : List Char} (item : (skipSpace cs).head? ≠ some '\x7d') :
    readValue (fuel + 1) ('\x7b' :: cs) = (do
      let (k, v, rest) ← readEntry fuel (skipSpace cs)
      let (es, rest) ← readEntries fuel [(.text k, v)] (skipSpace rest)
      return (.map es, rest)) := by
  rw [readValue]
  split
  · next close => exact absurd (congrArg List.head? close) item
  · rfl

theorem Reads.record (blank : l.IsBlank) {fields : List (String × Value)}
    (distinct : (fields.map Prod.fst).Nodup) (each : ∀ f ∈ fields, Reads l f.2) :
    Reads l (.record fields) := by
  cases fields with
  | nil => exact Reads.atom (fun _ => rfl) (by decide) (by decide) fun _ _ _ => rfl
  | cons f fields =>
      refine ⟨fun level => ⟨'\x7b', _, rfl, by decide, by decide⟩, ?_⟩
      intro level fuel rest _ enough
      change 2 * (writeAt l level (.map (keyed f :: fields.map keyed))).length ≤ fuel at enough
      change readValue fuel (writeAt l level (.map (keyed f :: fields.map keyed)) ++ rest) = _
      simp only [writeAt, List.cons_append, List.append_assoc, List.length_append,
        List.length_cons, List.nil_append, List.length_nil] at enough ⊢
      obtain ⟨fuel, rfl⟩ := Nat.exists_eq_add_one_of_ne_zero (show fuel ≠ 0 by omega)
      have space := skipSpace_writeEntry (l := l) (isSpace_of_mem_lead blank (level + 1))
        (level + 1) f (writeEntries l (level + 1) (fields.map keyed) ++
          (l.lead level ++ '\x7d' :: rest))
      have ends := ends_writeEntries l (ends_close l level (.inr rfl) rest) (level + 1)
        (fields.map keyed)
      rw [readValue_map, space,
        readEntry_writeEntry (each f List.mem_cons_self) ends (by omega)]
      · simp only [bind, Except.bind]
        change (do
          let (es, rest) ← readEntries fuel ([f].map keyed) (skipSpace _)
          return (Value.map es, rest)) = _
        rw [readEntries_writeEntries blank distinct
          (fun w later => each w (List.mem_cons_of_mem f later)) _ _ _ (by omega)]
        rfl
      · rw [space]
        exact fun close => absurd (Option.some.inj close) (by decide)

theorem isSpace_of_isDigit {c : Char} (digit : c.isDigit = true) : isSpace c = false := by
  rw [isSpace, Bool.or_eq_false_iff, Bool.or_eq_false_iff, Bool.or_eq_false_iff]
  simp only [decide_eq_false_iff_not]
  exact ⟨⟨⟨digit_ne digit rfl, digit_ne digit rfl⟩, digit_ne digit rfl⟩, digit_ne digit rfl⟩

/-- A value that is written as a sign and digits and read back from behind the sign. -/
theorem Reads.number {v : Value} (negative : Bool) {ds : List Char} (whole : Whole ds)
    (more : List Char)
    (text : ∀ level, writeAt l level v = Decimal.signText negative ++ (ds ++ more))
    (read : ∀ rest, Ends rest → readUnsigned negative (ds ++ (more ++ rest)) = .ok (v, rest)) :
    Reads l v := by
  have signed := readValue_signed negative whole
  obtain ⟨c, cs, rfl⟩ := List.exists_cons_of_ne_nil whole.nonempty
  have digit := whole.digits c List.mem_cons_self
  cases negative
  · refine Reads.atom text (isSpace_of_isDigit digit) (digit_ne digit rfl) fun fuel rest ends => ?_
    exact (congrArg _ (List.append_assoc (c :: cs) more rest)).trans
      ((signed fuel _).trans (read rest ends))
  · refine Reads.atom text (by decide) (by decide) fun fuel rest ends => ?_
    exact (congrArg _ (List.append_assoc ('-' :: c :: cs) more rest)).trans
      ((signed fuel _).trans (read rest ends))

theorem Reads.int {n : Int} (short : (Text.digits n.natAbs).length ≤ digitLimit) :
    Reads l (.int n) := by
  refine Reads.number (decide (n < 0)) (whole_digits n.natAbs) [] (fun level => ?_)
    fun rest ends => ?_
  · rw [writeAt, Text.integer, List.append_nil, Decimal.signText]
    simp only [decide_eq_true_eq]
    split <;> rfl
  · rw [List.nil_append, readUnsigned_digits _ ends short]
    simp only [decide_eq_true_eq]
    congr 3
    split <;> omega

theorem Reads.float {x : Float} (finite : x.isFinite = true) : Reads l (.float x) := by
  obtain ⟨negative, d, zero, read, text⟩ := floatLiteral_eq finite
  have sound := parts_sound zero
  rw [parts_text] at text
  refine Reads.number negative sound.whole _ (fun level => text) fun rest ends => ?_
  rw [← List.append_assoc, ← Parts.text, Parts.readUnsigned_text negative sound ends,
    parts_decimal, read]

theorem Reads.text (s : String) : Reads l (.text s) := by
  have text (level : Nat) : writeAt l level (.text s) =
      '"' :: (s.toList.flatMap escapedChar ++ ['"']) := rfl
  refine Reads.atom text (by decide) (by decide) fun fuel rest _ => ?_
  rw [List.cons_append, List.append_assoc, List.singleton_append, readValue, readText_literal]
  rfl

/-- Every value that a text can hold is read back. -/
theorem reads_of_isJson (blank : l.IsBlank) {v : Value} (json : v.IsJson) : Reads l v := by
  induction json with
  | null => exact Reads.atom (fun _ => rfl) (by decide) (by decide) fun _ _ _ => rfl
  | bool b =>
      cases b
      · exact Reads.atom (fun _ => rfl) (by decide) (by decide) fun _ _ _ => rfl
      · exact Reads.atom (fun _ => rfl) (by decide) (by decide) fun _ _ _ => rfl
  | int short => exact Reads.int short
  | float finite => exact Reads.float finite
  | text s => exact Reads.text s
  | list _ each => exact Reads.list blank each
  | record distinct _ each => exact Reads.record blank distinct each

/-- The whole text of a value is read as the value. -/
theorem readChars_writeAt (blank : l.IsBlank) {v : Value} (json : v.IsJson) :
    readChars (writeAt l 0 v) = .ok v := by
  have reads := reads_of_isJson blank json
  have space := reads.skipSpace_append (List.forall_mem_nil _) 0 []
  have read := reads.read 0 (2 * (writeAt l 0 v).length + 1) [] (fun c none => nomatch none)
    (Nat.le_succ _)
  rw [List.nil_append, List.append_nil] at space
  rw [List.append_nil] at read
  rw [readChars, space, read]
  rfl

theorem areWritable_of_forall {vs : List Value} (each : ∀ v ∈ vs, isWritable v = true) :
    areWritable vs = true := by
  induction vs with
  | nil => rfl
  | cons v vs ih =>
      rw [areWritable, each v List.mem_cons_self,
        ih fun w later => each w (List.mem_cons_of_mem v later)]
      rfl

theorem areEntriesWritable_keyed {fields : List (String × Value)}
    (each : ∀ f ∈ fields, isWritable f.2 = true) :
    areEntriesWritable (fields.map keyed) = true := by
  induction fields with
  | nil => rfl
  | cons f fields ih =>
      have first : isEntryWritable (keyed f) = true := each f List.mem_cons_self
      rw [List.map_cons, areEntriesWritable, first,
        ih fun w later => each w (List.mem_cons_of_mem f later)]
      rfl

/-- Such a value is written, since it has no moments. -/
theorem isWritable_of_isJson {v : Value} (json : v.IsJson) : isWritable v = true := by
  induction json with
  | null => rfl
  | bool b => rfl
  | int short => rfl
  | float finite => rfl
  | text s => rfl
  | list _ each => exact areWritable_of_forall each
  | record distinct _ each => exact areEntriesWritable_keyed each

theorem isBlank_indented (indent : Nat) : (Layout.indented indent).IsBlank := by
  intro c member
  rw [List.eq_of_mem_replicate member]
  rfl

end Json

namespace Config

/-- All settings of a configuration. -/
def settings (c : Config) : List Value :=
  [c.pressureOrder, c.temperatureOrder, c.humidityOrder, c.frequencyTolerance, c.humiditySpecies,
    c.logLevel]

theorem isJson_toValue {c : Config} (json : ∀ v ∈ c.settings, v.IsJson) : c.toValue.IsJson := by
  simp only [settings, List.forall_mem_cons] at json
  obtain ⟨pressure, temperature, humidity, tolerance, species, level, _⟩ := json
  refine .record (by simp [entries]) ?_
  simp only [entries, List.forall_mem_cons]
  refine ⟨.record (by simp) ?_, .record (by simp) ?_, species, level, List.forall_mem_nil _⟩
  · simp only [List.forall_mem_cons]
    exact ⟨pressure, temperature, humidity, List.forall_mem_nil _⟩
  · simp only [List.forall_mem_cons]
    exact ⟨tolerance, List.forall_mem_nil _⟩

/-- A configuration whose settings a text can hold is written, and what is read from the text is
the configuration, every setting of the kind that it was. To write it again gives the same text. -/
theorem ofJson_toJson (c : Config) (indent : Nat) (json : ∀ v ∈ c.settings, v.IsJson) :
    ∃ text d, c.toJson (.indented indent) = .ok text ∧ ofJson text = .ok d ∧ d = c ∧
      d.toJson (.indented indent) = .ok text := by
  have value := isJson_toValue json
  have written : c.toJson (.indented indent) = .ok (Json.write (.indented indent) c.toValue) :=
    if_pos (Json.isWritable_of_isJson value)
  refine ⟨_, c, written, ?_, rfl, written⟩
  rw [ofJson, Json.read, Json.write, String.toList_ofList,
    Json.readChars_writeAt (Json.isBlank_indented indent) value]
  exact ofValue_toValue c

/-- Settings of many kinds, with texts that need escapes. -/
def mixed : Config where
  pressureOrder := .list [.null, .bool true, .int (-70), .list []]
  temperatureOrder := .record [("\"\\\n", .float 0.1), ("é😀", .record [])]
  humidityOrder := .float (-1e300)
  frequencyTolerance := .float 2.0
  humiditySpecies := .text "H₂O"
  logLevel := .float (-0.0)

theorem ofJson_toJson_mixed : ∃ text d, mixed.toJson (.indented 2) = .ok text ∧
    ofJson text = .ok d ∧ d = mixed ∧ d.toJson (.indented 2) = .ok text := by
  refine ofJson_toJson mixed 2 ?_
  simp only [settings, mixed, List.forall_mem_cons]
  refine ⟨.list ?_, .record (by decide) ?_, .float (by decide +kernel), .float (by decide +kernel),
    .text _, .float (by decide +kernel), List.forall_mem_nil _⟩
  · simp only [List.forall_mem_cons]
    exact ⟨.null, .bool true, .int (by decide +kernel), .list (List.forall_mem_nil _),
      List.forall_mem_nil _⟩
  · simp only [List.forall_mem_cons]
    exact ⟨.float (by decide +kernel), .record (by decide) (List.forall_mem_nil _),
      List.forall_mem_nil _⟩

end Config

end Absorption
