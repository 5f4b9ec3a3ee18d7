import Absorption.Value

set_option autoImplicit false

/-!
What a scalar without quotation marks stands for in YAML 1.1: by its form it is null, a truth value,
a number, a date or else a text.
-/

namespace Absorption.Yaml.Plain

def nullWords : List String := ["", "~", "null", "Null", "NULL"]

def boolWords : List (String × Bool) :=
  [("yes", true), ("Yes", true), ("YES", true), ("no", false), ("No", false), ("NO", false),
    ("true", true), ("True", true), ("TRUE", true), ("false", false), ("False", false),
    ("FALSE", false), ("on", true), ("On", true), ("ON", true), ("off", false), ("Off", false),
    ("OFF", false)]

/-- The pieces between separators. -/
def pieces (separator : Char) : List Char → List (List Char)
  | [] => [[]]
  | c :: cs =>
    if c = separator then [] :: pieces separator cs
    else match pieces separator cs with
      | p :: ps => (c :: p) :: ps
      | [] => [[c]]

/-- The sign at the front, and what follows. -/
def takeSign (cs : List Char) : Bool × List Char :=
  match cs with
  | '-' :: rest => (true, rest)
  | '+' :: rest => (false, rest)
  | _ => (false, cs)

/-- A digit, or a mark between groups of digits. -/
def isGrouped (c : Char) : Bool := c.isDigit || c = '_'

def ungrouped (cs : List Char) : List Char := cs.filter (· ≠ '_')

/-- Grouped digits that begin with a digit. -/
def isWhole (cs : List Char) : Bool :=
  match cs with
  | d :: ds => d.isDigit && ds.all isGrouped
  | [] => false

/-- A place of base sixty: up to two digits below sixty. -/
def isSixtieth (cs : List Char) : Bool :=
  match cs with
  | [d] => d.isDigit
  | [t, d] => '0' ≤ t && t ≤ '5' && d.isDigit
  | _ => false

/-- The number of digits in a base; at least one has to be there. -/
def radix (base : Nat) (ds : List Char) : Except ReadError Nat :=
  match ungrouped ds with
  | [] => .error .unconvertible
  | ds => .ok (ds.foldl (fun n c => base * n + (Text.hexValue? c).getD 0) 0)

/-- Decimal digits, as far as there are not too many. -/
def decimal (ds : List Char) : Except ReadError Nat :=
  let ds := ungrouped ds
  if digitLimit < ds.length then .error .unconvertible else .ok (Text.value ds)

/-- Digits in base sixty, the highest place first. -/
def sixties (places : List (List Char)) : Except ReadError Nat := do
  return (← places.mapM decimal).foldl (fun n d => 60 * n + d) 0

/-- An integer without its sign, if the form is that of one: binary, octal, hexadecimal, decimal or
in base sixty. -/
def unsigned? (cs : List Char) : Option (Except ReadError Nat) :=
  match cs with
  | ['0'] => some (.ok 0)
  | '0' :: d :: ds =>
    if d = 'b' then
      if !ds.isEmpty && ds.all (fun c => c = '0' || c = '1' || c = '_') then some (radix 2 ds)
      else none
    else if d = 'x' then
      if !ds.isEmpty && ds.all (fun c => (Text.hexValue? c).isSome || c = '_') then
        some (radix 16 ds)
      else none
    else if (d :: ds).all (fun c => ('0' ≤ c && c ≤ '7') || c = '_') then some (radix 8 cs)
    else none
  | _ =>
    match pieces ':' cs with
    | whole :: places =>
      if isWhole whole && places.all isSixtieth then some (sixties (whole :: places)) else none
    | [] => none

/-- An integer, if the form is that of one. -/
def integer? (cs : List Char) : Option (Except ReadError Int) :=
  let (negative, rest) := takeSign cs
  (unsigned? rest).map fun e => e.map fun n => if negative then -(n : Int) else n

/-- An exponent with its sign, or nothing; other ends have no value. -/
def exponent? (cs : List Char) : Option Int :=
  match cs with
  | [] => some 0
  | e :: s :: ds =>
    if (e = 'e' || e = 'E') && (s = '-' || s = '+') && !ds.isEmpty && ds.all Char.isDigit then
      some (if s = '-' then -(Text.value ds : Int) else Text.value ds)
    else none
  | _ => none

/-- A number with the digits before and behind its point. -/
def pointed (negative : Bool) (whole places : List Char) (exponent : Int) : Float :=
  let whole := ungrouped whole
  let places := ungrouped places
  Decimal.toFloat negative ⟨Text.value (whole ++ places), exponent - places.length⟩

/-- The value of base sixty, from the lowest place on, with the weight of that place. Each weight is
rounded to the nearest binary64 number, if there is one. -/
def sixtiesFrom (weight : Nat) (total : Float) : List Float → Except ReadError Float
  | [] => .ok total
  | x :: xs =>
    match Decimal.ofInt? weight with
    | some w => sixtiesFrom (60 * weight) (total + x * w) xs
    | none => .error .tooLarge

/-- A number with a point and without its sign. -/
def unsignedFloat? (negative signed : Bool) (cs : List Char) : Option (Except ReadError Float) :=
  let (before, rest) := (cs.takeWhile (· ≠ '.'), cs.dropWhile (· ≠ '.'))
  match rest with
  | [] => none
  | _ :: rest =>
    let (places, tail) := (rest.takeWhile isGrouped, rest.dropWhile isGrouped)
    if before.isEmpty then
      if ["inf", "Inf", "INF"].contains (String.ofList rest) then
        some (.ok (if negative then -1.0 / 0.0 else 1.0 / 0.0))
      else if signed then none
      else if ["nan", "NaN", "NAN"].contains (String.ofList rest) then some (.ok (0.0 / 0.0))
      else if isWhole places then (exponent? tail).map fun e => .ok (pointed negative [] places e)
      else none
    else if isWhole before then (exponent? tail).map fun e => .ok (pointed negative before places e)
    else match (pieces ':' before).reverse, tail with
      | last :: upper, [] =>
        match upper.reverse with
        | whole :: middle =>
          if isWhole whole && middle.all isSixtieth && isSixtieth last then
            let size := sixtiesFrom 1 0.0
              (pointed false last places 0 :: upper.map fun p => pointed false p [] 0)
            some (size.map fun x => if negative then -x else x)
          else none
        | [] => none
      | _, _ => none

/-- A number with a point, or an infinite one or none at all by name, if the form is that of one. -/
def float? (cs : List Char) : Option (Except ReadError Float) :=
  let (negative, rest) := takeSign cs
  unsignedFloat? negative (rest.length < cs.length) rest

/-- The number of `least` to `most` digits, and what follows, if so many are there. -/
def takeDigits? (least most : Nat) (cs : List Char) : Option (Nat × List Char) :=
  let count := min most (cs.takeWhile Char.isDigit).length
  if least ≤ count then some (Text.value (cs.take count), cs.drop count) else none

/-- What follows a character, if it is there. -/
def dropChar? (c : Char) (cs : List Char) : Option (List Char) :=
  match cs with
  | d :: rest => if d = c then some rest else none
  | [] => none

def isSpace (c : Char) : Bool := c = ' ' || c = '\t'

/-- What follows the letter or the blanks between a date and a time. -/
def dropTimeMark? (cs : List Char) : Option (List Char) :=
  match cs with
  | c :: rest =>
    if c = 'T' || c = 't' then some rest
    else if isSpace c then some (rest.dropWhile isSpace)
    else none
  | [] => none

/-- Year, month and day with minus signs between them, and what follows. -/
def takeDay? (least : Nat) (cs : List Char) : Option ((Nat × Nat × Nat) × List Char) := do
  let (year, rest) ← takeDigits? 4 4 cs
  let (month, rest) ← takeDigits? least 2 (← dropChar? '-' rest)
  let (day, rest) ← takeDigits? least 2 (← dropChar? '-' rest)
  return ((year, month, day), rest)

/-- Hour, minute and second with colons between them, and what follows. -/
def takeClock? (cs : List Char) : Option ((Nat × Nat × Nat) × List Char) := do
  let (hour, rest) ← takeDigits? 1 2 cs
  let (minute, rest) ← takeDigits? 2 2 (← dropChar? ':' rest)
  let (second, rest) ← takeDigits? 2 2 (← dropChar? ':' rest)
  return ((hour, minute, second), rest)

/-- The millionths that digits behind a point stand for. Further digits do not count. -/
def millionths (ds : List Char) : Nat := Text.value ((ds ++ List.replicate 6 '0').take 6)

/-- Hours and minutes of a zone as minutes. -/
def zoneMinutes? (cs : List Char) : Option Int := do
  let (hours, rest) ← takeDigits? 1 2 cs
  if rest.isEmpty then return (60 * hours : Nat)
  else
    let (minutes, rest) ← takeDigits? 2 2 (← dropChar? ':' rest)
    if rest.isEmpty then return (60 * hours + minutes : Nat) else none

/-- The zone of a time, which may be missing. -/
def zone? (cs : List Char) : Option (Option Int) :=
  if cs.isEmpty then some none
  else match cs.dropWhile isSpace with
    | ['Z'] => some (some 0)
    | '+' :: rest => (zoneMinutes? rest).map some
    | '-' :: rest => (zoneMinutes? rest).map fun z => some (-z)
    | _ => none

/-- The moment of a day and a time, if calendar and clock have it. -/
def momentOf (day : Nat × Nat × Nat) (clock : Option (Option Clock)) : Except ReadError Moment :=
  match Day.ofParts? day.1 day.2.1 day.2.2, clock with
  | some d, none => .ok ⟨d, none⟩
  | some d, some (some c) => .ok ⟨d, some c⟩
  | _, _ => .error .unconvertible

/-- A day, if the form is that of one. Month and day have two digits. -/
def day? (cs : List Char) : Option (Except ReadError Moment) :=
  match takeDay? 2 cs with
  | some (day, []) => some (momentOf day none)
  | _ => none

/-- A day with a time, if the form is that of one. -/
def time? (cs : List Char) : Option (Except ReadError Moment) := do
  let (day, rest) ← takeDay? 1 cs
  let ((hour, minute, second), rest) ← takeClock? (← dropTimeMark? rest)
  let (places, rest) := match rest with
    | '.' :: rest => (rest.takeWhile Char.isDigit, rest.dropWhile Char.isDigit)
    | _ => ([], rest)
  let zone ← zone? rest
  return momentOf day (some (Clock.ofParts? hour minute second (millionths places) zone))

/-- A day with or without a time, if the form is that of one. -/
def moment? (cs : List Char) : Option (Except ReadError Moment) := (day? cs).or (time? cs)

/-- The key under which a mapping takes in the entries of others. -/
def isMerge (cs : List Char) : Bool := cs = ['<', '<']

/-- The mark of a default value, which stands for itself as a key only. -/
def isDefault (cs : List Char) : Bool := cs = ['=']

/-- What the characters stand for. Marks have no value. -/
def value (cs : List Char) : Except ReadError Value :=
  let s := String.ofList cs
  if nullWords.contains s then .ok .null
  else match boolWords.lookup s, float? cs, integer? cs, moment? cs with
    | some b, _, _, _ => .ok (.bool b)
    | _, some x, _, _ => x.map .float
    | _, _, some n, _ => n.map .int
    | _, _, _, some m => m.map .moment
    | _, _, _, _ => if isMerge cs || isDefault cs then .error .malformed else .ok (.text s)

/-- Whether the characters stand for themselves. -/
def isText (cs : List Char) : Bool :=
  !(nullWords.contains (String.ofList cs) || (boolWords.lookup (String.ofList cs)).isSome ||
    (float? cs).isSome || (integer? cs).isSome || (moment? cs).isSome || isMerge cs ||
    isDefault cs)

end Absorption.Yaml.Plain
