import Absorption.Value

set_option autoImplicit false

/-!
Values from JSON text. Beside the standard the names `NaN`, `Infinity` and `-Infinity` stand for
numbers, and of several entries with one key the last counts.
-/

namespace Absorption.Json

def isSpace (c : Char) : Bool := c = ' ' || c = '\t' || c = '\n' || c = '\r'

def skipSpace (cs : List Char) : List Char := cs.dropWhile isSpace

/-- The character that a letter behind a backslash stands for. -/
def escape? (c : Char) : Option Char :=
  match c with
  | '"' => some '"'
  | '\\' => some '\\'
  | '/' => some '/'
  | 'b' => some (Char.ofNat 8)
  | 'f' => some (Char.ofNat 12)
  | 'n' => some '\n'
  | 'r' => some '\r'
  | 't' => some '\t'
  | _ => none

/-- The code unit of four hexadecimal digits. -/
def unit? (a b c d : Char) : Option Nat := do
  let a ← Text.hexValue? a
  let b ← Text.hexValue? b
  let c ← Text.hexValue? c
  let d ← Text.hexValue? d
  return ((a * 16 + b) * 16 + c) * 16 + d

/-- The code points and surrogates of a text up to its closing quotation mark, and what follows. -/
def scanText : List Char → Option (List Nat × List Char)
  | [] => none
  | '"' :: rest => some ([], rest)
  | '\\' :: rest => match rest with
    | 'u' :: a :: b :: c :: d :: rest =>
      match unit? a b c d, scanText rest with
      | some n, some (units, rest) => some (n :: units, rest)
      | _, _ => none
    | e :: rest =>
      match escape? e, scanText rest with
      | some c, some (units, rest) => some (c.toNat :: units, rest)
      | _, _ => none
    | [] => none
  | c :: rest =>
    if c.toNat < 32 then none
    else match scanText rest with
      | some (units, rest) => some (c.toNat :: units, rest)
      | none => none

/-- A code point as a character. A surrogate without its partner has none and is replaced. -/
def charOfUnit (n : Nat) : Char := if n.isValidChar then Char.ofNat n else Char.ofNat 0xfffd

/-- The characters of code points and surrogates: a high and a low surrogate make one character. -/
def joinUnits : List Nat → List Char
  | [] => []
  | [m] => [charOfUnit m]
  | m :: n :: rest =>
    if 0xd800 ≤ m ∧ m < 0xdc00 ∧ 0xdc00 ≤ n ∧ n < 0xe000 then
      Char.ofNat (0x10000 + (m - 0xd800) * 0x400 + (n - 0xdc00)) :: joinUnits rest
    else charOfUnit m :: joinUnits (n :: rest)

/-- A text behind its opening quotation mark. -/
def readText (cs : List Char) : Except ReadError (String × List Char) :=
  match scanText cs with
  | some (units, rest) => .ok (String.ofList (joinUnits units), rest)
  | none => .error .malformed

/-- The digits at the front, and what follows. -/
def takeDigits (cs : List Char) : List Char × List Char :=
  (cs.takeWhile Char.isDigit, cs.dropWhile Char.isDigit)

/-- The digits of a whole part: a zero stands alone. -/
def takeWhole (cs : List Char) : List Char × List Char :=
  match cs with
  | '0' :: rest => (['0'], rest)
  | _ => takeDigits cs

/-- The digits behind a point, if a point with digits is there. -/
def takeFraction (cs : List Char) : Option (List Char) × List Char :=
  match cs with
  | '.' :: rest =>
    match takeDigits rest with
    | ([], _) => (none, cs)
    | (ds, rest) => (some ds, rest)
  | _ => (none, cs)

/-- The exponent, if a complete one is there. -/
def takeExponent (cs : List Char) : Option Int × List Char :=
  match cs with
  | [] => (none, cs)
  | e :: rest =>
    if e = 'e' ∨ e = 'E' then
      let (negative, rest) := match rest with
        | '-' :: rest => (true, rest)
        | '+' :: rest => (false, rest)
        | _ => (false, rest)
      match takeDigits rest with
      | ([], _) => (none, cs)
      | (ds, rest) =>
        (some (if negative then -(Text.value ds : Int) else Text.value ds), rest)
    else (none, cs)

/-- A number without its sign. It is an integer if it has neither point nor exponent. -/
def readUnsigned (negative : Bool) (cs : List Char) : Except ReadError (Value × List Char) :=
  match takeWhole cs with
  | ([], _) => .error .malformed
  | (whole, rest) =>
    let (fraction, rest) := takeFraction rest
    let (exponent, rest) := takeExponent rest
    match fraction, exponent with
    | none, none =>
      if digitLimit < whole.length then .error .unconvertible
      else
        let n : Int := Text.value whole
        .ok (.int (if negative then -n else n), rest)
    | _, _ =>
      let places := fraction.getD []
      let scale : Int := exponent.getD 0 - places.length
      .ok (.float (Decimal.toFloat negative ⟨Text.value (whole ++ places), scale⟩), rest)

mutual

/-- A value at the front of a text that starts with no space; `fuel` bounds the nesting. -/
def readValue : (fuel : Nat) → List Char → Except ReadError (Value × List Char)
  | 0, _ => .error .malformed
  | fuel + 1, cs => match cs with
    | [] => .error .malformed
    | '"' :: rest => do
      let (s, rest) ← readText rest
      return (.text s, rest)
    | '[' :: rest => match skipSpace rest with
      | ']' :: rest => .ok (.list [], rest)
      | rest => do
        let (v, rest) ← readValue fuel rest
        let (vs, rest) ← readItems fuel (skipSpace rest)
        return (.list (v :: vs), rest)
    | '\x7b' :: rest => match skipSpace rest with
      | '\x7d' :: rest => .ok (.map [], rest)
      | rest => do
        let (k, v, rest) ← readEntry fuel rest
        let (es, rest) ← readEntries fuel [(.text k, v)] (skipSpace rest)
        return (.map es, rest)
    | 'n' :: 'u' :: 'l' :: 'l' :: rest => .ok (.null, rest)
    | 't' :: 'r' :: 'u' :: 'e' :: rest => .ok (.bool true, rest)
    | 'f' :: 'a' :: 'l' :: 's' :: 'e' :: rest => .ok (.bool false, rest)
    | 'N' :: 'a' :: 'N' :: rest => .ok (.float (0.0 / 0.0), rest)
    | 'I' :: 'n' :: 'f' :: 'i' :: 'n' :: 'i' :: 't' :: 'y' :: rest => .ok (.float (1.0 / 0.0), rest)
    | '-' :: rest => match rest with
      | 'I' :: 'n' :: 'f' :: 'i' :: 'n' :: 'i' :: 't' :: 'y' :: rest =>
        .ok (.float (-1.0 / 0.0), rest)
      | _ => readUnsigned true rest
    | _ => readUnsigned false cs

/-- The items of a list after the first one. -/
def readItems : (fuel : Nat) → List Char → Except ReadError (List Value × List Char)
  | 0, _ => .error .malformed
  | fuel + 1, cs => match cs with
    | ']' :: rest => .ok ([], rest)
    | ',' :: rest => do
      let (v, rest) ← readValue fuel (skipSpace rest)
      let (vs, rest) ← readItems fuel (skipSpace rest)
      return (v :: vs, rest)
    | _ => .error .malformed

/-- The entries of a mapping after those in `seen`. -/
def readEntries : (fuel : Nat) → List (Key × Value) → List Char →
    Except ReadError (List (Key × Value) × List Char)
  | 0, _, _ => .error .malformed
  | fuel + 1, seen, cs => match cs with
    | '\x7d' :: rest => .ok (seen, rest)
    | ',' :: rest => do
      let (k, v, rest) ← readEntry fuel (skipSpace rest)
      readEntries fuel (Value.setEntry (.text k) v seen) (skipSpace rest)
    | _ => .error .malformed

/-- One entry: a key, a colon and a value. -/
def readEntry : (fuel : Nat) → List Char → Except ReadError (String × Value × List Char)
  | 0, _ => .error .malformed
  | fuel + 1, cs => match cs with
    | '"' :: rest => do
      let (k, rest) ← readText rest
      match skipSpace rest with
      | ':' :: rest =>
        let (v, rest) ← readValue fuel (skipSpace rest)
        return (k, v, rest)
      | _ => .error .malformed
    | _ => .error .malformed

end

/-- The value that a whole text stands for. Every step of the reading takes a character, but an
entry takes two steps, so twice the length is enough fuel. -/
def readChars (cs : List Char) : Except ReadError Value := do
  let (v, rest) ← readValue (2 * cs.length + 1) (skipSpace cs)
  if (skipSpace rest).isEmpty then .ok v else .error .malformed

/-- The value that a whole text stands for. -/
def read (s : String) : Except ReadError Value := readChars s.toList

end Absorption.Json
