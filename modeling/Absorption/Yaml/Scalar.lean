import Absorption.Text.Digits
import Absorption.Value
import Absorption.Yaml.Cursor

set_option autoImplicit false

/-!
Scalars in a YAML text, with and without quotation marks. A scalar may go on over several lines:
blanks around a break are dropped, a single break counts as a blank, and of more breaks the first
one is dropped.
-/

namespace Absorption.Yaml

/-- What lies between the last word of a scalar and the present place. -/
inductive Gap where
  /-- Blanks of one line, the last one first. -/
  | spaces (cs : List Char)
  /-- Breaks: the first one, unless a backslash hides it, and the others, the last one first. -/
  | breaks (first : Option Char) (more : List Char)

/-- The characters that a gap stands for, the last one first. -/
def Gap.folded : Gap → List Char
  | spaces cs => cs
  | breaks none more => more
  | breaks (some c) more =>
    if c ≠ '\n' then more ++ [c] else if more.isEmpty then [' '] else more

/-- A scalar as far as it is read, the last character first, and the gap behind it. -/
structure Words where
  out : List Char := []
  gap : Gap := .spaces []

namespace Words

/-- A word goes on with a character. -/
def push (w : Words) (c : Char) : Words := ⟨c :: (w.gap.folded ++ w.out), .spaces []⟩

/-- Blanks count until a break follows, and not at the beginning of a line. -/
def space (w : Words) (c : Char) : Words :=
  match w.gap with
  | .spaces cs => { w with gap := .spaces (c :: cs) }
  | .breaks .. => w

def lineBreak (w : Words) (c : Char) : Words :=
  match w.gap with
  | .spaces _ => { w with gap := .breaks (some (plainBreak c)) [] }
  | .breaks first more => { w with gap := .breaks first (plainBreak c :: more) }

/-- A break behind a backslash joins two lines. -/
def joinLines (w : Words) : Words := ⟨w.gap.folded ++ w.out, .breaks none []⟩

/-- The text, with the gap at its end. -/
def closed (w : Words) : List Char := (w.gap.folded ++ w.out).reverse

/-- The text, without the gap at its end. -/
def trimmed (w : Words) : List Char := w.out.reverse

/-- Whether a character would begin a word. -/
def isBetween (w : Words) : Bool :=
  match w.gap with
  | .spaces cs => !cs.isEmpty
  | .breaks .. => true

/-- Whether a break came last. -/
def isBroken (w : Words) : Bool :=
  match w.gap with
  | .spaces _ => false
  | .breaks .. => true

end Words

/-- The character that a letter behind a backslash stands for. -/
def escape? (c : Char) : Option Char :=
  match c with
  | '0' => some (Char.ofNat 0)
  | 'a' => some (Char.ofNat 7)
  | 'b' => some (Char.ofNat 8)
  | 't' => some '\t'
  | '\t' => some '\t'
  | 'n' => some '\n'
  | 'v' => some (Char.ofNat 11)
  | 'f' => some (Char.ofNat 12)
  | 'r' => some '\r'
  | 'e' => some (Char.ofNat 27)
  | ' ' => some ' '
  | '"' => some '"'
  | '\\' => some '\\'
  | '/' => some '/'
  | 'N' => some (Char.ofNat 0x85)
  | '_' => some (Char.ofNat 0xa0)
  | 'L' => some (Char.ofNat 0x2028)
  | 'P' => some (Char.ofNat 0x2029)
  | _ => none

/-- How many hexadecimal digits follow a letter behind a backslash. -/
def codeWidth? (c : Char) : Option Nat :=
  match c with
  | 'x' => some 2
  | 'u' => some 4
  | 'U' => some 8
  | _ => none

/-- The character of a code point; one that is no character is replaced. -/
def charOfCode (n : Nat) : Char := if n.isValidChar then Char.ofNat n else Char.ofNat 0xfffd

/-- A text behind its opening quotation mark, and the place behind the closing one. `code` holds how
many digits of a code point are still to come, and its value so far. -/
def readQuoted (mark : Char) (line column : Nat) (w : Words) (code : Option (Nat × Nat)) :
    List Char → Except ReadError (List Char × Cursor)
  | [] => .error .malformed
  | c :: cs =>
    match code with
    | some (left, n) =>
      match Text.hexValue? c with
      | none => .error .malformed
      | some d =>
        let n := 16 * n + d
        if 1 < left then readQuoted mark line (column + 1) w (some (left - 1, n)) cs
        else if 0x10ffff < n then .error .unconvertible
        else readQuoted mark line (column + 1) (w.push (charOfCode n)) none cs
    | none =>
      if isBreak c then
        if isMarker cs then .error .malformed
        else readQuoted mark (line + 1) 0 (w.lineBreak c) none cs
      else if c = ' ' || c = '\t' then readQuoted mark line (column + 1) (w.space c) none cs
      else if c = mark then
        match mark, cs with
        | '\'', '\'' :: cs => readQuoted mark line (column + 2) (w.push mark) none cs
        | _, _ => .ok (w.closed, ⟨line, column + 1, cs⟩)
      else if mark = '"' && c = '\\' then
        match cs with
        | [] => .error .malformed
        | e :: cs =>
          if isBreak e then
            if isMarker cs then .error .malformed
            else readQuoted mark (line + 1) 0 w.joinLines none cs
          else match codeWidth? e, escape? e with
            | some n, _ => readQuoted mark line (column + 2) w (some (n, 0)) cs
            | none, some d => readQuoted mark line (column + 2) (w.push d) none cs
            | none, none => .error .malformed
      else readQuoted mark line (column + width c) (w.push c) none cs

/-- An indicator that has a meaning within brackets wherever it stands. -/
def isFlowIndicator (c : Char) : Bool :=
  c = ',' || c = '?' || c = '[' || c = ']' || c = '\x7b' || c = '\x7d'

/-- Whether a colon followed by this text ends a scalar. -/
def endsKey (inFlow : Bool) (cs : List Char) : Bool :=
  atGap cs || match cs with
  | c :: _ => inFlow && (c = ',' || c = '[' || c = ']' || c = '\x7b' || c = '\x7d')
  | [] => true

/-- Whether a scalar without quotation marks ends before a character. -/
def endsPlain (inFlow : Bool) (c : Char) (cs : List Char) : Bool :=
  c = '\t' || (c = ':' && endsKey inFlow cs) || (inFlow && isFlowIndicator c)

/-- The rest of a scalar without quotation marks, and the place behind its last word. A line that is
not indented to column `least` is no part of it. -/
def readPlain (inFlow : Bool) (least : Int) (line column : Nat) (w : Words) (last : Cursor) :
    List Char → List Char × Cursor
  | [] => (w.trimmed, last)
  | c :: cs =>
    if isBreak c then
      if isMarker cs then (w.trimmed, last)
      else readPlain inFlow least (line + 1) 0 (w.lineBreak c) last cs
    else if c = ' ' then readPlain inFlow least line (column + 1) (w.space c) last cs
    else if endsPlain inFlow c cs || (w.isBetween && c = '#') ||
        (w.isBroken && !inFlow && column < least) then (w.trimmed, last)
    else
      let column := column + width c
      readPlain inFlow least line column (w.push c) ⟨line, column, cs⟩ cs

/-- A character that cannot begin a scalar without quotation marks. -/
def isReserved (c : Char) : Bool := ",[]\x7b\x7d#&*!|>'\"%@\x60".toList.contains c

/-- Whether a scalar without quotation marks begins here. -/
def startsPlain (inFlow : Bool) (cs : List Char) : Bool :=
  match cs with
  | [] => false
  | c :: rest =>
    if c = '-' then !atGap rest
    else if c = '?' || c = ':' then !inFlow && !atGap rest
    else !(c = ' ' || c = '\t' || isBreak c || isReserved c)

end Absorption.Yaml
