import Absorption.Text.Digits
import Absorption.Value
import Absorption.Yaml.Cursor

set_option autoImplicit false

/-!
Scalars that take whole lines: behind a bar each line is kept, behind an angle lines are folded. How
far the lines are indented is written in the head or seen from the first line.
-/

namespace Absorption.Yaml

/-- What becomes of the breaks at the end. -/
inductive Ending where
  /-- All are dropped. -/
  | strip
  /-- The first is kept. -/
  | clip
  /-- All are kept. -/
  | keep
  deriving DecidableEq, Repr

/-- The head of a scalar of lines: its ending, and how far it is indented if that is written. -/
structure Head where
  ending : Ending := .clip
  indent : Option Nat := none

def ending? (c : Char) : Option Ending :=
  if c = '+' then some .keep else if c = '-' then some .strip else none

/-- The marks of a head, in either order, and what follows. An indentation is not zero. -/
def takeHead (cs : List Char) : Except ReadError (Head × List Char) :=
  match cs with
  | [] => .ok ({}, [])
  | c :: rest =>
    match ending? c with
    | some e => match rest with
      | d :: rest =>
        if d = '0' then .error .malformed
        else if d.isDigit then .ok (⟨e, some (Text.digitValue d)⟩, rest)
        else .ok (⟨e, none⟩, d :: rest)
      | [] => .ok (⟨e, none⟩, [])
    | none =>
      if c = '0' then .error .malformed
      else if c.isDigit then match rest with
        | d :: rest => match ending? d with
          | some e => .ok (⟨e, some (Text.digitValue c)⟩, rest)
          | none => .ok (⟨.clip, some (Text.digitValue c)⟩, d :: rest)
        | [] => .ok (⟨.clip, some (Text.digitValue c)⟩, [])
      else .ok ({}, cs)

/-- What follows the rest of a line that holds nothing but blanks and a comment. -/
def dropLine? (cs : List Char) : Option (List Char) :=
  let cs := cs.dropWhile (· = ' ')
  let cs := match cs with
    | '#' :: _ => cs.dropWhile (!isBreak ·)
    | _ => cs
  match cs with
  | [] => some []
  | c :: rest => if isBreak c then some rest else none

/-- The breaks of empty lines, the last one first, and the place behind them. Blanks are dropped up
to a column. -/
def emptyLines (indent : Nat) (breaks : List Char) (line column : Nat) :
    List Char → List Char × Cursor
  | [] => (breaks, ⟨line, column, []⟩)
  | c :: cs =>
    if c = ' ' && column < indent then emptyLines indent breaks line (column + 1) cs
    else if isBreak c then emptyLines indent (plainBreak c :: breaks) (line + 1) 0 cs
    else (breaks, ⟨line, column, c :: cs⟩)

/-- The breaks of empty lines, the last one first, the most blanks that any of them or the line
behind them begins with, and the place behind these. -/
def leadingLines (breaks : List Char) (most line column : Nat) :
    List Char → List Char × Nat × Cursor
  | [] => (breaks, most, ⟨line, column, []⟩)
  | c :: cs =>
    if c = ' ' then leadingLines breaks (max most (column + 1)) line (column + 1) cs
    else if isBreak c then leadingLines (plainBreak c :: breaks) most (line + 1) 0 cs
    else (breaks, most, ⟨line, column, c :: cs⟩)

/-- A scalar of lines as far as it is read. -/
structure Lines where
  /-- The text, the last character first. -/
  out : List Char := []
  /-- The break behind the last line, if there is one. -/
  last : List Char := []
  /-- The breaks of the empty lines behind it, the last one first. -/
  breaks : List Char

/-- The break between two lines: a single one is a blank if both begin with words. -/
def Lines.joined (l : Lines) (folds : Bool) : List Char :=
  if folds && l.last = ['\n'] then (if l.breaks.isEmpty then [' '] else []) else l.last

/-- The lines that are indented to a column; `fuel` bounds their number. -/
def readLines (folded : Bool) (indent : Nat) : (fuel : Nat) → Lines → Cursor → Lines × Cursor
  | 0, l, p => (l, p)
  | fuel + 1, l, p =>
    match p.rest with
    | [] => (l, p)
    | c :: _ =>
      if p.column ≠ indent then (l, p)
      else
        let words := p.rest.takeWhile (!isBreak ·)
        let out := words.reverse ++ (l.breaks ++ l.out)
        match p.rest.dropWhile (!isBreak ·) with
        | [] => (⟨out, [], []⟩, ⟨p.line, p.column + words.length, []⟩)
        | b :: rest =>
          let (breaks, q) := emptyLines indent [] (p.line + 1) 0 rest
          let l : Lines := ⟨out, [plainBreak b], breaks⟩
          match q.rest with
          | [] => (l, q)
          | d :: _ =>
            if q.column ≠ indent then (l, q)
            else
              let folds := folded && !(c = ' ' || c = '\t') && !(d = ' ' || d = '\t')
              readLines folded indent fuel { l with out := l.joined folds ++ out } q

/-- A scalar of lines behind its indicator, within a collection that is indented to `parent`, and
the place behind it. -/
def readLiteral (folded : Bool) (parent : Int) (p : Cursor) :
    Except ReadError (List Char × Cursor) := do
  let (head, rest) ← takeHead p.rest
  if !(rest.isEmpty || rest.head?.any fun c => c = ' ' || isBreak c) then .error .malformed
  else match dropLine? rest with
    | none => .error .malformed
    | some rest =>
      let least := max (parent + 1) 1
      let (breaks, indent, q) := match head.indent with
        | some n =>
          let indent := (least + n - 1).toNat
          let (breaks, q) := emptyLines indent [] (p.line + 1) 0 rest
          (breaks, indent, q)
        | none =>
          let (breaks, most, q) := leadingLines [] 0 (p.line + 1) 0 rest
          (breaks, max least.toNat most, q)
      let (l, q) := readLines folded indent rest.length ⟨[], [], breaks⟩ q
      let tail := match head.ending with
        | .strip => []
        | .clip => l.last
        | .keep => l.breaks ++ l.last
      return ((tail ++ l.out).reverse, q)

end Absorption.Yaml
