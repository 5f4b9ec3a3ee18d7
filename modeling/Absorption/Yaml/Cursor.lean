set_option autoImplicit false

/-!
Places in a YAML text. Indentation has a meaning, so a place knows its line and its column.
-/

namespace Absorption.Yaml

/-- A place: how many lines and columns lie before it, and the text that follows. -/
structure Cursor where
  line : Nat
  column : Nat
  rest : List Char

/-- A character that ends a line. Carriage returns are gone before a text is read. -/
def isBreak (c : Char) : Bool :=
  c = '\n' || c.toNat = 0x85 || c.toNat = 0x2028 || c.toNat = 0x2029

/-- A line separator or paragraph separator is kept in a folded text; other breaks are alike. -/
def plainBreak (c : Char) : Char := if c.toNat = 0x85 then '\n' else c

/-- The mark of the byte order, which takes no column. -/
def isOrderMark (c : Char) : Bool := c.toNat = 0xfeff

/-- The columns that a character takes. -/
def width (c : Char) : Nat := if isOrderMark c then 0 else 1

/-- Whether no word goes on here: a blank, a tab, a break or the end follows. -/
def atGap (cs : List Char) : Bool :=
  match cs with
  | [] => true
  | c :: _ => c = ' ' || c = '\t' || isBreak c

/-- Whether a line begins with the marker of a start of a document. -/
def startsDocument (cs : List Char) : Bool :=
  match cs with
  | '-' :: '-' :: '-' :: rest => atGap rest
  | _ => false

/-- Whether a line begins with the marker of an end of a document. -/
def endsDocument (cs : List Char) : Bool :=
  match cs with
  | '.' :: '.' :: '.' :: rest => atGap rest
  | _ => false

def isMarker (cs : List Char) : Bool := startsDocument cs || endsDocument cs

namespace Cursor

/-- The place behind one character that is no break. -/
def next (p : Cursor) : Cursor :=
  match p.rest with
  | c :: rest => ⟨p.line, p.column + width c, rest⟩
  | [] => p

/-- The first place at or behind a place that holds no blank, comment or break. -/
def skipFrom (line column : Nat) (inComment : Bool) : List Char → Cursor
  | [] => ⟨line, column, []⟩
  | c :: cs =>
    if isBreak c then skipFrom (line + 1) 0 false cs
    else if inComment || c = '#' then skipFrom line (column + 1) true cs
    else if c = ' ' then skipFrom line (column + 1) false cs
    else ⟨line, column, c :: cs⟩

def skip (p : Cursor) : Cursor := skipFrom p.line p.column false p.rest

end Cursor
end Absorption.Yaml
