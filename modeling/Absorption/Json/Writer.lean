import Absorption.Value

set_option autoImplicit false

/-!
Values as JSON text of ASCII characters, all on one line or one item to a line.
-/

namespace Absorption.Json

/-- A code unit of sixteen bits as an escape. -/
def escapedUnit (n : Nat) : List Char := '\\' :: 'u' :: Text.hex 4 n

/-- One character of a text. Beyond the first plane it takes the two surrogates of UTF-16. -/
def escapedChar (c : Char) : List Char :=
  let n := c.toNat
  if c = '"' then ['\\', '"']
  else if c = '\\' then ['\\', '\\']
  else if c = '\n' then ['\\', 'n']
  else if c = '\r' then ['\\', 'r']
  else if c = '\t' then ['\\', 't']
  else if n = 12 then ['\\', 'f']
  else if n = 8 then ['\\', 'b']
  else if 32 ≤ n ∧ n < 127 then [c]
  else if n < 0x10000 then escapedUnit n
  else
    let m := n - 0x10000
    escapedUnit (0xd800 + m / 0x400) ++ escapedUnit (0xdc00 + m % 0x400)

/-- A text between double quotation marks. -/
def textLiteral (s : String) : List Char := '"' :: s.toList.flatMap escapedChar ++ ['"']

/-- A binary64 number with the fewest digits, or by name if it is not finite. -/
def floatLiteral (x : Float) : List Char :=
  if x.isNaN then "NaN".toList
  else if x.isInf then (if x < 0.0 then "-Infinity".toList else "Infinity".toList)
  else (Decimal.exactText x).toList

/-- How a text is laid out. -/
inductive Layout where
  /-- On one line. -/
  | single
  /-- One item to a line, with a number of steps in front of it. -/
  | lines (step : List Char)
  deriving DecidableEq, Repr

namespace Layout

/-- One item to a line, with `indent` blanks for each level of nesting. -/
def indented (indent : Nat) : Layout := .lines (List.replicate indent ' ')

/-- What lies between a bracket and an item. -/
def lead (level : Nat) : Layout → List Char
  | single => []
  | lines step => '\n' :: (List.replicate level step).flatten

/-- What lies between two items. -/
def between (level : Nat) : Layout → List Char
  | single => [',', ' ']
  | lines step => ',' :: lead level (.lines step)

end Layout

/-- A key as a text literal. -/
def keyLiteral : Key → List Char
  | .null => "\"null\"".toList
  | .bool b => if b then "\"true\"".toList else "\"false\"".toList
  | .int n => '"' :: Text.integer n ++ ['"']
  | .float x => '"' :: floatLiteral x ++ ['"']
  | .text s => textLiteral s
  | .moment m => '"' :: m.text ++ ['"']

mutual

/-- Whether a value can be written: JSON has no moments. -/
def isWritable : Value → Bool
  | .moment _ => false
  | .list vs => areWritable vs
  | .map es => areEntriesWritable es
  | _ => true

def areWritable : List Value → Bool
  | [] => true
  | v :: vs => isWritable v && areWritable vs

def areEntriesWritable : List (Key × Value) → Bool
  | [] => true
  | e :: es => isEntryWritable e && areEntriesWritable es

def isEntryWritable : Key × Value → Bool
  | (k, v) => (match k with | .moment _ => false | _ => true) && isWritable v

end

variable (l : Layout)

mutual

/-- A value that begins on a line of a level. A moment is written as its text. -/
def writeAt (level : Nat) : Value → List Char
  | .null => "null".toList
  | .bool b => if b then "true".toList else "false".toList
  | .int n => Text.integer n
  | .float x => floatLiteral x
  | .text s => textLiteral s
  | .moment m => '"' :: m.text ++ ['"']
  | .list vs => match vs with
    | [] => ['[', ']']
    | v :: vs =>
      '[' :: l.lead (level + 1) ++ writeAt (level + 1) v ++ writeItems (level + 1) vs ++
        l.lead level ++ [']']
  | .map es => match es with
    | [] => ['\x7b', '\x7d']
    | e :: es =>
      '\x7b' :: l.lead (level + 1) ++ writeEntry (level + 1) e ++ writeEntries (level + 1) es ++
        l.lead level ++ ['\x7d']

/-- The items of a list after the first one. -/
def writeItems (level : Nat) : List Value → List Char
  | [] => []
  | v :: vs => l.between level ++ writeAt level v ++ writeItems level vs

/-- The entries of a mapping after the first one. -/
def writeEntries (level : Nat) : List (Key × Value) → List Char
  | [] => []
  | e :: es => l.between level ++ writeEntry level e ++ writeEntries level es

def writeEntry (level : Nat) : Key × Value → List Char
  | (k, v) => keyLiteral k ++ ':' :: ' ' :: writeAt level v

end

/-- A value as JSON text. -/
def write (l : Layout) (v : Value) : String := String.ofList (writeAt l 0 v)

end Absorption.Json
