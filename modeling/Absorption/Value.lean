import Absorption.Decimal.Layout
import Absorption.Moment
import Absorption.Text.Characters

set_option autoImplicit false

/-!
Values of settings: what a configuration file can hold. Whole numbers and binary64 numbers are
kept apart, and mappings keep the order of their entries. A text may not stand for a value
(`ReadError`).
-/

namespace Absorption

/-- A key of a mapping. -/
inductive Key where
  | null
  | bool (b : Bool)
  | int (n : Int)
  | float (x : Float)
  | text (s : String)
  | moment (m : Moment)
  deriving Inhabited

/-- A value of a configuration. -/
inductive Value where
  | null
  | bool (b : Bool)
  | int (n : Int)
  | float (x : Float)
  | text (s : String)
  | moment (m : Moment)
  | list (items : List Value)
  | map (entries : List (Key × Value))
  deriving Inhabited

namespace Value

/-- Whether the binary64 number is exactly the integer. -/
def isExactly (x : Float) (n : Int) : Bool :=
  match Decimal.Binary.ofFloat x with
  | .finite negative m q =>
    let f := Decimal.Fraction.scaled m 2 q
    f.numerator == n.natAbs * f.denominator && (n == 0 || (negative == decide (n < 0)))
  | _ => false

/-- Equality of two numbers by value, whatever their kinds are. What is no number is equal only to
its like, and that only if `sameNaN` says so. -/
def sameNumber (sameNaN : Bool) : Int ⊕ Float → Int ⊕ Float → Bool
  | .inl m, .inl n => m == n
  | .inl m, .inr x => isExactly x m
  | .inr x, .inl n => isExactly x n
  | .inr x, .inr y => x == y || (sameNaN && x.isNaN && y.isNaN)

end Value

namespace Key

/-- The key as a value. -/
def toValue : Key → Value
  | .null => .null
  | .bool b => .bool b
  | .int n => .int n
  | .float x => .float x
  | .text s => .text s
  | .moment m => .moment m

/-- A number as an integer or a binary64 number; truth values count as zero and one. -/
def number? : Key → Option (Int ⊕ Float)
  | .bool b => some (.inl (if b then 1 else 0))
  | .int n => some (.inl n)
  | .float x => some (.inr x)
  | _ => none

/-- Whether two keys lead to the same entry. Numbers are compared by value. -/
def same (sameNaN : Bool) : Key → Key → Bool
  | .null, .null => true
  | .text s, .text t => s == t
  | .moment a, .moment b => a.same b
  | j, k => match j.number?, k.number? with
    | some x, some y => Value.sameNumber sameNaN x y
    | _, _ => false

end Key

namespace Value

/-- The value as a key. Collections are no keys. -/
def key? : Value → Option Key
  | .null => some .null
  | .bool b => some (.bool b)
  | .int n => some (.int n)
  | .float x => some (.float x)
  | .text s => some (.text s)
  | .moment m => some (.moment m)
  | .list _ | .map _ => none

/-- A mapping whose keys are texts. -/
def record (fields : List (String × Value)) : Value :=
  .map (fields.map fun f => (.text f.1, f.2))

/-- The value of the first entry under a text. -/
def named (name : String) : List (Key × Value) → Option Value
  | [] => none
  | (.text s, v) :: rest => if s = name then some v else named name rest
  | _ :: rest => named name rest

/-- The value under a text, if the value is a mapping that has it. -/
def entry? (v : Value) (name : String) : Option Value :=
  match v with
  | .map entries => named name entries
  | _ => none

/-- Entries with a key set: an entry that is there keeps its place and its key. -/
def setEntry (key : Key) (v : Value) : List (Key × Value) → List (Key × Value)
  | [] => [(key, v)]
  | e :: rest => if Key.same false e.1 key then (e.1, v) :: rest else e :: setEntry key v rest

/-- Everything but null, false, zero and the empty text, list and mapping. -/
def isTruthy : Value → Bool
  | .null => false
  | .bool b => b
  | .int n => n ≠ 0
  | .float x => !(x == 0.0)
  | .text s => s ≠ ""
  | .moment _ => true
  | .list items => !items.isEmpty
  | .map entries => !entries.isEmpty

/-- A number as an integer or a binary64 number; truth values count as zero and one. -/
def number? : Value → Option (Int ⊕ Float)
  | .bool b => some (.inl (if b then 1 else 0))
  | .int n => some (.inl n)
  | .float x => some (.inr x)
  | _ => none

variable (sameNaN : Bool)

mutual

/-- Equality of content: numbers by value, mappings whatever the order of their entries. -/
def agrees : Value → Value → Bool
  | .null, w => match w with
    | .null => true
    | _ => false
  | .text s, w => match w with
    | .text t => s == t
    | _ => false
  | .moment a, w => match w with
    | .moment b => a.same b
    | _ => false
  | .list vs, w => match w with
    | .list ws => agreesItems vs ws
    | _ => false
  | .map es, w => match w with
    | .map fs => es.length == fs.length && agreesEntries es fs
    | _ => false
  | .bool b, w => match w.number? with
    | some y => sameNumber sameNaN (.inl (if b then 1 else 0)) y
    | none => false
  | .int n, w => match w.number? with
    | some y => sameNumber sameNaN (.inl n) y
    | none => false
  | .float x, w => match w.number? with
    | some y => sameNumber sameNaN (.inr x) y
    | none => false

def agreesItems : List Value → List Value → Bool
  | [], ws => ws.isEmpty
  | v :: vs, ws => match ws with
    | [] => false
    | w :: ws => agrees v w && agreesItems vs ws

/-- Every entry of the first list has an equal one under the same key in the second. -/
def agreesEntries : List (Key × Value) → List (Key × Value) → Bool
  | [], _ => true
  | e :: es, fs => agreesEntry e fs && agreesEntries es fs

def agreesEntry : Key × Value → List (Key × Value) → Bool
  | (k, v), fs => match fs.find? fun f => Key.same sameNaN f.1 k with
    | some f => agrees v f.2
    | none => false

end

/-- Pieces of text with `separator` between them. -/
def joined (separator : String) (pieces : List String) : String := separator.intercalate pieces

/-- The name of a truth value. -/
def truthName (b : Bool) : String := if b then "True" else "False"

/-- The name of a missing value. -/
def nullName : String := "None"

end Value

/-- A key as it is shown inside a message: texts in quotation marks. -/
def Key.shown : Key → String
  | .null => Value.nullName
  | .bool b => Value.truthName b
  | .int n => Text.intText n
  | .float x => Decimal.exactText x
  | .text s => Text.quoted s
  | .moment m => String.ofList m.shown

namespace Value

mutual

/-- A value as it is shown inside a message: texts in quotation marks. -/
def shown : Value → String
  | .null => nullName
  | .bool b => truthName b
  | .int n => Text.intText n
  | .float x => Decimal.exactText x
  | .text s => Text.quoted s
  | .moment m => String.ofList m.shown
  | .list vs => "[" ++ joined ", " (shownItems vs) ++ "]"
  | .map es => "\x7b" ++ joined ", " (shownEntries es) ++ "\x7d"

def shownItems : List Value → List String
  | [] => []
  | v :: vs => shown v :: shownItems vs

def shownEntries : List (Key × Value) → List String
  | [] => []
  | e :: es => shownEntry e :: shownEntries es

def shownEntry : Key × Value → String
  | (k, v) => k.shown ++ ": " ++ shown v

end

/-- A value as a text of its own: a text is itself, and a moment is written out. -/
def display : Value → String
  | .text s => s
  | .moment m => String.ofList m.text
  | v => shown v

end Value

/-- Why a text is not read. -/
inductive ReadError where
  /-- It does not follow its format. -/
  | malformed
  /-- It holds a number or a code point that follows the format but has no value. -/
  | unconvertible
  /-- It holds a number whose places are beyond all binary64 numbers. -/
  | tooLarge
  /-- It says that a text is a number, and the text is empty. -/
  | noNumber
  /-- It says that a text is a truth value, and the text is none. -/
  | noTruth
  /-- It says that a text is a moment, and the text is none. -/
  | noMoment
  deriving DecidableEq, Repr

/-- The most decimal digits an integer may be written with. -/
def digitLimit : Nat := 4300

end Absorption
