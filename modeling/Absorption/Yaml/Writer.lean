import Absorption.Yaml.Cursor
import Absorption.Yaml.Plain

set_option autoImplicit false

/-!
Values as YAML text of ASCII characters: mappings and sequences by indentation, and lines that are
broken at blanks once they are longer than 80 characters. A text stands without quotation marks if
it is read as itself, between single ones if it holds nothing but printable characters and breaks,
and else between double ones.
-/

namespace Absorption.Yaml

/-- The column behind which a line is broken. -/
def bestWidth : Nat := 80

/-- A new line with an indentation. -/
def newLine (indent : Nat) : List Char := '\n' :: List.replicate indent ' '

def isPrintable (c : Char) : Bool := 32 ≤ c.toNat && c.toNat ≤ 126

/-- Whether an indicator at the beginning makes a text something else; `rest` follows it. -/
def isLeadingIndicator (c : Char) (rest : List Char) : Bool :=
  "#,[]\x7b\x7d&*!|>'\"%@\x60".toList.contains c ||
    ((c = '?' || c = ':' || c = '-') && (rest.isEmpty || rest.head? == some ' '))

/-- Whether a colon before a blank or a hash behind one is in a text. -/
def hasIndicator (before : Char) : List Char → Bool
  | [] => false
  | c :: rest =>
    (c = ':' && (rest.isEmpty || rest.head? == some ' ')) || (c = '#' && before = ' ') ||
      hasIndicator c rest

/-- Whether a text can stand without quotation marks. -/
def isPlain (cs : List Char) : Bool :=
  match cs with
  | [] => false
  | c :: rest =>
    cs.all isPrintable && c ≠ ' ' && cs.getLast? != some ' ' && !isLeadingIndicator c rest &&
      !hasIndicator c rest && !"---".toList.isPrefixOf cs && !"...".toList.isPrefixOf cs &&
      Plain.isText cs

/-- Whether a blank and a break are beside each other. -/
def hasBlankAtBreak : List Char → Bool
  | ' ' :: '\n' :: _ => true
  | '\n' :: ' ' :: _ => true
  | _ :: rest => hasBlankAtBreak rest
  | [] => false

/-- Whether a text can stand between single quotation marks. -/
def isSingle (cs : List Char) : Bool :=
  cs.all (fun c => isPrintable c || c = '\n') && !hasBlankAtBreak cs

/-- Where scalars are broken into lines. -/
structure Margin where
  /-- The indentation of the lines behind the first. -/
  indent : Nat
  /-- A key is not broken. -/
  splits : Bool

/-- Whether a line that has come to a column is to be broken. -/
def Margin.breaksAt (m : Margin) (column : Nat) : Bool := m.splits && bestWidth < column

/-- A text without quotation marks, from a column on; `blanks` lie before what follows. -/
def writePlain (m : Margin) (column blanks : Nat) : List Char → List Char
  | [] => []
  | c :: cs =>
    if c = ' ' then writePlain m column (blanks + 1) cs
    else if blanks = 1 && m.breaksAt column then
      newLine m.indent ++ c :: writePlain m (m.indent + 1) 0 cs
    else List.replicate blanks ' ' ++ c :: writePlain m (column + blanks + 1) 0 cs

/-- What lies before a word between single quotation marks. -/
inductive Before where
  | nothing
  /-- Blanks, and whether the text begins with them. -/
  | blanks (count : Nat) (first : Bool)
  | breaks (count : Nat)

/-- The rest of a text between single quotation marks, from a column on. A single blank may become a
break, and each break is written once more than it is meant. -/
def writeSingle (m : Margin) (column : Nat) (before : Before) (first : Bool) :
    List Char → List Char
  | [] => match before with
    | .nothing => []
    | .blanks n _ => List.replicate n ' '
    | .breaks n => List.replicate (n + 1) '\n' ++ List.replicate m.indent ' '
  | c :: cs =>
    if c = ' ' then
      match before with
      | .blanks n f => writeSingle m column (.blanks (n + 1) f) false cs
      | _ => writeSingle m column (.blanks 1 first) false cs
    else if c = '\n' then
      match before with
      | .breaks n => writeSingle m column (.breaks (n + 1)) false cs
      | _ => writeSingle m column (.breaks 1) false cs
    else
      let word := if c = '\'' then ['\'', '\''] else [c]
      match before with
      | .nothing => word ++ writeSingle m (column + word.length) .nothing false cs
      | .blanks n f =>
        if n = 1 && !f && m.breaksAt column then
          newLine m.indent ++ word ++ writeSingle m (m.indent + word.length) .nothing false cs
        else
          List.replicate n ' ' ++ word ++
            writeSingle m (column + n + word.length) .nothing false cs
      | .breaks n =>
        List.replicate (n + 1) '\n' ++ List.replicate m.indent ' ' ++ word ++
          writeSingle m (m.indent + word.length) .nothing false cs

/-- The letter that stands for a character behind a backslash. -/
def escapeLetter? (c : Char) : Option Char :=
  match c.toNat with
  | 0 => some '0'
  | 7 => some 'a'
  | 8 => some 'b'
  | 9 => some 't'
  | 10 => some 'n'
  | 11 => some 'v'
  | 12 => some 'f'
  | 13 => some 'r'
  | 27 => some 'e'
  | 34 => some '"'
  | 92 => some '\\'
  | 0x85 => some 'N'
  | 0xa0 => some '_'
  | 0x2028 => some 'L'
  | 0x2029 => some 'P'
  | _ => none

/-- A character that cannot stand for itself between double quotation marks. -/
def escaped (c : Char) : List Char :=
  let code (mark : Char) (count : Nat) : List Char :=
    '\\' :: mark :: (Text.hex count c.toNat).map Char.toUpper
  match escapeLetter? c with
  | some e => ['\\', e]
  | none =>
    if c.toNat ≤ 0xff then code 'x' 2
    else if c.toNat ≤ 0xffff then code 'u' 4
    else code 'U' 8

/-- A line broken behind a backslash. A blank that begins the next line has a backslash too. -/
def brokenLine (m : Margin) (next : Option Char) : List Char × Nat :=
  if next == some ' ' then ('\\' :: newLine m.indent ++ ['\\'], m.indent + 1)
  else ('\\' :: newLine m.indent, m.indent)

/-- The rest of a text between double quotation marks. The line has come to `column`, and `run`
characters behind that column stand for themselves. -/
def writeDouble (m : Margin) (column run : Nat) (first : Bool) : List Char → List Char
  | [] => []
  | c :: cs =>
    let inside := !first && !cs.isEmpty
    if c ≠ '"' && c ≠ '\\' && isPrintable c then
      if inside && (c = ' ' || run = 0) && m.breaksAt (column + run) then
        let (broken, column) := brokenLine m (some c)
        broken ++ c :: writeDouble m column 1 false cs
      else c :: writeDouble m column (run + 1) false cs
    else
      let code := escaped c
      let column := column + run + code.length
      if inside && m.breaksAt (column - 1) then
        let (broken, column) := brokenLine m cs.head?
        code ++ broken ++ writeDouble m column 0 false cs
      else code ++ writeDouble m column 0 false cs

/-- A text that begins at a column. -/
def writeText (m : Margin) (column : Nat) (cs : List Char) : List Char :=
  if isPlain cs then writePlain m column 0 cs
  else if isSingle cs then '\'' :: writeSingle m (column + 1) .nothing true cs ++ ['\'']
  else '"' :: writeDouble m (column + 1) 0 true cs ++ ['"']

/-- The digits of a number with an exponent get a point if they have none. -/
def withPoint (cs : List Char) : List Char :=
  if cs.contains '.' then cs
  else cs.flatMap fun c => if c = 'e' then ['.', '0', 'e'] else [c]

def floatText (x : Float) : List Char :=
  if x.isNaN then ".nan".toList
  else if x.isInf then (if x < 0.0 then "-.inf".toList else ".inf".toList)
  else withPoint (Decimal.exactText x).toList

/-- A scalar from a column on. -/
def writeKey (m : Margin) (column : Nat) : Key → List Char
  | .null => "null".toList
  | .bool b => if b then "true".toList else "false".toList
  | .int n => Text.integer n
  | .float x => floatText x
  | .text s => writeText m column s.toList
  | .moment t => t.text

/-- The length of a key, and of the name of its kind. -/
def keyLength : Key → Nat
  | .null => 10
  | .bool b => if b then 10 else 11
  | .int n => 5 + (Text.integer n).length
  | .float x => 7 + (floatText x).length
  | .text s => 5 + s.length
  | .moment t => 11 + t.text.length

/-- A key of one line that is neither empty nor too long. -/
def isSimpleKey (k : Key) : Bool :=
  keyLength k < 128 && match k with
  | .text s => s ≠ "" && !s.toList.any isBreak
  | _ => true

mutual

/-- A value behind the indicator that ends at `column`, in a collection that is indented to
`indent`. Behind a dash a collection begins in the same line. -/
def writeAt (indent column : Nat) (behindKey : Bool) : Value → List Char
  | .null => ' ' :: writeKey ⟨0, false⟩ 0 .null
  | .bool b => ' ' :: writeKey ⟨0, false⟩ 0 (.bool b)
  | .int n => ' ' :: writeKey ⟨0, false⟩ 0 (.int n)
  | .float x => ' ' :: writeKey ⟨0, false⟩ 0 (.float x)
  | .moment t => ' ' :: writePlain ⟨indent + 2, true⟩ (column + 1) 0 t.text
  | .text s => ' ' :: writeText ⟨indent + 2, true⟩ (column + 1) s.toList
  | .list vs => match vs with
    | [] => [' ', '[', ']']
    | v :: vs =>
      if behindKey then
        newLine indent ++ '-' :: writeAt indent (indent + 1) false v ++ writeItems indent vs
      else
        ' ' :: '-' :: writeAt (indent + 2) (indent + 3) false v ++ writeItems (indent + 2) vs
  | .map es => match es with
    | [] => [' ', '\x7b', '\x7d']
    | e :: es =>
      (if behindKey then newLine (indent + 2) else [' ']) ++ writeEntry (indent + 2) e ++
        writeEntries (indent + 2) es

/-- The items of a sequence, each on a new line. -/
def writeItems (indent : Nat) : List Value → List Char
  | [] => []
  | v :: vs => newLine indent ++ '-' :: writeAt indent (indent + 1) false v ++ writeItems indent vs

/-- The entries of a mapping, each on a new line. -/
def writeEntries (indent : Nat) : List (Key × Value) → List Char
  | [] => []
  | e :: es => newLine indent ++ writeEntry indent e ++ writeEntries indent es

/-- An entry; a key that is not simple stands behind a question mark. -/
def writeEntry (indent : Nat) : Key × Value → List Char
  | (k, v) =>
    if isSimpleKey k then
      let key := writeKey ⟨indent, false⟩ indent k
      key ++ ':' :: writeAt indent (indent + key.length + 1) true v
    else
      '?' :: ' ' :: writeKey ⟨indent + 2, true⟩ (indent + 2) k ++ newLine indent ++
        ':' :: writeAt indent (indent + 1) false v

end

/-- A mapping whose keys are texts as a YAML text. -/
def write (fields : List (String × Value)) : String :=
  match fields.map fun f => (Key.text f.1, f.2) with
  | [] => "\x7b\x7d\n"
  | e :: es => String.ofList (writeEntry 0 e ++ writeEntries 0 es ++ ['\n'])

end Absorption.Yaml
