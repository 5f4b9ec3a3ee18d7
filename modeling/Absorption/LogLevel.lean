import Absorption.Value

set_option autoImplicit false

/-!
Levels of logging by name.
-/

namespace Absorption.LogLevel

/-- The names of levels with their numbers. -/
def names : List (String × Int) :=
  [("CRITICAL", 50), ("FATAL", 50), ("ERROR", 40), ("WARNING", 30), ("WARN", 30), ("INFO", 20),
    ("DEBUG", 10), ("NOTSET", 0)]

/-- The capitals of a character, as far as they are ASCII letters: beside the ASCII letters a
dotless i, a long s and two ligatures have such. Other characters are kept, for no name of a level
has them. -/
def capitals (c : Char) : List Char :=
  if c = 'ı' then ['I']
  else if c = 'ſ' then ['S']
  else if c = 'ﬅ' || c = 'ﬆ' then ['S', 'T']
  else [c.toUpper]

/-- The name in capitals. -/
def inCapitals (name : String) : String := String.ofList (name.toList.flatMap capitals)

/-- The number of the level with a name in letters of either case. -/
def ofName? (name : String) : Option Int := names.lookup (inCapitals name)

/-- The line of a log record. -/
def recordFormat : String := "%(asctime)s - %(name)s - %(levelname)s - %(message)s"

/-- Why there is no level. -/
inductive Unset where
  /-- Nothing has the name. -/
  | unknownName
  /-- The name is that of a text that is no level. -/
  | notLevel
  /-- The value is neither a name nor a number, nor is what has the name. -/
  | wrongKind
  deriving DecidableEq, Repr

/-- Names in capitals of what is no level. -/
def otherNames : List (String × Unset) :=
  [("BASIC_FORMAT", .notLevel), ("_STYLES", .wrongKind)]

/-- The level without a request. -/
def standing : Int := 30

/-- The level that a script asks for, by name or by number; a verbose one logs all details, and one
that asks for nothing keeps the standing level. -/
def resolve (level : Value) (verbose : Bool) : Except Unset Value :=
  if verbose then .ok (.int 10)
  else match level with
    | .text s => match ofName? s with
      | some n => .ok (.int n)
      | none => .error ((otherNames.lookup (inCapitals s)).getD .unknownName)
    | .int n => .ok (.int n)
    | .bool b => .ok (.bool b)
    | .null => .ok (.int standing)
    | _ => .error .wrongKind

end Absorption.LogLevel
