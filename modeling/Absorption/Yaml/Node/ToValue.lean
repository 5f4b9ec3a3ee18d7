import Absorption.Yaml.Node.OfTokens
import Absorption.Yaml.Plain

set_option autoImplicit false

/-!
What nodes stand for. A mapping takes in the entries of other mappings that are given under the
merge key, but its own entries count more; of several entries with one key the last counts, at the
place of the first. Of several nodes that stand for nothing the one nearest to the root is
reported.
-/

namespace Absorption.Yaml.Node

/-- An exponent, whose sign may be missing, or nothing; other ends have no value. -/
def exponent? (cs : List Char) : Option Int :=
  match cs with
  | [] => some 0
  | e :: rest =>
    let (negative, ds) := Plain.takeSign rest
    if (e = 'e' || e = 'E') && !ds.isEmpty && ds.all Char.isDigit then
      some (if negative then -(Text.value ds : Int) else Text.value ds)
    else none

/-- A number with or without a point and an exponent. -/
def anyFloat (cs : List Char) : Except ReadError Float :=
  match Plain.float? cs with
  | some x => x
  | none =>
    let (negative, rest) := Plain.takeSign (Plain.ungrouped cs)
    let (whole, rest) := (rest.takeWhile Char.isDigit, rest.dropWhile Char.isDigit)
    let (places, tail) := match rest with
      | '.' :: rest => (rest.takeWhile Char.isDigit, rest.dropWhile Char.isDigit)
      | _ => ([], rest)
    match exponent? tail with
    | some e =>
      if (Plain.ungrouped cs).isEmpty then .error .noNumber
      else if whole.isEmpty && places.isEmpty then .error .unconvertible
      else .ok (Plain.pointed negative whole places e)
    | none => .error .unconvertible

/-- An integer, which may be octal with a letter in front. -/
def anyInteger (cs : List Char) : Except ReadError Int :=
  match Plain.integer? cs with
  | some n => n
  | none =>
    let (negative, rest) := Plain.takeSign (Plain.ungrouped cs)
    match rest with
    | [] => .error .noNumber
    | '0' :: o :: ds =>
      if (o = 'o' || o = 'O') && !ds.isEmpty && ds.all fun c => '0' ≤ c && c ≤ '7' then
        (Plain.radix 8 ds).map fun n => if negative then -(n : Int) else n
      else .error .unconvertible
    | _ => .error .unconvertible

/-- What a scalar stands for whose kind is given. -/
def ofTagged (tag : String) (cs : List Char) : Except ReadError Value :=
  if tag = coreTag "str" then .ok (.text (String.ofList cs))
  else if tag = coreTag "null" then .ok .null
  else if tag = coreTag "bool" then
    match Plain.boolWords.lookup (String.ofList (cs.map Char.toLower)) with
    | some b => .ok (.bool b)
    | none => .error .noTruth
  else if tag = coreTag "int" then (anyInteger cs).map .int
  else if tag = coreTag "float" then (anyFloat cs).map .float
  else if tag = coreTag "timestamp" then
    match Plain.moment? cs with
    | some m => m.map .moment
    | none => .error .noMoment
  else .error .malformed

/-- What a scalar stands for. -/
def ofScalar (basis : Basis) (cs : List Char) : Except ReadError Value :=
  match basis with
  | .form => Plain.value cs
  | .text => .ok (.text (String.ofList cs))
  | .tagged tag => ofTagged tag cs

/-- The key under which a mapping takes in the entries of others. -/
def isMerge : Node → Bool
  | .scalar .form cs => Plain.isMerge cs
  | .scalar (.tagged tag) _ => tag = coreTag "merge"
  | _ => false

/-- The key of a default value, which stands for its text. -/
def isDefault : Node → Bool
  | .scalar .form cs => Plain.isDefault cs
  | .scalar (.tagged tag) _ => tag = coreTag "value"
  | _ => false

/-- The entries that are a mapping's own. -/
def ownEntries (es : List (Node × Node)) : List (Node × Node) := es.filter fun e => !e.1.isMerge

mutual

/-- The entries of a mapping, behind those that it takes in. -/
def allEntries : Node → Except ReadError (List (Node × Node))
  | .mapping _ es => do
    return (← takenIn es) ++ ownEntries es
  | _ => .error .malformed

/-- What is taken in under the merge keys of some entries. -/
def takenIn : List (Node × Node) → Except ReadError (List (Node × Node))
  | [] => .ok []
  | e :: es => do
    return (← takenInBy e) ++ (← takenIn es)

/-- What is taken in under a key, if it is a merge key. -/
def takenInBy : Node × Node → Except ReadError (List (Node × Node))
  | (k, v) => if k.isMerge then sources v else .ok []

/-- The entries of a mapping, or of all mappings of a sequence, of which the first count most. -/
def sources : Node → Except ReadError (List (Node × Node))
  | .mapping _ es => do
    return (← takenIn es) ++ ownEntries es
  | .sequence _ items => allSources items
  | .scalar .. => .error .malformed

def allSources : List Node → Except ReadError (List (Node × Node))
  | [] => .ok []
  | n :: ns => do
    let first ← allEntries n
    return (← allSources ns) ++ first

end

/-- What a key stands for. Collections are no keys. -/
def toKey (n : Node) : Except ReadError Key :=
  if n.isDefault then .ok (.text "=")
  else match n with
    | .scalar basis cs => do
      match (← ofScalar basis cs).key? with
      | some k => return k
      | none => .error .malformed
    | _ => .error .malformed

/-- Whether a tag is that of a collection. -/
def isCollectionTag (tag : String) : Bool := tag = coreTag "seq" || tag = coreTag "map"

/-- Checks what stands for a value at once, if it is a scalar. What is or is said to be a collection
is checked later. -/
def check : Node → Except ReadError (List Node)
  | .scalar (.tagged tag) cs =>
    if isCollectionTag tag then .ok [.scalar (.tagged tag) cs]
    else (ofTagged tag cs).map fun _ => []
  | .scalar basis cs => (ofScalar basis cs).map fun _ => []
  | .sequence tag items =>
    if tag.all isCollectionTag then .ok [.sequence tag items] else .error .malformed
  | .mapping tag es =>
    if tag.all isCollectionTag then .ok [.mapping tag es] else .error .malformed

/-- Checks an entry: its key, and what stands for its value. -/
def checkEntry (e : Node × Node) : Except ReadError (List Node) := do
  let _ ← toKey e.1
  check e.2

/-- Checks the kind of a collection and what is in it, and gives the collections among that. -/
def checkInside : Node → Except ReadError (List Node)
  | .scalar .. => .error .malformed
  | .sequence tag items =>
    if tag.all (· = coreTag "seq") then return (← items.mapM check).flatten
    else .error .malformed
  | .mapping tag es => do
    if tag.all (· = coreTag "map") then
      return (← (← allEntries (.mapping tag es)).mapM checkEntry).flatten
    else .error .malformed

/-- Checks collections of one depth and then all that is in them; `fuel` bounds the depth. -/
def checkAll : (fuel : Nat) → List Node → Except ReadError Unit
  | 0, _ => .error .malformed
  | fuel + 1, nodes => do
    let inside := (← nodes.mapM checkInside).flatten
    if inside.isEmpty then return else checkAll fuel inside

/-- The value that a node stands for, if all in it stands for something. -/
def valueOf : (fuel : Nat) → Node → Except ReadError Value
  | 0, _ => .error .malformed
  | fuel + 1, n => match n with
    | .scalar basis cs => ofScalar basis cs
    | .sequence _ items => return .list (← items.mapM (valueOf fuel))
    | .mapping tag es => do
      let entries ← (← allEntries (.mapping tag es)).mapM fun e => do
        return (← toKey e.1, ← valueOf fuel e.2)
      return .map (entries.foldl (fun seen e => Value.setEntry e.1 e.2 seen) [])

/-- The value that a node of at most a depth stands for. -/
def toValue (depth : Nat) (n : Node) : Except ReadError Value := do
  checkAll (depth + 1) (← check n)
  valueOf (depth + 1) n

end Absorption.Yaml.Node
