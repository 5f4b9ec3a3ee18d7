import Absorption.Yaml.Token.Basic

set_option autoImplicit false

/-!
The nodes of a YAML document: scalars, sequences and mappings, before it is decided what the scalars
stand for. They are read from tokens. A name is given to one node only, and stands for it from its
end on.
-/

namespace Absorption.Yaml

/-- How it is decided what a scalar stands for. -/
inductive Basis where
  /-- By its form. -/
  | form
  /-- It is a text. -/
  | text
  /-- By the kind that it is given. -/
  | tagged (tag : String)
  deriving DecidableEq, Repr

/-- A node. A collection may be given a kind. -/
inductive Node where
  | scalar (basis : Basis) (text : List Char)
  | sequence (tag : Option String) (items : List Node)
  | mapping (tag : Option String) (entries : List (Node × Node))

namespace Node

/-- The node of a value that is missing. -/
def empty : Node := .scalar .form []

end Node

/-- Tokens that are being read. -/
structure Reading where
  tokens : List Token
  /-- The nodes that have a name. -/
  anchors : List (String × Node) := []
  /-- What the handles of tags stand for. -/
  handles : List (String × String) := []

/-- A part of the reading of tokens. -/
abbrev Reader := StateT Reading (Except ReadError)

/-- The kinds that YAML itself defines have this in front. -/
def coreTag (name : String) : String := "tag:yaml.org,2002:" ++ name

/-- The handles that need no directive. -/
def commonHandles : List (String × String) := [("!", "!"), ("!!", coreTag "")]

namespace Reader

/-- The next token, which stays. -/
def peek : Reader Token := do
  return (← get).tokens.headD .finish

/-- Steps over the next token. -/
def skip : Reader Unit := modify fun r => { r with tokens := r.tokens.drop 1 }

/-- Whether the next token is one of some tokens. -/
def sees (ts : List Token) : Reader Bool := do
  return ts.contains (← peek)

/-- Steps over the next token if it is `t`. -/
def accept (t : Token) : Reader Bool := do
  if (← peek) = t then
    skip
    return true
  else return false

/-- Nothing can go on with the next token. -/
def unexpected {β : Type} : Reader β := do
  match ← peek with
  | .broken e => throw e
  | _ => throw .malformed

/-- Steps over a token that must be there. -/
def expect (t : Token) : Reader Unit := do
  if !(← accept t) then unexpected

/-- A tag in full. -/
def fullTag (handle : Option String) (suffix : String) : Reader String := do
  match handle with
  | none => return suffix
  | some h => match (← get).handles.lookup h with
    | some expansion => return expansion ++ suffix
    | none => throw .malformed

/-- An anchor, if one is next. -/
def anchor? : Reader (Option String) := do
  match ← peek with
  | .anchor name => do
    skip
    return some name
  | _ => return none

/-- A tag, if one is next. -/
def tag? : Reader (Option (Option String × String)) := do
  match ← peek with
  | .tag handle suffix => do
    skip
    return some (handle, suffix)
  | _ => return none

/-- The anchor and the tag of a node, in either order. -/
def properties : Reader (Option String × Option String) := do
  let first ← anchor?
  let tag ← tag?
  let anchor ← if first.isNone && tag.isSome then anchor? else pure first
  match tag with
  | none => return (anchor, none)
  | some (handle, suffix) => return (anchor, some (← fullTag handle suffix))

/-- A name is not given twice. -/
def checkName (name : Option String) : Reader Unit := do
  match name with
  | some n => if ((← get).anchors.lookup n).isSome then throw .malformed
  | none => return

/-- Gives a name to a node. -/
def register (name : Option String) (n : Node) : Reader Node := do
  checkName name
  match name with
  | some s => modify fun r => { r with anchors := (s, n) :: r.anchors }
  | none => return n
  return n

/-- The node that has a name. -/
def named (name : String) : Reader Node := do
  match (← get).anchors.lookup name with
  | some n => return n
  | none => throw .malformed

/-- How it is decided what a scalar stands for; the tag `!` alone asks for its form. -/
def basisOf (plain : Bool) (tag : Option String) : Basis :=
  match tag with
  | none => if plain then .form else .text
  | some t => if t = "!" then .form else .tagged t

/-- The kind of a collection; the tag `!` alone says nothing. -/
def kindOf (tag : Option String) : Option String := tag.filter (· ≠ "!")

/-- Where a node stands: what may be a collection there. -/
inductive Place where
  /-- Within brackets only collections in brackets. -/
  | flow
  /-- All collections. -/
  | block
  /-- All collections, and behind a key also items that are indented like it. -/
  | behindKey
  deriving DecidableEq, Repr

mutual

/-- A node; `fuel` bounds the steps that follow one another. -/
def node : (fuel : Nat) → Place → Reader Node
  | 0, _ => throw .malformed
  | fuel + 1, place => do
    match ← peek with
    | .alias name => do
      skip
      named name
    | _ => do
      let (anchor, tag) ← properties
      checkName anchor
      match ← peek, place with
      | .scalar plain text, _ => do
        skip
        register anchor (.scalar (basisOf plain tag) text)
      | .openSequence, _ => do
        skip
        register anchor (.sequence (kindOf tag) (← flowItems fuel true))
      | .openMapping, _ => do
        skip
        register anchor (.mapping (kindOf tag) (← flowEntries fuel true))
      | .item, .behindKey => register anchor (.sequence (kindOf tag) (← looseItems fuel))
      | .blockSequence, .block | .blockSequence, .behindKey => do
        skip
        register anchor (.sequence (kindOf tag) (← blockItems fuel))
      | .blockMapping, .block | .blockMapping, .behindKey => do
        skip
        register anchor (.mapping (kindOf tag) (← blockEntries fuel))
      | _, _ =>
        if anchor.isSome || tag.isSome then register anchor (.scalar (basisOf true tag) [])
        else unexpected

/-- A node that is missing before some tokens. -/
def nodeUnless : (fuel : Nat) → Place → (ends : List Token) → Reader Node
  | 0, _, _ => throw .malformed
  | fuel + 1, place, ends => do
    if ← sees ends then return .empty else node fuel place

/-- The items of a block sequence, up to its end. -/
def blockItems : (fuel : Nat) → Reader (List Node)
  | 0 => throw .malformed
  | fuel + 1 => do
    if ← accept .item then
      let n ← nodeUnless fuel .block [.item, .blockEnd]
      return n :: (← blockItems fuel)
    else
      expect .blockEnd
      return []

/-- The items of a sequence that is indented like its key. -/
def looseItems : (fuel : Nat) → Reader (List Node)
  | 0 => throw .malformed
  | fuel + 1 => do
    if ← accept .item then
      let n ← nodeUnless fuel .block [.item, .key, .value, .blockEnd]
      return n :: (← looseItems fuel)
    else return []

/-- The entries of a block mapping, up to its end. -/
def blockEntries : (fuel : Nat) → Reader (List (Node × Node))
  | 0 => throw .malformed
  | fuel + 1 => do
    if ← accept .key then
      let k ← nodeUnless fuel .behindKey [.key, .value, .blockEnd]
      let v ←
        if ← accept .value then nodeUnless fuel .behindKey [.key, .value, .blockEnd]
        else pure .empty
      return (k, v) :: (← blockEntries fuel)
    else
      expect .blockEnd
      return []

/-- The items of a sequence in brackets, up to the closing one. A key with a value is a mapping. -/
def flowItems : (fuel : Nat) → (first : Bool) → Reader (List Node)
  | 0, _ => throw .malformed
  | fuel + 1, first => do
    if ← accept .closeSequence then return []
    else
      if !first then expect .comma
      if ← accept .closeSequence then return []
      else
        let n ←
          if ← accept .key then do
            let k ← nodeUnless fuel .flow [.value, .comma, .closeSequence]
            let v ←
              if ← accept .value then nodeUnless fuel .flow [.comma, .closeSequence]
              else pure .empty
            pure (.mapping none [(k, v)])
          else node fuel .flow
        return n :: (← flowItems fuel false)

/-- The entries of a mapping in brackets, up to the closing one. A key may stand alone. -/
def flowEntries : (fuel : Nat) → (first : Bool) → Reader (List (Node × Node))
  | 0, _ => throw .malformed
  | fuel + 1, first => do
    if ← accept .closeMapping then return []
    else
      if !first then expect .comma
      if ← accept .closeMapping then return []
      else if ← accept .key then
        let k ← nodeUnless fuel .flow [.value, .comma, .closeMapping]
        let v ←
          if ← accept .value then nodeUnless fuel .flow [.comma, .closeMapping]
          else pure .empty
        return (k, v) :: (← flowEntries fuel false)
      else
        let k ← node fuel .flow
        return (k, .empty) :: (← flowEntries fuel false)

end

/-- The lines about a document. The version is given once and is 1, and no handle is given twice. -/
def directives : (fuel : Nat) → (version : Bool) → Reader Unit
  | 0, _ => throw .malformed
  | fuel + 1, version => do
    match ← peek with
    | .directive (.version major _) => do
      skip
      if version || major ≠ 1 then throw .malformed
      directives fuel true
    | .directive (.handle handle expansion) => do
      skip
      if ((← get).handles.lookup handle).isSome then throw .malformed
      modify fun r => { r with handles := (handle, expansion) :: r.handles }
      directives fuel version
    | .directive .other => do
      skip
      directives fuel version
    | _ => modify fun r => { r with handles := r.handles ++ commonHandles }

/-- Steps over the ends of documents. -/
def skipEnds : (fuel : Nat) → Reader Unit
  | 0 => return
  | fuel + 1 => do
    if ← accept .documentEnd then skipEnds fuel

/-- Whether the next token belongs to a directive. -/
def seesDirective : Reader Bool := do
  match ← peek with
  | .directive _ => return true
  | _ => return false

/-- The only document of a text, if there is one. -/
def document (fuel : Nat) : Reader (Option Node) := do
  if (← sees [.documentStart, .finish]) || (← seesDirective) then
    if ← sees [.finish] then return none
    else
      directives fuel false
      expect .documentStart
      if (← sees [.documentStart, .documentEnd, .finish]) || (← seesDirective) then
        skipEnds fuel
        expect .finish
        return some .empty
      else
        let n ← node fuel .block
        skipEnds fuel
        expect .finish
        return some n
  else
    modify fun r => { r with handles := commonHandles }
    let n ← node fuel .block
    skipEnds fuel
    expect .finish
    return some n

end Reader

/-- The node of the only document among tokens, if there is one. No more than four steps lead from
one token to the next. -/
def Node.ofTokens (tokens : List Token) : Except ReadError (Option Node) := do
  let (n, _) ← (Reader.document (4 * tokens.length + 4)).run { tokens }
  return n

end Absorption.Yaml
