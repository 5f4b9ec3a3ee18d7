import Absorption.Value

set_option autoImplicit false

/-!
The tokens of a YAML text. Indentation is expressed by tokens of its own: a block collection begins
where a dash, a question mark or a key stands further right than the collection around it, and ends
where a line begins further left.
-/

namespace Absorption.Yaml

/-- A line that says something about the document behind it. -/
inductive Directive where
  /-- The version of YAML that it is written in. -/
  | version (major minor : Nat)
  /-- What a handle at the beginning of tags stands for. -/
  | handle (handle expansion : String)
  /-- Anything else does not count. -/
  | other
  deriving DecidableEq, Repr

inductive Token where
  /-- A text, and whether it stands without quotation marks. -/
  | scalar (plain : Bool) (text : List Char)
  /-- A name for the node that follows. -/
  | anchor (name : String)
  /-- The node with a name. -/
  | alias (name : String)
  /-- The kind of the node that follows: a handle, if there is one, and the rest. -/
  | tag (handle : Option String) (suffix : String)
  | directive (d : Directive)
  | documentStart
  | documentEnd
  | blockSequence
  | blockMapping
  /-- The end of a block collection. -/
  | blockEnd
  /-- A dash before an item. -/
  | item
  /-- What follows is a key: there is a question mark, or a colon comes behind it. -/
  | key
  /-- The colon between a key and its value. -/
  | value
  | openSequence
  | closeSequence
  | openMapping
  | closeMapping
  | comma
  /-- The end of the text. -/
  | finish
  /-- The text cannot be read on from here. -/
  | broken (e : ReadError)
  deriving DecidableEq, Repr

end Absorption.Yaml
