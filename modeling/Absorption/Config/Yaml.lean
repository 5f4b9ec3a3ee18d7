import Absorption.Config.Json
import Absorption.Yaml.Node.ToValue
import Absorption.Yaml.Token.Lexer
import Absorption.Yaml.Writer

set_option autoImplicit false

/-!
Values and configurations as YAML texts. A text has one document at most: its tokens make a node,
and the node stands for a value.
-/

namespace Absorption
namespace Yaml

/-- Line ends by one character each. -/
def unifyBreaks : List Char → List Char
  | [] => []
  | '\r' :: '\n' :: cs => '\n' :: unifyBreaks cs
  | c :: cs => (if c = '\r' then '\n' else c) :: unifyBreaks cs

/-- A character that may stand in a YAML text. -/
def isAllowed (c : Char) : Bool :=
  let n := c.toNat
  n = 9 || n = 10 || n = 13 || (32 ≤ n && n ≤ 126) || n = 0x85 ||
    (0xa0 ≤ n && n ≤ 0xd7ff) || (0xe000 ≤ n && n ≤ 0xfffd) || 0x10000 ≤ n

/-- The first place of a text, behind a mark of the byte order. -/
def beginning (cs : List Char) : Cursor :=
  match cs with
  | c :: rest => if isOrderMark c then ⟨0, 0, rest⟩ else ⟨0, 0, cs⟩
  | [] => ⟨0, 0, []⟩

/-- The value that a text stands for; an empty document is null. Each level of nesting takes a
token, so their number bounds the depth. -/
def read (s : String) : Except ReadError Value := do
  let cs := unifyBreaks s.toList
  if !cs.all isAllowed then .error .malformed
  else
    let tokens := Token.ofText (beginning cs)
    match ← Node.ofTokens tokens with
    | none => return .null
    | some n => n.toValue tokens.length

end Yaml

namespace Config

/-- The configuration that a YAML text describes. An empty document, or one that is false or zero,
describes the defaults. -/
def ofYaml (s : String) : Except LoadError Config :=
  match Yaml.read s with
  | .ok v => if v.isTruthy then ofValue v else .ok {}
  | .error e => .error (.unreadable e)

/-- A configuration as a YAML text. -/
def toYaml (c : Config) : String := Yaml.write c.entries

end Config
end Absorption
