import Absorption.Text.Digits
import Absorption.Yaml.Cursor
import Absorption.Yaml.Literal
import Absorption.Yaml.Token.Basic

set_option autoImplicit false

/-!
Tokens about nodes and documents: anchors, aliases, tags and directives.
-/

namespace Absorption.Yaml

/-- The place `count` characters of the line further. -/
def Cursor.advance (p : Cursor) (count : Nat) : Cursor :=
  ⟨p.line, p.column + count, p.rest.drop count⟩

/-- The place at a part of the text that begins further in the line. -/
def Cursor.at (p : Cursor) (rest : List Char) : Cursor :=
  p.advance (p.rest.length - rest.length)

/-- A character of a name. -/
def isNameChar (c : Char) : Bool := c.isAlphanum || c = '-' || c = '_'

/-- Whether a blank, a break or the end follows. Tabs do not count. -/
def atBlank (cs : List Char) : Bool :=
  match cs with
  | [] => true
  | c :: _ => c = ' ' || isBreak c

/-- The name behind the first character, and the place behind it. -/
def readName (p : Cursor) : Except ReadError (String × Cursor) :=
  let name := (p.rest.drop 1).takeWhile isNameChar
  let q := p.advance (1 + name.length)
  if name.isEmpty then .error .malformed
  else if atGap q.rest || q.rest.head?.any ("?:,]\x7d%@\x60".toList.contains ·) then
    .ok (String.ofList name, q)
  else .error .malformed

/-- The handle of a tag at an exclamation mark: that mark alone, or a name between two of them. -/
def takeHandle (cs : List Char) : Except ReadError (String × List Char) :=
  match cs with
  | '!' :: rest =>
    if rest.head? = some ' ' then .ok ("!", rest)
    else
      let name := rest.takeWhile isNameChar
      match rest.drop name.length with
      | '!' :: rest => .ok (String.ofList ('!' :: name ++ ['!']), rest)
      | _ => .error .malformed
  | _ => .error .malformed

/-- A character of the text of a tag. -/
def isTagChar (c : Char) : Bool :=
  c.isAlphanum || "-;/?:@&=+$,_.!~*'()[]".toList.contains c

/-- The bytes of the text of a tag, where a percent sign stands before the digits of a byte. -/
def takeTagBytes : (fuel : Nat) → List Char → Except ReadError (List UInt8 × List Char)
  | 0, _ => .error .malformed
  | fuel + 1, cs => match cs with
    | '%' :: rest => match rest with
      | a :: b :: rest => match Text.hexValue? a, Text.hexValue? b with
        | some a, some b => do
          let (bytes, rest) ← takeTagBytes fuel rest
          return (UInt8.ofNat (16 * a + b) :: bytes, rest)
        | _, _ => .error .malformed
      | _ => .error .malformed
    | c :: rest =>
      if isTagChar c then do
        let (bytes, rest) ← takeTagBytes fuel rest
        return (UInt8.ofNat c.toNat :: bytes, rest)
      else .ok ([], cs)
    | [] => .ok ([], [])

/-- The text of a tag, which is not empty. -/
def takeTagText (cs : List Char) : Except ReadError (String × List Char) := do
  let (bytes, rest) ← takeTagBytes (cs.length + 1) cs
  if bytes.isEmpty then .error .malformed
  else match String.fromUTF8? ⟨bytes.toArray⟩ with
    | some s => .ok (s, rest)
    | none => .error .malformed

/-- A tag at its exclamation mark, and the place behind it. -/
def readTag (p : Cursor) : Except ReadError (Token × Cursor) := do
  let behind := p.rest.drop 1
  let (token, rest) ←
    if behind.head? = some '<' then do
      let (s, rest) ← takeTagText (behind.drop 1)
      match rest with
      | '>' :: rest => pure (Token.tag none s, rest)
      | _ => .error .malformed
    else if atGap behind then pure (Token.tag none "!", behind)
    else if (behind.takeWhile fun c => !(c = ' ' || isBreak c)).contains '!' then do
      let (handle, rest) ← takeHandle p.rest
      let (s, rest) ← takeTagText rest
      pure (Token.tag (some handle) s, rest)
    else do
      let (s, rest) ← takeTagText behind
      pure (Token.tag (some "!") s, rest)
  if atBlank rest then return (token, p.at rest) else .error .malformed

/-- The digits of a version number, and what follows. -/
def takeVersionPart (cs : List Char) : Except ReadError (Nat × List Char) :=
  let ds := cs.takeWhile Char.isDigit
  if ds.isEmpty then .error .malformed
  else if digitLimit < ds.length then .error .unconvertible
  else .ok (Text.value ds, cs.drop ds.length)

/-- A version: two numbers with a point between them. -/
def takeVersion (cs : List Char) : Except ReadError (Directive × List Char) := do
  let (major, rest) ← takeVersionPart cs
  match rest with
  | '.' :: rest => do
    let (minor, rest) ← takeVersionPart rest
    return (.version major minor, rest)
  | _ => .error .malformed

/-- A handle and what it stands for, with blanks between them. -/
def takeHandleLine (cs : List Char) : Except ReadError (Directive × List Char) := do
  let (handle, rest) ← takeHandle cs
  if rest.head? = some ' ' then do
    let (expansion, rest) ← takeTagText (rest.dropWhile (· = ' '))
    return (.handle handle expansion, rest)
  else .error .malformed

/-- A directive at its percent sign, and the beginning of the next line. -/
def readDirective (p : Cursor) : Except ReadError (Directive × Cursor) := do
  let behind := p.rest.drop 1
  let name := behind.takeWhile isNameChar
  let rest := behind.drop name.length
  if name.isEmpty || !atBlank rest then .error .malformed
  else
    let (d, rest) ← match String.ofList name with
      | "YAML" => takeVersion (rest.dropWhile (· = ' '))
      | "TAG" => takeHandleLine (rest.dropWhile (· = ' '))
      | _ => .ok (Directive.other, rest.dropWhile (!isBreak ·))
    if !atBlank rest then .error .malformed
    else match dropLine? rest with
      | some [] => return (d, ⟨p.line, p.column + p.rest.length, []⟩)
      | some rest => return (d, ⟨p.line + 1, 0, rest⟩)
      | none => .error .malformed

end Absorption.Yaml
