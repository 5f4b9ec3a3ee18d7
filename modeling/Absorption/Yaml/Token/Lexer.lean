import Absorption.Yaml.Scalar
import Absorption.Yaml.Token.Property

set_option autoImplicit false

/-!
The tokens of a text, one after the other. Whether a token is a key is seen only at the colon behind
it, so a place where a key may have begun is remembered until a colon follows or none can follow any
more: a key with its colon takes one line and at most 1024 characters.
-/

namespace Absorption.Yaml

/-- A token that is a key if a colon follows. -/
structure PendingKey where
  /-- How many brackets are open around it. -/
  depth : Nat
  /-- The index of the token. -/
  token : Nat
  line : Nat
  column : Nat
  /-- Nothing but a key can stand here. -/
  required : Bool

/-- How far a text is read. -/
inductive Progress where
  | reading
  | finished
  | broken (e : ReadError)

/-- A text that is being cut into tokens. -/
structure Lexer where
  place : Cursor
  tokens : Array Token := #[]
  /-- The columns of the open block collections, the innermost first. -/
  indents : List Nat := []
  /-- The number of open brackets. -/
  depth : Nat := 0
  /-- Whether a key may begin here. -/
  mayKey : Bool := true
  pending : List PendingKey := []
  progress : Progress := .reading

/-- The longest distance between a key and its colon. -/
def keyLimit : Nat := 1024

namespace Lexer

/-- The column of the innermost block collection; without one it is minus one. -/
def indent (l : Lexer) : Int := (l.indents.head?.map Int.ofNat).getD (-1)

/-- The text cannot be read on. -/
def stop (l : Lexer) (e : ReadError) : Lexer := { l with progress := .broken e }

/-- A token, and the place behind it. -/
def emit (l : Lexer) (t : Token) (p : Cursor) : Lexer :=
  { l with tokens := l.tokens.push t, place := p }

/-- The ends of the block collections that are indented further than a column. -/
def unwoundTo (column : Int) : List Nat → Array Token → List Nat × Array Token
  | [], tokens => ([], tokens)
  | i :: indents, tokens =>
    if column < i then unwoundTo column indents (tokens.push .blockEnd) else (i :: indents, tokens)

/-- Block collections end where a line begins further left, but not within brackets. -/
def unwind (l : Lexer) (column : Int) : Lexer :=
  if l.depth ≠ 0 then l
  else
    let (indents, tokens) := unwoundTo column l.indents l.tokens
    { l with indents, tokens }

/-- A block collection begins at a column, if none began there; its token is put at an index. -/
def openBlock (l : Lexer) (column index : Nat) (t : Token) : Lexer :=
  if l.indent < column then
    { l with
      indents := column :: l.indents
      tokens := l.tokens.insertIdxIfInBounds index t }
  else l

/-- The token that may be a key at the present depth. -/
def candidate? (l : Lexer) : Option PendingKey := l.pending.find? (·.depth = l.depth)

/-- No token before the present place is a key any more at this depth. -/
def forget (l : Lexer) : Lexer :=
  if (l.candidate?.map PendingKey.required).getD false then l.stop .malformed
  else { l with pending := l.pending.filter (·.depth ≠ l.depth) }

/-- The next token is a key if a colon follows, provided that a key may begin here. -/
def remember (l : Lexer) : Lexer :=
  if l.mayKey then
    let m := l.forget
    { m with pending := {
        depth := l.depth
        token := l.tokens.size
        line := l.place.line
        column := l.place.column
        required := l.depth = 0 && l.indent = l.place.column } :: m.pending }
  else l

/-- Whether a key can still end at a place. -/
def reaches (k : PendingKey) (p : Cursor) : Bool :=
  k.line = p.line && p.column ≤ k.column + keyLimit

/-- Drops the keys that are too far away. -/
def dropStale (l : Lexer) : Lexer :=
  if l.pending.any fun k => k.required && !reaches k l.place then l.stop .malformed
  else { l with pending := l.pending.filter (reaches · l.place) }

/-- The end of the text. -/
def finish (l : Lexer) : Lexer :=
  let l := (l.unwind (-1)).forget
  match l.progress with
  | .reading => { l.emit .finish l.place with progress := .finished }
  | _ => l

/-- The token of a scalar or of an alias, an anchor or a tag. A key may begin with it. -/
def node (l : Lexer) (read : Cursor → Except ReadError (Token × Cursor)) : Lexer :=
  let l := { l.remember with mayKey := false }
  match l.progress, read l.place with
  | .reading, .ok (t, p) => l.emit t p
  | .reading, .error e => l.stop e
  | _, _ => l

/-- A line about the document behind it. -/
def directive (l : Lexer) : Lexer :=
  let l := { (l.unwind (-1)).forget with mayKey := false }
  match l.progress, readDirective l.place with
  | .reading, .ok (d, p) => l.emit (.directive d) p
  | .reading, .error e => l.stop e
  | _, _ => l

/-- The beginning or the end of a document. -/
def marker (l : Lexer) (t : Token) : Lexer :=
  let l := { (l.unwind (-1)).forget with mayKey := false }
  l.emit t (l.place.advance 3)

def openBracket (l : Lexer) (t : Token) : Lexer :=
  let l := l.remember
  { l.emit t l.place.next with depth := l.depth + 1, mayKey := true }

def closeBracket (l : Lexer) (t : Token) : Lexer :=
  let l := l.forget
  if l.depth = 0 then l.stop .malformed
  else { l.emit t l.place.next with depth := l.depth - 1, mayKey := false }

def comma (l : Lexer) : Lexer :=
  let l := { l.forget with mayKey := true }
  l.emit .comma l.place.next

/-- A dash, a question mark or a colon, of which the first in a line begin a block collection. -/
def indicator (l : Lexer) (t collection : Token) (mayKey : Bool) : Lexer :=
  if l.depth = 0 && !l.mayKey then l.stop .malformed
  else
    let m := if l.depth = 0 then l.openBlock l.place.column l.tokens.size collection else l
    let m := { m.forget with mayKey }
    m.emit t m.place.next

/-- A colon. What may have been a key before it is one, and a block mapping may begin with it. -/
def colon (l : Lexer) : Lexer :=
  match l.candidate? with
  | some k =>
    let m := { l with
      pending := l.pending.filter (·.depth ≠ l.depth)
      tokens := l.tokens.insertIdxIfInBounds k.token .key
      mayKey := false }
    let m := if l.depth = 0 then m.openBlock k.column k.token .blockMapping else m
    m.emit .value m.place.next
  | none => l.indicator .value .blockMapping (l.depth = 0)

/-- A scalar that takes whole lines. A key may follow it. -/
def literal (l : Lexer) (folded : Bool) : Lexer :=
  let m := { l.forget with mayKey := true }
  match m.progress, readLiteral folded m.indent m.place.next with
  | .reading, .ok (s, p) => m.emit (.scalar false s) p
  | .reading, .error e => m.stop e
  | _, _ => m

/-- A text between quotation marks. -/
def quoted (mark : Char) (p : Cursor) : Except ReadError (Token × Cursor) := do
  let (s, q) ← readQuoted mark p.line (p.column + 1) {} none p.next.rest
  return (.scalar false s, q)

/-- A text without quotation marks. -/
def plain (l : Lexer) (p : Cursor) : Except ReadError (Token × Cursor) :=
  let (s, q) := readPlain (l.depth ≠ 0) (l.indent + 1) p.line p.column {} p p.rest
  .ok (.scalar true s, q)

/-- The token that begins here. -/
def next (l : Lexer) : Lexer :=
  match l.place.rest with
  | [] => l.finish
  | c :: rest =>
    let first := l.place.column = 0
    let inFlow := l.depth ≠ 0
    if first && c = '%' then l.directive
    else if first && startsDocument l.place.rest then l.marker .documentStart
    else if first && endsDocument l.place.rest then l.marker .documentEnd
    else if c = '[' then l.openBracket .openSequence
    else if c = '\x7b' then l.openBracket .openMapping
    else if c = ']' then l.closeBracket .closeSequence
    else if c = '\x7d' then l.closeBracket .closeMapping
    else if c = ',' then l.comma
    else if c = '-' && atGap rest then l.indicator .item .blockSequence true
    else if c = '?' && (inFlow || atGap rest) then l.indicator .key .blockMapping (!inFlow)
    else if c = ':' && (inFlow || atGap rest) then l.colon
    else if c = '*' then l.node fun p => (readName p).map fun r => (.alias r.1, r.2)
    else if c = '&' then l.node fun p => (readName p).map fun r => (.anchor r.1, r.2)
    else if c = '!' then l.node readTag
    else if c = '|' && !inFlow then l.literal false
    else if c = '>' && !inFlow then l.literal true
    else if c = '\'' || c = '"' then l.node (quoted c)
    else if startsPlain inFlow l.place.rest then l.node l.plain
    else l.stop .malformed

/-- One more token, behind blanks, comments and breaks. A key may begin on a new line. -/
def step (l : Lexer) : Lexer :=
  let p := l.place.skip
  let l := { l with place := p, mayKey := l.mayKey || (l.depth = 0 && l.place.line < p.line) }
  let l := l.dropStale
  match l.progress with
  | .reading => (l.unwind l.place.column).next
  | _ => l

/-- All tokens; `fuel` bounds their number. -/
def run : (fuel : Nat) → Lexer → Lexer
  | 0, l => l.stop .malformed
  | fuel + 1, l => match l.step with
    | m => match m.progress with
      | .reading => run fuel m
      | _ => m

/-- The number of tokens of which it is known whether they are keys. -/
def settled (l : Lexer) : Nat := l.pending.foldl (fun n k => min n k.token) l.tokens.size

/-- The tokens as far as the text can be read. -/
def result (l : Lexer) : List Token :=
  match l.progress with
  | .finished => l.tokens.toList
  | .reading => l.tokens.toList.take l.settled ++ [.broken .malformed]
  | .broken e => l.tokens.toList.take l.settled ++ [.broken e]

end Lexer

/-- The tokens of a text. Each takes a character, beside the end. -/
def Token.ofText (p : Cursor) : List Token :=
  (Lexer.run (p.rest.length + 1) { place := p }).result

end Absorption.Yaml
