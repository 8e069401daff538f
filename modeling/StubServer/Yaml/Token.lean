import StubServer.Text.Ranges

/-! # Tokens of a YAML stream

A stream is cut into indicators, directives, properties of nodes and scalars.  `Cursor` is a
place in the stream with its line and column, both counted from zero.
-/

namespace StubServer.Yaml

inductive Style where
  | plain
  | quoted
  | literal
  | folded
  deriving DecidableEq, Repr

inductive Token where
  | versionDirective (major minor : Nat)
  | tagDirective (handle expansion : String)
  | documentStart
  | documentEnd
  | blockSequenceStart
  | blockMappingStart
  | blockEnd
  | flowSequenceStart
  | flowSequenceEnd
  | flowMappingStart
  | flowMappingEnd
  | blockEntry
  | flowEntry
  | key
  | value
  | alias (name : String)
  | anchor (name : String)
  | tag (handle suffix : String)
  | scalar (text : String) (style : Style)
  deriving DecidableEq, Repr

/-- The characters that a stream may hold. -/
def isAllowed (c : Char) : Bool :=
  let n := c.toNat
  n == 9 || n == 10 || n == 13 || (0x20 ≤ n && n ≤ 0x7E) || n == 0x85 ||
    (0xA0 ≤ n && n ≤ 0xD7FF) || (0xE000 ≤ n && n ≤ 0xFFFD) || 0x10000 ≤ n

def isSpace (c : Char) : Bool := c == ' ' || c == '\t'

/-- The characters that end a line. -/
def isBreak (c : Char) : Bool :=
  c == '\r' || c == '\n' || c.toNat == 0x85 || c.toNat == 0x2028 || c.toNat == 0x2029

def isNamePart (c : Char) : Bool := c.isAlphanum || c == '_' || c == '-'

structure Cursor where
  rest : List Char
  index : Nat
  line : Nat
  column : Nat

namespace Cursor

def ofChars (cs : List Char) : Cursor := ⟨cs, 0, 0, 0⟩

def peek (c : Cursor) : Option Char := c.rest.head?

/-- The character that many places ahead. -/
def ahead (c : Cursor) (n : Nat) : Option Char := (c.rest.drop n).head?

def has (c : Cursor) (x : Char) : Bool := c.peek == some x

def meets (c : Cursor) (p : Char → Bool) : Bool := (c.peek.map p).getD false

/-- The character that many places ahead is a blank, a line break or the end. -/
def endsWordAt (c : Cursor) (n : Nat) : Bool :=
  match c.ahead n with
  | none => true
  | some x => isSpace x || isBreak x

def endsLine (c : Cursor) : Bool :=
  match c.peek with
  | none => true
  | some x => isBreak x

def atSpace (c : Cursor) : Bool := c.meets isSpace

def atBreak (c : Cursor) : Bool := c.meets isBreak

/-- Steps over characters of one line. -/
def skip (c : Cursor) (n : Nat) : Cursor :=
  { c with rest := c.rest.drop n, index := c.index + n, column := c.column + n }

/-- Steps over a line break, which may be two characters long. -/
def skipLine (c : Cursor) : Cursor :=
  match c.rest with
  | '\r' :: '\n' :: rest => ⟨rest, c.index + 2, c.line + 1, 0⟩
  | _ :: rest => ⟨rest, c.index + 1, c.line + 1, 0⟩
  | [] => c

/-- What a line break stands for in a scalar. -/
def lineText (c : Cursor) : List Char :=
  match c.peek with
  | none => []
  | some x => if x.toNat = 0x2028 ∨ x.toNat = 0x2029 then [x] else ['\n']

/-- Steps over the longest run of a class of characters without line breaks. -/
def skipWhile (c : Cursor) (p : Char → Bool) : Cursor := c.skip (c.rest.takeWhile p).length

def taken (c : Cursor) (p : Char → Bool) : List Char := c.rest.takeWhile p

/-- Three equal characters that make up a line's first word. -/
def atMarker (c : Cursor) (x : Char) : Bool :=
  c.column == 0 && c.rest.take 3 == [x, x, x] && c.endsWordAt 3

def atDocumentMarker (c : Cursor) : Bool := c.atMarker '-' || c.atMarker '.'

end Cursor

end StubServer.Yaml
