import StubServer.Template.Tag

/-! # Texts and tags

A template is cut into texts and the tags between them: there is a text before the first tag,
between any two, and behind the last, each of which may be empty.  A backslash in front of braces
makes them text.
-/

namespace StubServer.Template

/-- A text between tags, as written and as meant. -/
structure Stretch where
  written : List Char
  meant : List Char
  /-- The body of a raw block. -/
  isRaw : Bool
  deriving Repr

structure PlacedTag where
  position : Position
  tag : MarkedTag
  deriving Repr

/-- The first text, and every tag with the text behind it. -/
structure Pieces where
  first : Stretch
  rest : List (PlacedTag × Stretch)
  deriving Repr

/-- A text with what follows it. -/
structure StretchRead where
  written : List Char
  meant : List Char
  rest : List Char

def StretchRead.push (written meant : List Char) (r : StretchRead) : StretchRead :=
  ⟨written ++ r.written, meant ++ r.meant, r.rest⟩

def openingBraces : List Char := "\x7b\x7b".toList

def fourBraces : List Char := "\x7b\x7b\x7b\x7b".toList

def isBackslash (c : Char) : Bool := c == '\\'

/-- How many of the characters behind a backslash are text because of it: two or four braces, or
further backslashes in front of braces.  It is none when the backslash is text itself. -/
def escaped (cs : List Char) : Nat :=
  let backslashes := cs.takeWhile isBackslash
  if !openingBraces.isPrefixOf (cs.dropWhile isBackslash) then 0
  else if !backslashes.isEmpty then backslashes.length
  else if fourBraces.isPrefixOf cs then 4
  else 2

/-- Reads text up to an opening mark; the number counts the characters that are text in any case.
One backslash before two braces goes, and the braces are text; of more backslashes before them the
first goes, and the mark counts. -/
def readText (opening : List Char) : Nat → List Char → StretchRead
  | _, [] => ⟨[], [], []⟩
  | sure + 1, c :: rest => (readText opening sure rest).push [c] [c]
  | 0, c :: rest =>
    if c = '\\' then
      match escaped rest with
      | 0 => (readText opening 0 rest).push [c] [c]
      | sure + 1 => (readText opening (sure + 1) rest).push [c] []
    else if opening.isPrefixOf (c :: rest) then ⟨[], [], c :: rest⟩
    else (readText opening 0 rest).push [c] [c]

/-- The place behind some text. -/
def Position.advance (p : Position) (passed : List Char) : Position :=
  passed.foldl (fun p c => if c = '\n' then ⟨p.line + 1, 1⟩ else ⟨p.line, p.column + 1⟩) p

/-- The body of a raw block and its closing tag. -/
def readRawBody (p : Position) (cs : List Char) : Read (Stretch × PlacedTag) :=
  let body := readText fourBraces 0 (skipSpace cs)
  let written := readPart cs (skipSpace cs) ++ body.written
  match Text.dropStart? fourBraces body.rest with
  | none => none
  | some inner =>
    (Tag.readCloseRaw? inner).map fun (tag, rest) =>
      ((⟨written, body.meant, true⟩, ⟨p.advance written, tag⟩), rest)

/-- Reads the tags from a place on, and the text behind each.  The number bounds how many there
are. -/
def readPieces : Nat → Position → List Char → Option (List (PlacedTag × Stretch))
  | 0, _, _ => none
  | fuel + 1, p, cs =>
    match cs with
    | [] => some []
    | '{' :: '{' :: inner =>
      let plain? := (Tag.read? inner).map fun (tag, rest) => ([], tag, p, rest)
      let found? := plain?.or do
        let inner ← Text.dropStart? fourBraces cs
        let (opening, rest) ← Tag.readOpenRaw? inner
        let ((body, closing), rest) ← readRawBody (p.advance (readPart cs rest)) rest
        return ([(⟨p, opening⟩, body)], closing.tag, closing.position, rest)
      match found? with
      | none => none
      | some (before, tag, place, rest) =>
        let text := readText openingBraces 0 rest
        let passed := readPart cs text.rest
        (readPieces fuel (p.advance passed) text.rest).map fun more =>
          before ++ (⟨place, tag⟩, ⟨text.written, text.meant, false⟩) :: more
    | _ => none

def Pieces.read? (text : String) : Option Pieces :=
  let first := readText openingBraces 0 text.toList
  let start : Position := ⟨1, 1⟩
  (readPieces (first.rest.length + 1) (start.advance first.written) first.rest).map fun rest =>
    ⟨⟨first.written, first.meant, false⟩, rest⟩

end StubServer.Template
