import StubServer.Template.Pieces

/-! # White space around tags

A tilde drops all white space on its side of a tag.  A tag that shows nothing and stands alone on
its line takes the line with it: the blanks before it and, behind it, the rest of the line.
-/

namespace StubServer.Template

/-- A text to write, or a tag; `standsAlone` says so of a tag that takes its line with it. -/
inductive Item where
  | text (text : String)
  | tag (placed : PlacedTag) (standsAlone : Bool) (blanksBefore : Option String)
  deriving Repr

def isSpaceOrTab (c : Char) : Bool := c == ' ' || c == '\t'

def isLineEnd (c : Char) : Bool := c == '\n' || c == '\r'

/-- The text before a tag ends with a line that holds blanks at most. -/
def endsEmptyLine (isFirst : Bool) (written : List Char) : Bool :=
  match (Text.dropEndWhile isSpaceOrTab written).getLast? with
  | some c => isLineEnd c
  | none => isFirst

/-- The text behind a tag begins with a line that holds blanks at most. -/
def startsEmptyLine (isLast : Bool) (written : List Char) : Bool :=
  match written.dropWhile isSpaceOrTab with
  | c :: _ => isLineEnd c
  | [] => isLast && written.isEmpty

def trailingBlanks (written : List Char) : Option String :=
  match (written.reverse.takeWhile isSpaceOrTab).reverse with
  | [] => none
  | blanks => some (String.ofList blanks)

/-- Drops the rest of a line that holds nothing but blanks. -/
def dropEmptyLine (cs : List Char) : List Char :=
  match cs.dropWhile isSpaceOrTab with
  | '\r' :: '\n' :: rest => rest
  | '\n' :: rest => rest
  | rest => rest

/-- What the tags before a text ask of it. -/
structure Demand where
  dropsSpace : Bool
  dropsLine : Bool

def Demand.none : Demand := ⟨false, false⟩

def isSpaceOnly (cs : List Char) : Bool := cs.all Json.isSpace

/-- The text as the tags before it leave it, and what they still ask of the next one. -/
def Stretch.trimStart (s : Stretch) (d : Demand) : List Char × Demand :=
  if d.dropsSpace && !s.isRaw && isSpaceOnly s.written then ([], d)
  else if s.written.isEmpty then ([], d)
  else
    let rest : Demand := { d with dropsLine := false }
    if d.dropsSpace then (s.meant.dropWhile Text.isBlank, rest)
    else if d.dropsLine then (dropEmptyLine s.meant, rest)
    else (s.meant, rest)

/-- A tag that only shows a value never takes its line with it. -/
def Tag.mayStandAlone : Tag → Bool
  | .output _ => false
  | _ => true

/-- An inclusion leaves the blanks before it, which are those of its first line. -/
def Tag.keepsBlanks : Tag → Bool
  | .inclusion _ => true
  | _ => false

/-- The text as the tag behind it leaves it. -/
def trimEnd (tag : MarkedTag) (standsAlone : Bool) (text : List Char) : List Char :=
  let text := if tag.trimsBefore then Text.dropEndWhile Text.isBlank text else text
  if standsAlone && !tag.tag.keepsBlanks then Text.dropEndWhile isSpaceOrTab text else text

def demandAfter (tag : MarkedTag) (standsAlone : Bool) (d : Demand) : Demand :=
  match tag.tag with
  | .comment => { d with dropsLine := standsAlone }
  | .output _ => { d with dropsSpace := tag.trimsAfter }
  | _ => ⟨tag.trimsAfter, standsAlone⟩

/-- Goes on with a text and the tags behind it; `isFirst` says that nothing stands before it. -/
def layOutFrom (isFirst : Bool) (d : Demand) (before : Stretch) :
    List (PlacedTag × Stretch) → List Item
  | [] => [.text (String.ofList (before.trimStart d).1)]
  | (placed, behind) :: more =>
    let (text, d) := before.trimStart d
    let standsAlone := placed.tag.tag.mayStandAlone &&
      startsEmptyLine more.isEmpty behind.written && endsEmptyLine isFirst before.written
    -- whether a tag stands alone is seen on the text as written, before any of it is dropped
    let text := trimEnd placed.tag standsAlone text
    let blanks := if placed.tag.trimsBefore then none else trailingBlanks before.written
    .text (String.ofList text) :: .tag placed standsAlone blanks ::
      layOutFrom false (demandAfter placed.tag standsAlone d) behind more

def Pieces.layOut (pieces : Pieces) : List Item :=
  layOutFrom true Demand.none pieces.first pieces.rest

end StubServer.Template
