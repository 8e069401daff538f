import StubServer.Template.Operand

/-! # Tags

A tag stands in double braces.  `Tag.read?` reads one from the front of a text, with the tildes
that ask for white space to be dropped before or behind it.  Which tags close and continue which
blocks is not looked at here.
-/

namespace StubServer.Template

inductive Tag where
  | comment
  | output (call : Call)
  | openBlock (call : Call) (names : List String)
  /-- A block whose body is text and nothing else. -/
  | openRaw (call : Call) (names : List String)
  | closeRaw (name : String)
  /-- Closes a block of any other kind. -/
  | close (name : String)
  | otherwise
  | otherwiseBlock (call : Call) (names : List String)
  | decorator (call : Call)
  | openDecorator (call : Call)
  | inclusion (call : Call)
  | openInclusion (call : Call)
  deriving Repr

structure MarkedTag where
  tag : Tag
  trimsBefore : Bool
  trimsAfter : Bool
  deriving Repr

namespace Tag

/-- An optional tilde. -/
def tilde (cs : List Char) : Bool × List Char :=
  match mark? "~" cs with
  | some rest => (true, rest)
  | none => (false, cs)

/-- The end of a tag, with a tilde before the braces or without. -/
def ending (braces : String) (cs : List Char) : Read Bool :=
  let (trims, rest) := tilde cs
  (mark? braces rest).map fun rest => (trims, rest)

def closingBraces : String := "\x7d\x7d"

def finish (trimsBefore : Bool) (tag : Tag) (cs : List Char) : Read MarkedTag :=
  (ending closingBraces cs).map fun (trimsAfter, rest) => (⟨tag, trimsBefore, trimsAfter⟩, rest)

/-! ## Comments -/

/-- What follows the first occurrence of a mark. -/
def dropThrough (mark : List Char) : List Char → Option (List Char)
  | [] => none
  | c :: rest =>
    match Text.dropStart? mark (c :: rest) with
    | some rest => some rest
    | none => dropThrough mark rest

/-- The rest behind a comment, of which the opening `!` has been read.  One that begins with two
dashes may hold braces, if two dashes end it. -/
def commentEnd (cs : List Char) : Option (List Char) :=
  let long := (Text.dropStart? "--".toList cs).bind (dropThrough "--\x7d\x7d".toList)
  long.or (dropThrough closingBraces.toList cs)

/-! ## Names of included templates -/

def isFileSymbol (c : Char) : Bool := isSymbol c || c == '/' || c == '.'

/-- The characters of a quoted name up to its end; a quote behind a backslash belongs to it. -/
def quotedEnd : List Char → Option (List Char)
  | [] => none
  | '\\' :: '\'' :: rest => quotedEnd rest
  | '\'' :: rest => some rest
  | _ :: rest => quotedEnd rest

/-- A name that may look like that of a file, or stand in quotes, which belong to it. -/
def fileName (cs : List Char) : Read String :=
  match cs with
  | '\'' :: '\'' :: _ => none
  | '\'' :: rest =>
    (quotedEnd rest).map fun after => (String.ofList (readPart cs after), after)
  | _ =>
    match cs.takeWhile isFileSymbol with
    | [] => none
    | name => some (String.ofList name, cs.dropWhile isFileSymbol)

def inclusionLine (cs : List Char) : Read Call :=
  let head : Read Expr := match fileName (skipSpace cs) with
    | some (name, rest) => some (.word name, rest)
    | none => (nameAlone cs).map fun (call, rest) => (call.head, rest)
  head.map fun (head, rest) =>
    let ((params, named), rest) := readOperands rest
    (⟨head, params, named⟩, rest)

/-! ## Reading -/

/-- The second part of a block: its mark alone, or its mark and the line of a further block. -/
def otherwise? (trimsBefore : Bool) (cs : List Char) : Read MarkedTag :=
  match (mark? "else" cs).or (mark? "^" cs) with
  | none => none
  | some rest =>
    (finish trimsBefore .otherwise rest).or
      ((line rest).bind fun ((call, names), rest) =>
        finish trimsBefore (.otherwiseBlock call names) rest)

/-- A tag that begins with a number sign. -/
def opening (trimsBefore : Bool) (cs : List Char) : Read MarkedTag :=
  match mark? "*" cs, mark? ">" cs with
  | some rest, _ =>
    (line rest).bind fun ((call, _), rest) => finish trimsBefore (.openDecorator call) rest
  | none, some rest =>
    (inclusionLine rest).bind fun (call, rest) => finish trimsBefore (.openInclusion call) rest
  | none, none =>
    (line cs).bind fun ((call, names), rest) => finish trimsBefore (.openBlock call names) rest

/-- The inside of a tag in braces of its own, which have been opened. -/
def inBraces (trimsBefore : Bool) (cs : List Char) : Read MarkedTag :=
  (callOrName cs).bind fun (call, rest) =>
    (mark? "\x7d" rest).bind fun rest => finish trimsBefore (.output call) rest

/-- The inside of a tag in two braces. -/
def inside (trimsBefore : Bool) (cs : List Char) : Read MarkedTag :=
  match skipSpace cs with
  | '#' :: rest => opening trimsBefore rest
  | '/' :: rest =>
    (fileName (skipSpace rest)).bind fun (name, rest) => finish trimsBefore (.close name) rest
  | '*' :: rest =>
    (line rest).bind fun ((call, _), rest) => finish trimsBefore (.decorator call) rest
  | '>' :: rest =>
    (inclusionLine rest).bind fun (call, rest) => finish trimsBefore (.inclusion call) rest
  | '&' :: rest =>
    (nameAlone rest).bind fun (call, rest) => finish trimsBefore (.output call) rest
  | '{' :: rest => inBraces trimsBefore rest
  | _ =>
    (otherwise? trimsBefore cs).or
      ((callOrName cs).bind fun (call, rest) => finish trimsBefore (.output call) rest)

/-- A tag in three braces, which have been opened. -/
def inThreeBraces (cs : List Char) : Read MarkedTag :=
  let (trimsBefore, rest) := tilde cs
  (callOrName rest).bind fun (call, rest) =>
    (ending "\x7d\x7d\x7d" rest).map fun (trimsAfter, rest) =>
      (⟨.output call, trimsBefore, trimsAfter⟩, rest)

/-- Reads a tag of which the two opening braces have been read. -/
def read? (cs : List Char) : Read MarkedTag :=
  let general :=
    let (trimsBefore, rest) := tilde cs
    inside trimsBefore rest
  match cs with
  | '!' :: rest => (commentEnd rest).map fun rest => (⟨.comment, false, false⟩, rest)
  | '{' :: rest => (inThreeBraces rest).or general
  | _ => general

/-! ## Raw blocks -/

def fourClosingBraces : String := "\x7d\x7d\x7d\x7d"

/-- The opening tag of a raw block, of which four braces have been read. -/
def readOpenRaw? (cs : List Char) : Read MarkedTag :=
  let (trimsBefore, rest) := tilde cs
  (line rest).bind fun ((call, names), rest) =>
    (ending fourClosingBraces rest).map fun (trimsAfter, rest) =>
      (⟨.openRaw call names, trimsBefore, trimsAfter⟩, rest)

/-- The closing tag of a raw block, of which four braces have been read. -/
def readCloseRaw? (cs : List Char) : Read MarkedTag :=
  let (trimsBefore, rest) := tilde cs
  (mark? "/" rest).bind fun rest =>
    (identifier (skipSpace rest)).bind fun (name, rest) =>
      (ending fourClosingBraces rest).map fun (trimsAfter, rest) =>
        (⟨.closeRaw name, trimsBefore, trimsAfter⟩, rest)

end Tag

end StubServer.Template
