import StubServer.Text.Utf8
import StubServer.Yaml.Token

/-! # Reading the pieces of a YAML stream

Each reader takes a cursor at the first character of a piece and gives the piece with the cursor
behind it, or nothing when the stream is broken.  Loops take their bound from the characters that
are left.
-/

namespace StubServer.Yaml

abbrev Read (α : Type) := Option (α × Cursor)

def hexDigit? (c : Char) : Option Nat :=
  if c.isDigit || ('a' ≤ c && c ≤ 'f') || ('A' ≤ c && c ≤ 'F') then
    some (Text.Ranges.hexValue c)
  else none

def hexNumber? (cs : List Char) : Option Nat :=
  cs.foldlM (fun n c => (hexDigit? c).map fun d => n * 16 + d) 0

/-! ## Directives, anchors and tags -/

/-- A number of at most nine digits. -/
def versionNumber (c : Cursor) : Read Nat :=
  let digits := c.taken Char.isDigit
  if digits.isEmpty || digits.length > 9 then none
  else some (digits.foldl (fun n d => n * 10 + (d.toNat - 48)) 0, c.skip digits.length)

/-- The bytes of escapes `%xx` that stand one after the other. -/
def escapedBytes : List Char → Option (List UInt8 × List Char)
  | '%' :: a :: b :: rest =>
    match hexNumber? [a, b] with
    | none => none
    | some n => (escapedBytes rest).map fun (bytes, left) => (UInt8.ofNat n :: bytes, left)
  | '%' :: _ => none
  | rest => some ([], rest)

def isUriChar (verbatim : Bool) (c : Char) : Bool :=
  isNamePart c || ";/?:@&=+$.%!~*'()".toList.contains c ||
    (verbatim && (c == ',' || c == '[' || c == ']'))

/-- Undoes the escapes in the characters of a tag. -/
def unescapeUri : Nat → List Char → Option (List Char)
  | _, [] => some []
  | 0, _ => none
  | fuel + 1, '%' :: rest =>
    match escapedBytes ('%' :: rest) with
    | none => none
    | some (bytes, left) =>
      match Text.Utf8.decode? bytes, unescapeUri fuel left with
      | some s, some more => some (s.toList ++ more)
      | _, _ => none
  | fuel + 1, c :: rest => (unescapeUri fuel rest).map (c :: ·)

/-- Reads the characters of a tag behind `head`, whose exclamation mark is left out. -/
def uri (verbatim : Bool) (head : List Char) (c : Cursor) : Read (List Char) :=
  let cs := c.taken (isUriChar verbatim)
  if head.isEmpty && cs.isEmpty then none
  else
    (unescapeUri (cs.length + 1) cs).map fun text => (head.drop 1 ++ text, c.skip cs.length)

/-- Reads `!`, `!name!` or, outside directives, `!name`. -/
def tagHandle (inDirective : Bool) (c : Cursor) : Read (List Char) :=
  if !c.has '!' then none
  else
    let name := (c.skip 1).taken isNamePart
    let after := c.skip (1 + name.length)
    if after.has '!' then some ('!' :: name ++ ['!'], after.skip 1)
    else if inDirective && !name.isEmpty then none
    else some ('!' :: name, after)

def tag (inFlow : Bool) (c : Cursor) : Read Token :=
  let found : Read Token :=
    if c.ahead 1 = some '<' then
      match uri true [] (c.skip 2) with
      | none => none
      | some (suffix, c) =>
        if c.has '>' then some (.tag "" (String.ofList suffix), c.skip 1) else none
    else
      match tagHandle false c with
      | none => none
      | some (handle, c) =>
        if 1 < handle.length && handle.getLast? = some '!' then
          (uri false [] c).map fun (suffix, c) =>
            (.tag (String.ofList handle) (String.ofList suffix), c)
        else
          (uri false handle c).map fun (suffix, c) =>
            (if suffix.isEmpty then .tag "" "!" else .tag "!" (String.ofList suffix), c)
  match found with
  | none => none
  | some (token, c) =>
    if (inFlow && c.has ',') || c.endsWordAt 0 then some (token, c) else none

def anchorName (c : Cursor) : Read String :=
  let name := (c.skip 1).taken isNamePart
  let after := c.skip (1 + name.length)
  if name.isEmpty then none
  else if after.endsWordAt 0 || after.meets "?:,]\x7d%@`".toList.contains then
    some (String.ofList name, after)
  else none

/-- Steps to the end of a line that holds nothing more than a comment. -/
def finishLine (c : Cursor) : Option Cursor :=
  let c := c.skipWhile isSpace
  let c := if c.has '#' then c.skipWhile (fun x => !isBreak x) else c
  if c.endsLine then some (if c.atBreak then c.skipLine else c) else none

def directive (c : Cursor) : Read Token :=
  let name := (c.skip 1).taken isNamePart
  let after := c.skip (1 + name.length)
  if name.isEmpty || !after.endsWordAt 0 then none
  else
    let found : Read Token :=
      if name = ['Y', 'A', 'M', 'L'] then
        match versionNumber (after.skipWhile isSpace) with
        | none => none
        | some (major, c) =>
          if c.has '.' then
            (versionNumber (c.skip 1)).map fun (minor, c) => (.versionDirective major minor, c)
          else none
      else if name = ['T', 'A', 'G'] then
        match tagHandle true (after.skipWhile isSpace) with
        | none => none
        | some (handle, c) =>
          if !c.atSpace then none
          else
            match uri true [] (c.skipWhile isSpace) with
            | none => none
            | some (expansion, c) =>
              if c.endsWordAt 0 then
                some (.tagDirective (String.ofList handle) (String.ofList expansion), c)
              else none
      else none
    match found with
    | none => none
    | some (token, c) => (finishLine c).map fun c => (token, c)

/-! ## Scalars -/

/-- The text between two lines of a scalar: the first break becomes a blank unless more follow. -/
def fold (first more : List Char) : List Char :=
  if first.head? = some '\n' then (if more.isEmpty then [' '] else more) else first ++ more

/-- Blanks and line breaks inside a scalar. -/
structure Gap where
  blanks : List Char
  firstBreak : List Char
  moreBreaks : List Char
  /-- A line break has been met. -/
  broken : Bool

def Gap.none : Gap := ⟨[], [], [], false⟩

def Gap.text (g : Gap) : List Char :=
  if g.broken then fold g.firstBreak g.moreBreaks else g.blanks

/-- Takes in blanks and line breaks.  `badTab` says where a tab must not stand. -/
def readGap (badTab : Cursor → Bool) : Nat → Gap → Cursor → Read Gap
  | 0, _, _ => none
  | fuel + 1, g, c =>
    match c.peek with
    | none => some (g, c)
    | some x =>
      if isSpace x then
        if g.broken && badTab c && x == '\t' then none
        else if g.broken then readGap badTab fuel g (c.skip 1)
        else readGap badTab fuel { g with blanks := g.blanks ++ [x] } (c.skip 1)
      else if isBreak x then
        if g.broken then
          readGap badTab fuel { g with moreBreaks := g.moreBreaks ++ c.lineText } c.skipLine
        else readGap badTab fuel ⟨[], c.lineText, [], true⟩ c.skipLine
      else some (g, c)

def scalarValue? (n : Nat) : Option Char :=
  if (0xD800 ≤ n && n ≤ 0xDFFF) || 0x10FFFF < n then none else some (Char.ofNat n)

/-- The character of an escape of one letter. -/
def letterEscape? (c : Char) : Option Char :=
  match c with
  | '0' => some (Char.ofNat 0)
  | 'a' => some '\x07'
  | 'b' => some '\x08'
  | 't' => some '\t'
  | '\t' => some '\t'
  | 'n' => some '\n'
  | 'v' => some '\x0b'
  | 'f' => some '\x0c'
  | 'r' => some '\r'
  | 'e' => some '\x1b'
  | ' ' => some ' '
  | '"' => some '"'
  | '/' => some '/'
  | '\\' => some '\\'
  | 'N' => some (Char.ofNat 0x85)
  | '_' => some (Char.ofNat 0xA0)
  | 'L' => some (Char.ofNat 0x2028)
  | 'P' => some (Char.ofNat 0x2029)
  | _ => none

/-- Reads an escape behind its backslash. -/
def doubleEscape (c : Cursor) : Read Char :=
  let code (count : Nat) : Read Char :=
    let digits := (c.rest.drop 1).take count
    if digits.length = count then
      match (hexNumber? digits).bind scalarValue? with
      | some x => some (x, c.skip (1 + count))
      | none => none
    else none
  match c.peek with
  | none => none
  | some 'x' => code 2
  | some 'u' => code 4
  | some 'U' => code 8
  | some x => (letterEscape? x).map fun y => (y, c.skip 1)

/-- Reads a quoted scalar behind its first quote; `done` holds the text so far, last character
first. -/
def quotedBody (single : Bool) : Nat → List Char → Cursor → Read (List Char)
  | 0, _, _ => none
  | fuel + 1, done, c =>
    if c.atDocumentMarker then none
    else
      match c.peek with
      | none => none
      | some x =>
        if single && x == '\'' && c.ahead 1 == some '\'' then
          quotedBody single fuel ('\'' :: done) (c.skip 2)
        else if x == (if single then '\'' else '"') then some (done.reverse, c.skip 1)
        else if !single && x == '\\' then
          -- a backslash at the end of a line takes the line break with it
          if ((c.ahead 1).map isBreak).getD false then
            match readGap (fun _ => false) (c.rest.length + 1) ⟨[], [], [], true⟩
                (c.skip 1).skipLine with
            | none => none
            | some (g, c) => quotedBody single fuel (g.text.reverse ++ done) c
          else
            match doubleEscape (c.skip 1) with
            | none => none
            | some (y, c) => quotedBody single fuel (y :: done) c
        else if isSpace x || isBreak x then
          match readGap (fun _ => false) (c.rest.length + 1) Gap.none c with
          | none => none
          | some (g, c) => quotedBody single fuel (g.text.reverse ++ done) c
        else quotedBody single fuel (x :: done) (c.skip 1)

def quotedScalar (single : Bool) (c : Cursor) : Read Token :=
  (quotedBody single (c.rest.length + 1) [] (c.skip 1)).map fun (cs, c) =>
    (.scalar (String.ofList cs) .quoted, c)

/-- The characters that end a plain scalar inside brackets. -/
def isFlowIndicator (c : Char) : Bool :=
  c == ',' || c == '[' || c == ']' || c == '{' || c == '}'

/-- The longest word of a plain scalar from here, or nothing when a colon stands where it must
not. -/
def plainWord (inFlow : Bool) : List Char → Option (List Char)
  | [] => some []
  | x :: rest =>
    if isSpace x || isBreak x then some []
    else
      let next := rest.head?
      if x == ':' then
        if inFlow && ((next.map fun y => isFlowIndicator y || y == '?').getD false) then none
        else if ((next.map fun y => isSpace y || isBreak y).getD true) then some []
        else (plainWord inFlow rest).map (x :: ·)
      else if inFlow && isFlowIndicator x then some []
      else (plainWord inFlow rest).map (x :: ·)

/-- Reads the words of a plain scalar.  `gap` is what stands before the next word.  The answer
says whether the scalar ended behind a line break. -/
def plainBody (inFlow : Bool) (indent : Int) :
    Nat → List Char → Gap → Cursor → Read (List Char × Bool)
  | 0, _, _, _ => none
  | fuel + 1, done, gap, c =>
    if c.atDocumentMarker || c.has '#' then some ((done.reverse, gap.broken), c)
    else
      match plainWord inFlow c.rest with
      | none => none
      | some word =>
        let done := if word.isEmpty then done else word.reverse ++ gap.text.reverse ++ done
        let broken := if word.isEmpty then gap.broken else false
        let c := c.skip word.length
        if !(c.atSpace || c.atBreak) then some ((done.reverse, broken), c)
        else
          let start := if word.isEmpty then gap else Gap.none
          match readGap (fun c => (c.column : Int) < indent + 1) (c.rest.length + 1) start c with
          | none => none
          | some (gap, c) =>
            -- a line that is not indented any more belongs to what comes next
            if !inFlow && (c.column : Int) < indent + 1 then
              some ((done.reverse, gap.broken), c)
            else plainBody inFlow indent fuel done gap c

/-- How the line breaks at the end of a block scalar are kept. -/
inductive Chomping where
  | strip
  | clip
  | keep
  deriving DecidableEq

/-- Reads the indicators behind `|` or `>`, in either order. -/
def blockHeader (c : Cursor) : Read (Chomping × Nat) :=
  let chomp (c : Cursor) : Option Chomping :=
    if c.has '+' then some .keep else if c.has '-' then some .strip else none
  let digit (c : Cursor) : Option Nat :=
    match c.peek with
    | some x => if x.isDigit then some (x.toNat - 48) else none
    | none => none
  match chomp c with
  | some chomping =>
    match digit (c.skip 1) with
    | some 0 => none
    | some n => some ((chomping, n), c.skip 2)
    | none => some ((chomping, 0), c.skip 1)
  | none =>
    match digit c with
    | some 0 => none
    | some n =>
      match chomp (c.skip 1) with
      | some chomping => some ((chomping, n), c.skip 2)
      | none => some ((.clip, n), c.skip 1)
    | none => some ((.clip, 0), c)

/-- Takes in the indentation of lines and empty lines.  With an indentation of zero it looks for
the deepest one, which is the third part of the answer. -/
def blockBreaks (indent : Nat) : Nat → Nat → List Char → Cursor → Read (List Char × Nat)
  | 0, _, _, _ => none
  | fuel + 1, deepest, breaks, c =>
    let room := if indent = 0 then c.rest.length else indent - c.column
    let blanks := ((c.rest.take room).takeWhile (· == ' ')).length
    let c := c.skip blanks
    let deepest := max deepest c.column
    if (indent = 0 || c.column < indent) && c.has '\t' then none
    else if c.atBreak then blockBreaks indent fuel deepest (breaks ++ c.lineText) c.skipLine
    else some ((breaks, deepest), c)

/-- Reads the lines of a block scalar.  `lead` is the line break before the next line, `breaks`
the empty lines after it, and `blankLead` says that the last line began with a blank. -/
def blockLines (isLiteral : Bool) (indent : Nat) :
    Nat → List Char → List Char → List Char → Bool → Cursor → Read (List Char × List Char × List Char)
  | 0, _, _, _, _, _ => none
  | fuel + 1, done, lead, breaks, blankLead, c =>
    if c.column != indent || c.rest.isEmpty then some ((done, lead, breaks), c)
    else
      let blankHere := c.atSpace
      let joined :=
        if !isLiteral && lead.head? = some '\n' && !blankLead && !blankHere then
          (if breaks.isEmpty then [' '] else []) ++ breaks
        else lead ++ breaks
      let line := c.taken fun x => !isBreak x
      let after := c.skip line.length
      let lead := after.lineText
      match blockBreaks indent (c.rest.length + 1) 0 [] after.skipLine with
      | none => none
      | some ((breaks, _), c) =>
        blockLines isLiteral indent fuel (done ++ joined ++ line) lead breaks blankHere c

def blockScalar (isLiteral : Bool) (parentIndent : Int) (c : Cursor) : Read Token :=
  match blockHeader (c.skip 1) with
  | none => none
  | some ((chomping, increment), c) =>
    match finishLine c with
    | none => none
    | some c =>
      -- an indentation that is written down counts from that of the parent
      let given : Nat :=
        if increment = 0 then 0
        else if 0 ≤ parentIndent then parentIndent.toNat + increment else increment
      match blockBreaks given (c.rest.length + 1) 0 [] c with
      | none => none
      | some ((breaks, deepest), c) =>
        -- otherwise the empty lines in front and the first line with text decide
        let indent := if given = 0 then max deepest (max (parentIndent + 1).toNat 1) else given
        match blockLines isLiteral indent (c.rest.length + 1) [] [] breaks false c with
        | none => none
        | some ((done, lead, breaks), c) =>
          let text :=
            match chomping with
            | .strip => done
            | .clip => done ++ lead
            | .keep => done ++ lead ++ breaks
          some (.scalar (String.ofList text) (if isLiteral then .literal else .folded), c)

end StubServer.Yaml
