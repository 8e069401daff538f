import StubServer.Yaml.Scalar

/-! # Cutting a YAML stream into tokens

Block structure comes from indentation: a deeper column opens a collection and a shallower one
closes it.  A key need not be marked, so the place of every text that may turn out to be one is
remembered until a colon or the end of its line decides.
-/

namespace StubServer.Yaml

/-- A place where a key token is put in if a colon follows. -/
structure PossibleKey where
  /-- The text stands at the indentation of a mapping and has to be a key. -/
  isRequired : Bool
  token : Nat
  index : Nat
  line : Nat
  column : Nat

structure Scanner where
  cursor : Cursor
  tokens : Array Token
  /-- One entry for every open bracket, innermost first, and one for the text outside. -/
  keys : List (Option PossibleKey)
  /-- The column of the innermost block collection, or `-1`. -/
  indent : Int
  indents : List Int
  keyAllowed : Bool

namespace Scanner

def start (cs : List Char) : Scanner := ⟨.ofChars cs, #[], [none], -1, [], true⟩

def inFlow (s : Scanner) : Bool := 1 < s.keys.length

def push (s : Scanner) (token : Token) : Scanner := { s with tokens := s.tokens.push token }

def insertAt (s : Scanner) (place : Nat) (token : Token) : Scanner :=
  { s with tokens := s.tokens.extract 0 place ++ #[token] ++ s.tokens.extract place s.tokens.size }

/-- Opens a block collection when the column lies deeper than the innermost one. -/
def roll (s : Scanner) (column : Nat) (place : Nat) (token : Token) : Scanner :=
  if s.inFlow || (column : Int) ≤ s.indent then s
  else { s.insertAt place token with indent := column, indents := s.indent :: s.indents }

/-- Closes the block collections that lie deeper than the column. -/
def unrollFrom (column : Int) : List Int → Int → Array Token → List Int × Int × Array Token
  | [], indent, tokens => ([], indent, tokens)
  | outer :: rest, indent, tokens =>
    if column < indent then unrollFrom column rest outer (tokens.push .blockEnd)
    else (outer :: rest, indent, tokens)

def unroll (s : Scanner) (column : Int) : Scanner :=
  if s.inFlow then s
  else
    let (indents, indent, tokens) := unrollFrom column s.indents s.indent s.tokens
    { s with indents := indents, indent := indent, tokens := tokens }

/-- Gives up the possible key of the innermost level, which must not be required. -/
def dropKey (s : Scanner) : Option Scanner :=
  match s.keys with
  | some key :: rest => if key.isRequired then none else some { s with keys := none :: rest }
  | _ => some s

/-- Remembers that a key may begin here. -/
def saveKey (s : Scanner) : Option Scanner :=
  if !s.keyAllowed then some s
  else
    match s.dropKey with
    | none => none
    | some s =>
      let c := s.cursor
      let key : PossibleKey :=
        ⟨!s.inFlow && s.indent == (c.column : Int), s.tokens.size, c.index, c.line, c.column⟩
      some { s with keys := some key :: s.keys.drop 1 }

/-- A key lies on one line and is at most 1024 characters long. -/
def isStale (s : Scanner) (key : PossibleKey) : Bool :=
  key.line < s.cursor.line || key.index + 1024 < s.cursor.index

/-- Gives up the possible keys that have become too long. -/
def dropStale (s : Scanner) : Option Scanner :=
  let stale (key : Option PossibleKey) : Bool := (key.map s.isStale).getD false
  if s.keys.any fun key => stale key && (key.map (·.isRequired)).getD false then none
  else some { s with keys := s.keys.map fun key => if stale key then none else key }

/-- Steps over blanks, comments and line breaks. -/
def skipToToken (inFlow : Bool) : Nat → Bool → Cursor → Cursor × Bool
  | 0, keyAllowed, c => (c, keyAllowed)
  | fuel + 1, keyAllowed, c =>
    let c := if c.index = 0 && c.meets (fun x => x.toNat == 0xFEFF) then c.skip 1 else c
    let c := c.skipWhile fun x => x == ' ' || (x == '\t' && (inFlow || !keyAllowed))
    let c := if c.has '#' then c.skipWhile (fun x => !isBreak x) else c
    if c.atBreak then skipToToken inFlow fuel (keyAllowed || !inFlow) c.skipLine
    else (c, keyAllowed)

/-! ## One token -/

/-- A token of `width` characters that ends the possible key before it. -/
def indicator (s : Scanner) (token : Token) (width : Nat) (keyAllowed : Bool) : Option Scanner :=
  s.dropKey.map fun s =>
    { s.push token with cursor := s.cursor.skip width, keyAllowed := keyAllowed }

def openFlow (s : Scanner) (token : Token) : Option Scanner :=
  s.saveKey.map fun s =>
    { s.push token with
      cursor := s.cursor.skip 1, keys := none :: s.keys, keyAllowed := true }

def closeFlow (s : Scanner) (token : Token) : Option Scanner :=
  (s.indicator token 1 false).map fun s =>
    { s with keys := if s.inFlow then s.keys.drop 1 else s.keys }

def blockEntry (s : Scanner) : Option Scanner :=
  if s.inFlow then s.indicator .blockEntry 1 true
  else if !s.keyAllowed then none
  else
    (s.roll s.cursor.column s.tokens.size .blockSequenceStart).indicator .blockEntry 1 true

def explicitKey (s : Scanner) : Option Scanner :=
  if s.inFlow then s.indicator .key 1 false
  else if !s.keyAllowed then none
  else (s.roll s.cursor.column s.tokens.size .blockMappingStart).indicator .key 1 true

def valueMark (s : Scanner) : Option Scanner :=
  match s.keys with
  | some key :: rest =>
    -- the key is known only now, so its tokens go back to where it began
    let s := { s with keys := none :: rest }
    let s := s.insertAt key.token .key
    let s := s.roll key.column key.token .blockMappingStart
    some { s.push .value with cursor := s.cursor.skip 1, keyAllowed := false }
  | _ =>
    if s.inFlow then
      some { s.push .value with cursor := s.cursor.skip 1, keyAllowed := false }
    else if !s.keyAllowed then none
    else
      let s := s.roll s.cursor.column s.tokens.size .blockMappingStart
      some { s.push .value with cursor := s.cursor.skip 1, keyAllowed := true }

/-- A token that may begin a key. -/
def keyed (s : Scanner) (read : Cursor → Read Token) : Option Scanner :=
  match s.saveKey with
  | none => none
  | some s => (read s.cursor).map fun (token, c) =>
    { s.push token with cursor := c, keyAllowed := false }

def plain (s : Scanner) : Option Scanner :=
  match s.saveKey with
  | none => none
  | some s =>
    match plainBody s.inFlow s.indent (s.cursor.rest.length + 2) [] Gap.none s.cursor with
    | none => none
    | some ((text, broken), c) =>
      some { s.push (.scalar (String.ofList text) .plain) with cursor := c, keyAllowed := broken }

def block (s : Scanner) (isLiteral : Bool) : Option Scanner :=
  match s.dropKey with
  | none => none
  | some s => (blockScalar isLiteral s.indent s.cursor).map fun (token, c) =>
    { s.push token with cursor := c, keyAllowed := true }

/-- Directives and document markers end all block collections. -/
def outermost (s : Scanner) (read : Cursor → Read Token) : Option Scanner :=
  match (s.unroll (-1)).dropKey with
  | none => none
  | some s => (read s.cursor).map fun (token, c) =>
    { s.push token with cursor := c, keyAllowed := false }

/-- The characters that begin no plain scalar. -/
def isIndicator (c : Char) : Bool := "-?:,[]{}#&*!|>'\"%@`".toList.contains c

/-- Reads one token, whose first character is `x`. -/
def next (s : Scanner) (x : Char) : Option Scanner :=
  let c := s.cursor
  let wordEnds := c.endsWordAt 1
  if c.column = 0 && x == '%' then s.outermost directive
  else if c.atMarker '-' then s.outermost fun c => some (.documentStart, c.skip 3)
  else if c.atMarker '.' then s.outermost fun c => some (.documentEnd, c.skip 3)
  else if x == '[' then s.openFlow .flowSequenceStart
  else if x == '{' then s.openFlow .flowMappingStart
  else if x == ']' then s.closeFlow .flowSequenceEnd
  else if x == '}' then s.closeFlow .flowMappingEnd
  else if x == ',' then s.indicator .flowEntry 1 true
  else if x == '-' && wordEnds then s.blockEntry
  else if x == '?' && (s.inFlow || wordEnds) then s.explicitKey
  else if x == ':' && (s.inFlow || wordEnds) then s.valueMark
  else if x == '*' then
    s.keyed fun c => (anchorName c).map fun (name, c) => (.alias name, c)
  else if x == '&' then
    s.keyed fun c => (anchorName c).map fun (name, c) => (.anchor name, c)
  else if x == '!' then s.keyed (tag s.inFlow)
  else if x == '|' && !s.inFlow then s.block true
  else if x == '>' && !s.inFlow then s.block false
  else if x == '\'' then s.keyed (quotedScalar true)
  else if x == '"' then s.keyed (quotedScalar false)
  -- a dash, a question mark or a colon may begin a text if a word goes on behind it
  else if !isIndicator x && !isSpace x && !isBreak x then s.plain
  else if x == '-' && !((c.ahead 1).map isSpace).getD false then s.plain
  else if !s.inFlow && (x == '?' || x == ':') && !wordEnds then s.plain
  else none

/-- Reads all tokens. -/
def run : Nat → Scanner → Option (List Token)
  | 0, _ => none
  | fuel + 1, s =>
    let (c, keyAllowed) := skipToToken s.inFlow (s.cursor.rest.length + 1) s.keyAllowed s.cursor
    match ({ s with cursor := c, keyAllowed := keyAllowed } : Scanner).dropStale with
    | none => none
    | some s =>
      let s := s.unroll c.column
      match c.peek with
      | none => (s.unroll (-1)).dropKey.map fun s => s.tokens.toList
      | some x =>
        match s.next x with
        | none => none
        | some s => run fuel s

end Scanner

/-- The tokens of a stream; a mark of byte order in front is no part of it. -/
def tokens? (text : String) : Option (List Token) :=
  let cs := text.toList
  let cs := match cs with
    | c :: rest => if c.toNat = 0xFEFF then rest else cs
    | [] => cs
  if cs.all isAllowed then Scanner.run (cs.length + 2) (Scanner.start cs) else none

end StubServer.Yaml
