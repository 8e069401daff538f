import StubServer.Number.Width
import StubServer.Regex.Basic
import StubServer.Regex.Class
import StubServer.Regex.Property
import StubServer.Text.Blank

/-! # Reading regular expressions

The grammar of expressions with groups, classes, counted repetition and modes.  What an
expression prefers and captures does not matter here, only what it matches.  An expression is
refused when it breaks the grammar, nests deeper than 250 or would take up too much room.
-/

namespace StubServer.Regex

open Text (Ranges)

abbrev Read (α : Type) := Option (α × List Char)

/-- Passes over blanks and comments; the flag says whether a comment is being passed over. -/
def skipVerbose : Bool → List Char → List Char
  | _, [] => []
  | true, c :: rest => skipVerbose (c != '\n') rest
  | false, c :: rest =>
    if Text.isBlank c then skipVerbose false rest
    else if c = '#' then skipVerbose true rest
    else c :: rest

def skip (m : Modes) (cs : List Char) : List Char :=
  if m.verbose then skipVerbose false cs else cs

/-! ## Escapes -/

inductive Escape where
  /-- One character; `isByte` if it was written as two hexadecimal digits. -/
  | literal (code : Nat) (isByte : Bool)
  | set (ranges : Ranges)
  | look (condition : Look)

def hexDigit? (c : Char) : Option Nat :=
  if c.isDigit || ('a' ≤ c && c ≤ 'f') || ('A' ≤ c && c ≤ 'F') then some (Ranges.hexValue c)
  else none

def isScalar (n : Nat) : Bool := n < 0xD800 || (0xE000 ≤ n && n ≤ 0x10FFFF)

def hexFixed (m : Modes) : Nat → Nat → List Char → Read Nat
  | 0, value, cs => if isScalar value then some (value, cs) else none
  | _ + 1, _, [] => none
  | count + 1, value, c :: rest =>
    match hexDigit? c with
    | some d => hexFixed m count (value * 16 + d) (skip m rest)
    | none => none

/-- Digits up to a closing brace. -/
def hexBraced (digits : List Nat) : List Char → Read Nat
  | [] => none
  | '}' :: rest =>
    if digits.isEmpty then none
    else
      let value := digits.reverse.foldl (fun n d => n * 16 + d) 0
      if isScalar value then some (value, rest) else none
  | c :: rest =>
    match hexDigit? c with
    | some d => hexBraced (d :: digits) rest
    | none => none

/-- Everything up to a closing brace, without what is passed over. -/
def dropSkipped (m : Modes) (cs : List Char) : List Char :=
  if m.verbose then go false cs else cs
where
  go : Bool → List Char → List Char
    | _, [] => []
    | true, c :: rest => go (c != '\n') rest
    | false, c :: rest =>
      if Text.isBlank c then go false rest
      else if c = '#' then go true rest
      else c :: go false rest

def hexEscape (m : Modes) (count : Nat) (cs : List Char) : Read Escape :=
  match skip m cs with
  | '{' :: rest =>
    (hexBraced [] (dropSkipped m rest)).map fun (value, left) =>
      let used := (dropSkipped m rest).length - left.length
      (.literal value false, skip m (dropUsed m used rest))
  | cs => (hexFixed m count 0 cs).map fun (value, rest) => (.literal value (count == 2), rest)
where
  /-- Drops the given number of characters, not counting those that are passed over. -/
  dropUsed (m : Modes) : Nat → List Char → List Char
    | 0, cs => cs
    | used + 1, cs =>
      match skip m cs with
      | [] => []
      | _ :: rest => dropUsed m used rest

/-- The set after `\p` or `\P`. -/
def propertyEscape (m : Modes) (negated : Bool) (cs : List Char) : Read Escape :=
  match skip m cs with
  | [] => none
  | '{' :: rest =>
    match Text.splitOnce '}' (dropSkipped m rest), Text.splitOnce '}' rest with
    | some (name, _), some (_, rest) => (named? name).map fun (set, notEqual) =>
      (.set (finishClass m (negated != notEqual) set), rest)
    | _, _ => none
  | c :: rest =>
    if c = '\\' then none
    else (byName? (normalizeName (String.singleton c))).map fun set =>
      (.set (finishClass m negated set), skip m rest)

/-- The characters that mean something in an expression. -/
def isMeta (c : Char) : Bool := "\\.+*?()|[]{}^$#&-~".toList.contains c

/-- Any other sign of ASCII may be escaped too, without need. -/
def isEscapable (c : Char) : Bool :=
  isMeta c || (c.toNat < 128 && !c.isAlphanum && c != '<' && c != '>')

def isBoundaryName (c : Char) : Bool := c.isAlpha || c == '-'

/-- What follows `\b`: a kind of boundary in braces, or nothing that belongs to it. -/
def boundary (m : Modes) (cs : List Char) : Read Escape :=
  match cs with
  | '{' :: rest =>
    match skip m rest with
    | [] => none
    | c :: _ =>
      if !isBoundaryName c then some (.look (.wordBoundary m.isUnicode), cs)
      else
        match Text.splitOnce '}' (dropSkipped m rest), Text.splitOnce '}' rest with
        | some (name, _), some (_, after) =>
          match String.ofList name with
          | "start" => some (.look (.wordStart m.isUnicode), after)
          | "end" => some (.look (.wordEnd m.isUnicode), after)
          | "start-half" => some (.look (.wordStartHalf m.isUnicode), after)
          | "end-half" => some (.look (.wordEndHalf m.isUnicode), after)
          | _ => none
        | _, _ => none
  | _ => some (.look (.wordBoundary m.isUnicode), cs)

/-- Reads what follows a backslash. -/
def escape (m : Modes) : List Char → Read Escape
  | [] => none
  | 'x' :: rest => hexEscape m 2 rest
  | 'u' :: rest => hexEscape m 4 rest
  | 'U' :: rest => hexEscape m 8 rest
  | 'p' :: rest => if m.isUnicode then propertyEscape m false rest else none
  | 'P' :: rest => if m.isUnicode then propertyEscape m true rest else none
  | 'a' :: rest => some (.literal 0x07 false, rest)
  | 'f' :: rest => some (.literal 0x0C false, rest)
  | 't' :: rest => some (.literal 0x09 false, rest)
  | 'n' :: rest => some (.literal 0x0A false, rest)
  | 'r' :: rest => some (.literal 0x0D false, rest)
  | 'v' :: rest => some (.literal 0x0B false, rest)
  | 'A' :: rest => some (.look .textStart, rest)
  | 'z' :: rest => some (.look .textEnd, rest)
  | 'b' :: rest => boundary m rest
  | 'B' :: rest => some (.look (.notWordBoundary m.isUnicode), rest)
  | '<' :: rest => some (.look (.wordStart m.isUnicode), rest)
  | '>' :: rest => some (.look (.wordEnd m.isUnicode), rest)
  | c :: rest =>
    match letterSet? m c with
    | some set => some (.set set, rest)
    | none => if isEscapable c then some (.literal c.toNat false, rest) else none

/-! ## Classes -/

/-- A character as a member of a class; without the Unicode mode it has to be one byte. -/
def memberCode? (m : Modes) (code : Nat) (isByte : Bool) : Option Nat :=
  if m.isUnicode || code < 0x80 || (isByte && code ≤ 0xFF) then some code else none

inductive SetOp where
  | intersection
  | difference
  | symmetricDifference

/-- Applies the operation that waits for its right side. -/
def combine (m : Modes) : Option (SetOp × Ranges) → Ranges → Ranges
  | none, right => right
  | some (op, left), right =>
    let left := foldIf m left
    let right := foldIf m right
    match op with
    | .intersection => Ranges.intersect m.top left right
    | .difference => Ranges.difference m.top left right
    | .symmetricDifference => Ranges.symmetricDifference m.top left right

/-- A member of a class: one character, or a whole set. -/
def classItem (m : Modes) (cs : List Char) : Read Escape :=
  match cs with
  | [] => none
  | '\\' :: rest =>
    match escape m rest with
    | some (.look _, _) => none
    | r => r
  | c :: rest => some (.literal c.toNat false, rest)

/-- Reads a member or a range of members. -/
def classRange (m : Modes) (cs : List Char) : Read Ranges :=
  match classItem m cs with
  | none => none
  | some (first, rest) =>
    let single : Read Ranges :=
      match first with
      | .literal code isByte => (memberCode? m code isByte).map fun n => ([(n, n)], rest)
      | .set ranges => some (ranges, rest)
      | .look _ => none
    match skip m rest with
    | [] => none
    | '-' :: after =>
      match skip m after with
      | [] => none
      | ']' :: _ => single
      | '-' :: _ => single
      | after =>
        match first, classItem m after with
        | .literal a aByte, some (.literal b bByte, rest) =>
          match memberCode? m a aByte, memberCode? m b bByte with
          | some low, some high => if a ≤ b then some ([(low, high)], rest) else none
          | _, _ => none
        | _, _ => none
    | _ => single

/-- Reads `[:name:]` or `[:^name:]` behind its first bracket. -/
def asciiClass (m : Modes) (cs : List Char) : Read Ranges :=
  match cs with
  | ':' :: rest =>
    let (negated, rest) := match rest with
      | '^' :: rest => (true, rest)
      | _ => (false, rest)
    match Text.splitOnce ':' rest with
    | some (name, ']' :: after) =>
      (asciiSet? (String.ofList name)).map fun set => (finishClass m negated set, after)
    | _ => none
  | _ => none

/-- The hyphens, or else one closing bracket, at the front of a class stand for themselves. -/
def classFront (m : Modes) (isFirst : Bool) : List Char → Ranges × List Char
  | [] => ([], [])
  | '-' :: rest =>
    let (set, left) := classFront m false rest
    ((45, 45) :: set, left)
  | ']' :: rest => if isFirst then ([(93, 93)], rest) else ([], ']' :: rest)
  | c :: rest =>
    if m.verbose && Text.isBlank c then classFront m isFirst rest else ([], c :: rest)

/-- The negation and the front of a class, behind its opening bracket. -/
def classOpen (m : Modes) (cs : List Char) : Bool × Ranges × List Char :=
  match skip m cs with
  | '^' :: rest =>
    let (set, left) := classFront m true (skip m rest)
    (true, set, left)
  | cs =>
    let (set, left) := classFront m true cs
    (false, set, left)

/-- Reads a class behind its front; `union` holds the members read since the operation that
waits.  The answer has the nesting of the class. -/
def classBody (m : Modes) (negated : Bool) :
    Nat → Option (SetOp × Ranges) → Ranges → Nat → List Char → Option (Ranges × Nat × List Char)
  | 0, _, _, _, _ => none
  | fuel + 1, waiting, union, depth, cs =>
    match skip m cs with
    | [] => none
    | ']' :: rest => some (finishClass m negated (combine m waiting union), depth, rest)
    | '&' :: '&' :: rest =>
      classBody m negated fuel (some (.intersection, combine m waiting union)) [] depth rest
    | '-' :: '-' :: rest =>
      classBody m negated fuel (some (.difference, combine m waiting union)) [] depth rest
    | '~' :: '~' :: rest =>
      classBody m negated fuel (some (.symmetricDifference, combine m waiting union)) [] depth rest
    | '[' :: rest =>
      match asciiClass m rest with
      | some (set, rest) => classBody m negated fuel waiting (union ++ set) depth rest
      | none =>
        let (innerNegated, front, inner) := classOpen m rest
        match classBody m innerNegated fuel none front 1 inner with
        | some (set, innerDepth, rest) =>
          classBody m negated fuel waiting (union ++ set) (max depth (innerDepth + 1)) rest
        | none => none
    | cs =>
      match classRange m cs with
      | some (set, rest) => classBody m negated fuel waiting (union ++ set) depth rest
      | none => none

/-! ## Groups and modes -/

def Modes.switch? (m : Modes) (isOn : Bool) (c : Char) : Option Modes :=
  match c with
  | 'i' => some { m with ignoreCase := isOn }
  | 'm' => some { m with multiLine := isOn }
  | 's' => some { m with dotAll := isOn }
  | 'R' => some { m with anyLineEnd := isOn }
  | 'u' => some { m with isUnicode := isOn }
  | 'x' => some { m with verbose := isOn }
  | 'U' => some { m with lazy := isOn }
  | _ => none

/-- Reads mode letters up to `:` or `)`; each may stand once, and so may the minus sign, which
may not be the last. -/
def readModes (m : Modes) (seen : List Char) : List Char → Read (Modes × Bool)
  | [] => none
  | c :: rest =>
    if c = ':' ∨ c = ')' then
      if seen.head? = some '-' ∨ (c = ')' ∧ seen.isEmpty) then none
      else some ((m, c == ':'), rest)
    else if seen.contains c then none
    else if c = '-' then readModes m (c :: seen) rest
    else
      match m.switch? (!seen.contains '-') c with
      | some m => readModes m (c :: seen) rest
      | none => none

def isNameStart (c : Char) : Bool :=
  c == '_' || c.isAlpha || (128 ≤ c.toNat && ((NamedSet.find? properties "alphabetic").getD []).contains c.toNat)

def isNamePart (c : Char) : Bool :=
  isNameStart c || c == '.' || c == '[' || c == ']' || c.isDigit ||
    (128 ≤ c.toNat && (unionOf ["nd", "nl", "no"]).contains c.toNat)

/-- Reads a group name up to its `>`. -/
def groupName (cs : List Char) : Read String :=
  match Text.splitOnce '>' cs with
  | some (c :: name, rest) =>
    if isNameStart c && name.all isNamePart then some (String.ofList (c :: name), rest) else none
  | _ => none

inductive GroupOpen where
  /-- A group with the modes that hold inside and the name that it has. -/
  | group (modes : Modes) (name : Option String)
  /-- No group: the modes that hold from here on. -/
  | modes (modes : Modes)

/-- Reads what follows an opening parenthesis. -/
def groupOpen (m : Modes) (cs : List Char) : Read GroupOpen :=
  match skip m cs with
  | '?' :: '=' :: _ => none
  | '?' :: '!' :: _ => none
  | '?' :: '<' :: '=' :: _ => none
  | '?' :: '<' :: '!' :: _ => none
  | '?' :: 'P' :: '<' :: rest => (groupName rest).map fun (n, r) => (.group m (some n), r)
  | '?' :: '<' :: rest => (groupName rest).map fun (n, r) => (.group m (some n), r)
  | '?' :: rest =>
    (readModes m [] rest).map fun ((inner, isGroup), r) =>
      (if isGroup then .group inner none else .modes inner, r)
  | cs => some (.group m none, cs)

/-! ## Expressions -/

/-- A part of an expression with its nesting. -/
structure Part where
  regex : Regex
  depth : Nat

/-- The parts of a sequence, last first; a switch of modes is none. -/
abbrev Parts := List (Option Part)

def sequence (parts : Parts) : Part :=
  match parts with
  | [] => ⟨.empty, 0⟩
  | [none] => ⟨.empty, 0⟩
  | [some part] => part
  | _ =>
    let parts := parts.filterMap id
    ⟨parts.foldl (fun rest part => match rest with
        | .empty => part.regex
        | rest => .seq part.regex rest) .empty,
      1 + parts.foldl (fun d part => max d part.depth) 0⟩

def alternatives (before : List Part) (last : Part) : Part :=
  match before with
  | [] => last
  | _ =>
    ⟨before.foldl (fun rest part => .alt part.regex rest) last.regex,
      1 + before.foldl (fun d part => max d part.depth) last.depth⟩

/-- The expression for one character or byte. -/
def literal? (m : Modes) (code : Nat) (isByte : Bool) : Option Regex :=
  if m.isUnicode then
    some (.char (if m.ignoreCase then foldCase true [(code, code)] else [(code, code)]))
  else if code < 0x80 then
    some (.byte (if m.ignoreCase then foldCase false [(code, code)] else [(code, code)]))
  else if isByte && code ≤ 0xFF then some (.byte [(code, code)])
  else none

def setRegex (m : Modes) (set : Ranges) : Regex := if m.isUnicode then .char set else .byte set

def dot (m : Modes) : Regex :=
  let excluded : Ranges :=
    if m.dotAll then [] else if m.anyLineEnd then [(10, 10), (13, 13)] else [(10, 10)]
  setRegex m (Ranges.complement m.top excluded)

def lineStart (m : Modes) : Look :=
  if m.multiLine then (if m.anyLineEnd then .anyLineStart else .lineStart) else .textStart

def lineEnd (m : Modes) : Look :=
  if m.multiLine then (if m.anyLineEnd then .anyLineEnd else .lineEnd) else .textEnd

/-- Repeats the part read last; a switch of modes cannot be repeated. -/
def repeatLast (parts : Parts) (least : Nat) (extra : Option Nat) : Option Parts :=
  match parts with
  | some part :: rest => some (some ⟨.repeated part.regex least extra, part.depth + 1⟩ :: rest)
  | _ => none

def dropLazy : List Char → List Char
  | '?' :: rest => rest
  | cs => cs

/-- Digits between blanks. -/
def count (m : Modes) (cs : List Char) : Read (Option Nat) :=
  let cs := cs.dropWhile Text.isBlank
  let (digits, rest) := digitsOf [] cs
  let rest := rest.dropWhile Text.isBlank
  if digits.isEmpty then some (none, rest)
  else
    let n := digits.reverse.foldl (fun n c => n * 10 + (c.toNat - 48)) 0
    if Number.fits 32 n then some (some n, rest) else none
where
  digitsOf (digits : List Char) : List Char → List Char × List Char
    | [] => (digits, [])
    | c :: rest =>
      if c.isDigit then digitsOf (c :: digits) rest
      else if m.verbose && Text.isBlank c && !digits.isEmpty then digitsOf digits rest
      else (digits, c :: rest)

/-- Reads the counts of a repetition behind its opening brace. -/
def counts (m : Modes) (cs : List Char) : Read (Nat × Option Nat) :=
  match count m (skip m cs) with
  | some (some least, '}' :: rest) => some ((least, some 0), rest)
  | some (some least, ',' :: rest) =>
    match skip m rest with
    | '}' :: rest => some ((least, none), rest)
    | rest =>
      match count m rest with
      | some (some most, '}' :: rest) =>
        if least ≤ most then some ((least, some (most - least)), rest) else none
      | _ => none
  | _ => none

/-- Reads a sequence of alternatives up to a closing parenthesis or the end.  `names` are the
group names in use. -/
def body : Nat → Modes → List String → List Part → Parts → List Char →
    Option (Part × List String × List Char)
  | 0, _, _, _, _, _ => none
  | fuel + 1, m, names, before, parts, cs =>
    match skip m cs with
    | [] => some (alternatives before (sequence parts), names, [])
    | ')' :: rest => some (alternatives before (sequence parts), names, ')' :: rest)
    | '|' :: rest => body fuel m names (sequence parts :: before) [] rest
    | '(' :: rest =>
      match groupOpen m rest with
      | none => none
      | some (.modes inner, rest) => body fuel inner names before (none :: parts) rest
      | some (.group inner name, rest) =>
        if name.any names.contains then none
        else
          match body fuel inner (name.toList ++ names) [] [] rest with
          | some (part, names, ')' :: rest) =>
            body fuel m names before (some ⟨part.regex, part.depth + 1⟩ :: parts) rest
          | _ => none
    | '[' :: rest =>
      let (negated, front, inner) := classOpen m rest
      match classBody m negated (inner.length + 1) none front 1 inner with
      | some (set, depth, rest) =>
        body fuel m names before (some ⟨setRegex m set, depth⟩ :: parts) rest
      | none => none
    | '?' :: rest => (repeatLast parts 0 (some 1)).bind fun ps =>
      body fuel m names before ps (dropLazy rest)
    | '*' :: rest => (repeatLast parts 0 none).bind fun ps =>
      body fuel m names before ps (dropLazy rest)
    | '+' :: rest => (repeatLast parts 1 none).bind fun ps =>
      body fuel m names before ps (dropLazy rest)
    | '{' :: rest =>
      match counts m rest with
      | none => none
      | some ((least, extra), rest) => (repeatLast parts least extra).bind fun ps =>
        body fuel m names before ps (dropLazy (skip m rest))
    | '.' :: rest => body fuel m names before (some ⟨dot m, 0⟩ :: parts) rest
    | '^' :: rest => body fuel m names before (some ⟨.look (lineStart m), 0⟩ :: parts) rest
    | '$' :: rest => body fuel m names before (some ⟨.look (lineEnd m), 0⟩ :: parts) rest
    | '\\' :: rest =>
      match escape m rest with
      | none => none
      | some (.look l, rest) => body fuel m names before (some ⟨.look l, 0⟩ :: parts) rest
      | some (.set set, rest) => body fuel m names before (some ⟨setRegex m set, 0⟩ :: parts) rest
      | some (.literal code isByte, rest) => (literal? m code isByte).bind fun r =>
        body fuel m names before (some ⟨r, 0⟩ :: parts) rest
    | c :: rest => (literal? m c.toNat false).bind fun r =>
      body fuel m names before (some ⟨r, 0⟩ :: parts) rest

/-- The room, in bytes, that a machine for the expression takes up. -/
def room : Regex → Nat
  | .empty => 32
  | .char set =>
    match set with
    | [(low, high)] =>
      if low = high then 32 * (String.utf8EncodeChar (Char.ofNat low)).length else 192
    | _ =>
      if set.all fun r => r.2 < 128 then 32 + 8 * set.length else 128 + 56 * set.length
  | .byte set => 32 + 8 * set.length
  | .look _ => 32
  | .seq a b => room a + room b
  | .alt a b => room a + room b + 40
  | .repeated body least extra =>
    match extra with
    | none => max 1 least * room body + 40
    | some n => least * room body + n * (room body + 40)

/-- Reads an expression, or gives nothing when the text is none. -/
def parse? (text : String) : Option Regex :=
  let cs := text.toList
  match body (cs.length + 1) Modes.start [] [] [] cs with
  | some (part, _, []) =>
    -- expressions that nest deeper or need more room are refused
    if part.depth ≤ 250 ∧ part.regex.room ≤ 10 <<< 20 then some part.regex else none
  | _ => none

end StubServer.Regex
