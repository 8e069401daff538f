import StubServer.Json.Path
import StubServer.Json.Reader
import StubServer.Number.Reader

/-! # Reading path expressions

The grammar of path expressions.  Choices are tried in order and never taken back.  Blanks may
stand between the parts of a step, but not inside a name.
-/

namespace StubServer.Json.Path

abbrev Read (α : Type) := Option (α × List Char)

def skip : List Char → List Char
  | ' ' :: rest => skip rest
  | '\t' :: rest => skip rest
  | '\r' :: '\n' :: rest => skip rest
  | '\n' :: rest => skip rest
  | cs => cs

/-- A word, after blanks. -/
def token? (word : String) (cs : List Char) : Option (List Char) :=
  dropWord? word.toList (skip cs)

def isNameChar (c : Char) : Bool := c.isAlphanum || "_-/\\#".toList.contains c

/-- A name without quotes; a length is none. -/
def bareName (cs : List Char) : Read String :=
  let name := cs.takeWhile isNameChar
  if name.isEmpty || (dropWord? "length()".toList cs).isSome then none
  else some (String.ofList name, cs.drop name.length)

/-- The characters of a quoted text as they are written. -/
def quotedChars : List Char → List Char × List Char
  | '\\' :: 'u' :: a :: b :: c :: d :: rest =>
    if [a, b, c, d].all fun x => (hexDigit? x).isSome then
      let (cs, left) := quotedChars rest
      ('\\' :: 'u' :: a :: b :: c :: d :: cs, left)
    else ([], '\\' :: 'u' :: a :: b :: c :: d :: rest)
  | '\\' :: c :: rest =>
    if "\"'\\/bfnrt()".toList.contains c then
      let (cs, left) := quotedChars rest
      ('\\' :: c :: cs, left)
    else ([], '\\' :: c :: rest)
  | c :: rest =>
    if c = '"' ∨ c = '\\' ∨ c = '\'' then ([], c :: rest)
    else
      let (cs, left) := quotedChars rest
      (c :: cs, left)
  | [] => ([], [])

/-- A text in single or double quotes. -/
def quotedText (cs : List Char) : Read String :=
  match cs with
  | q :: rest =>
    if q = '\'' ∨ q = '"' then
      match quotedChars rest with
      | (text, close :: left) => if close = q then some (String.ofList text, left) else none
      | _ => none
    else none
  | [] => none

/-- A quoted text in brackets, without blanks. -/
def bracketName (cs : List Char) : Read String :=
  match cs with
  | '[' :: rest =>
    match quotedText rest with
    | some (name, ']' :: left) => some (name, left)
    | _ => none
  | _ => none

/-- The characters of a whole number without a leading zero. -/
def wholeDigits (cs : List Char) : List Char :=
  match cs with
  | '0' :: _ => ['0']
  | _ => cs.takeWhile Char.isDigit

/-- A number as it is written. -/
def numberChars (cs : List Char) : Read (List Char) :=
  let (sign, cs) := match cs with
    | '-' :: rest => (['-'], rest)
    | cs => ([], cs)
  let whole := wholeDigits cs
  if whole.isEmpty then none
  else
    let cs := cs.drop whole.length
    let (places, cs) := match cs with
      | '.' :: rest =>
        let ds := rest.takeWhile Char.isDigit
        if ds.isEmpty then ([], cs) else ('.' :: ds, rest.drop ds.length)
      | cs => ([], cs)
    let (exponent, cs) := match cs with
      | e :: rest =>
        if e = 'e' ∨ e = 'E' then
          let (s, r) := match rest with
            | '+' :: r => (['+'], r)
            | '-' :: r => (['-'], r)
            | r => ([], r)
          let ds := r.takeWhile Char.isDigit
          if ds.isEmpty then ([], cs) else (e :: s ++ ds, r.drop ds.length)
        else ([], cs)
      | cs => ([], cs)
    some (sign ++ whole ++ places ++ exponent, cs)

/-- The value of a number: an integer if it is written as one of 64 bits. -/
def numberValue (cs : List Char) : Option JsonNumber :=
  let (negative, digits) := match cs with
    | '-' :: rest => (true, rest)
    | cs => (false, cs)
  let float? := (Number.Double.ofText? cs).bind fun x => if x.isFinite then some (.float x) else none
  if digits.all Char.isDigit then
    let n := digits.foldl (fun n c => n * 10 + digitValue c) 0
    let n : Int := if negative then -(n : Int) else n
    if Number.fitsSigned 64 n then some (.int n) else float?
  else float?

def number (cs : List Char) : Read JsonNumber :=
  match numberChars cs with
  | none => none
  | some (text, left) => (numberValue text).map fun n => (n, left)

/-- An index as it is written.  Digits may be parted by blanks, and one digit takes the blanks
behind it with it; both make it no number. -/
def indexChars (cs : List Char) : Read (List Char) :=
  match cs with
  | '0' :: rest => some (['0'], rest)
  | c :: rest =>
    if c.isDigit then
      let left := go (skip rest)
      some (cs.take (cs.length - left.length), left)
    else none
  | [] => none
where
  /-- What follows further digits with blanks between them. -/
  go : List Char → List Char
    | [] => []
    | c :: rest =>
      if c.isDigit then
        let blanks := rest.length - (skip rest).length
        if ((skip rest).head?.map Char.isDigit).getD false then goSkip blanks rest else rest
      else c :: rest
  /-- Passes over blanks and goes on. -/
  goSkip : Nat → List Char → List Char
    | _, [] => []
    | 0, c :: rest =>
      if c.isDigit then
        let blanks := rest.length - (skip rest).length
        if ((skip rest).head?.map Char.isDigit).getD false then goSkip blanks rest else rest
      else c :: rest
    | blanks + 1, _ :: rest => goSkip blanks rest

/-- An index with an optional minus sign in front. -/
def signedChars (cs : List Char) : Read (List Char) :=
  match cs with
  | '-' :: rest =>
    (indexChars (skip rest)).map fun (_, left) => (cs.take (cs.length - left.length), left)
  | _ => indexChars cs

/-- The value of an end of a slice; what is no number of 32 bits counts as zero. -/
def sliceNumber (cs : List Char) : Int :=
  let (negative, digits) := match cs with
    | '-' :: rest => (true, rest)
    | cs => (false, cs)
  if !digits.isEmpty && digits.all Char.isDigit then
    let n : Int := digits.foldl (fun n c => n * 10 + digitValue c) 0
    let n := if negative then -n else n
    if Number.fitsSigned 32 n then n else 0
  else 0

def strideNumber (cs : List Char) : Nat :=
  if !cs.isEmpty && cs.all Char.isDigit then
    cs.foldl (fun n c => n * 10 + digitValue c) 0
  else 1

/-- More entries of a list, each behind a comma. -/
def moreOf {α : Type} (read : List Char → Read α) : Nat → List Char → List α × List Char
  | 0, cs => ([], cs)
  | fuel + 1, cs =>
    match token? "," cs with
    | none => ([], cs)
    | some rest =>
      match read (skip rest) with
      | none => ([], cs)
      | some (x, rest) =>
        let (xs, left) := moreOf read fuel rest
        (x :: xs, left)

/-- A list of at least two entries. -/
def listOf {α : Type} (read : List Char → Read α) (cs : List Char) : Read (List α) :=
  match read cs with
  | none => none
  | some (x, rest) =>
    match moreOf read rest.length rest with
    | ([], _) => none
    | (xs, left) => some (x :: xs, left)

def slice (cs : List Char) : Read Step :=
  let (first, rest) := match signedChars cs with
    | some (text, rest) => (sliceNumber text, rest)
    | none => (0, cs)
  match token? ":" rest with
  | none => none
  | some rest =>
    let (last, rest) := match signedChars (skip rest) with
      | some (text, rest) => (sliceNumber text, rest)
      | none => (0, skip rest)
    let stride? := (token? ":" rest).bind fun rest => indexChars (skip rest)
    match stride? with
    | some (text, rest) => some (.slice first last (strideNumber text), rest)
    | none => some (.slice first last 1, rest)

def relations : List (String × Relation) := [
  ("==", .equal), ("!=", .unequal), ("~=", .matching), (">=", .greaterOrEqual), (">", .greater),
  ("<=", .lessOrEqual), ("<", .less), ("in", .isIn), ("nin", .notIn), ("size", .size),
  ("noneOf", .noneOf), ("anyOf", .anyOf), ("subsetOf", .subsetOf)]

def relation (cs : List Char) : Read Relation :=
  relations.findSome? fun (word, r) => (dropWord? word.toList cs).map fun rest => (r, rest)

/-- A chain of one step that names fields or indices is the list of these. -/
def chainOperand : List Step → Operand
  | [.field name] => .constant (.arr [.str name])
  | [.fields names] => .constant (.texts names)
  | [.items indices] => .constant (.arr (indices.map .num))
  | steps => .found steps

/-- The outcome of a choice: read, not this one, or an error that no other choice mends. -/
inductive Choice (α : Type) where
  | read (value : α) (rest : List Char)
  | other
  | broken

mutual

/-- One or more steps. -/
def chain : Nat → List Char → Choice (List Step)
  | 0, _ => .other
  | fuel + 1, cs =>
    match step fuel cs with
    | .other => .other
    | .broken => .broken
    | .read s rest =>
      match chain fuel (skip rest) with
      | .other => .read [s] rest
      | .broken => .broken
      | .read ss rest => .read (s :: ss) rest

def step : Nat → List Char → Choice Step
  | 0, _ => .other
  | fuel + 1, cs =>
    match cs with
    | '$' :: rest => .read .root rest
    | '@' :: rest =>
      match chain fuel (skip rest) with
      | .read steps rest => .read (.current steps) rest
      | .other => .read (.current []) (skip rest)
      | .broken => .broken
    | _ =>
      match descent cs with
      | some (s, rest) => .read s rest
      | none =>
        match wildcard cs with
        | some rest => .read .wildcard rest
        | none =>
          match fieldStep cs with
          | some (name, rest) => .read (.field name) rest
          | none =>
            match index fuel cs with
            | .read s rest => .read s rest
            | .broken => .broken
            | .other =>
              match length cs with
              | some rest => .read .length rest
              | none => .other
where
  descent (cs : List Char) : Read Step :=
    match (dropWord? ['.'] cs).bind (token? ".") with
    | none => none
    | some rest =>
      match bareName (skip rest) with
      | some (name, left) => some (.descent name, left)
      | none =>
        match bracketName (skip rest) with
        | some (name, left) => some (.descent name, left)
        | none => (token? "*" rest).map fun left => (.descendants, left)
  wildcard (cs : List Char) : Option (List Char) :=
    let inBrackets (cs : List Char) : Option (List Char) :=
      ((dropWord? ['['] cs).bind (token? "*")).bind (token? "]")
    let afterDot := dropWord? ['.'] cs
    match inBrackets (match afterDot with
      | some rest => skip rest
      | none => cs) with
    | some left => some left
    | none => afterDot.bind (token? "*")
  fieldStep (cs : List Char) : Read String :=
    let afterDot := dropWord? ['.'] cs
    match bracketName (afterDot.getD cs) with
    | some r => some r
    | none => afterDot.bind bareName
  length (cs : List Char) : Option (List Char) :=
    (((dropWord? ['.'] cs).bind (token? "length")).bind (token? "(")).bind (token? ")")

/-- A step in brackets. -/
def index : Nat → List Char → Choice Step
  | 0, _ => .other
  | fuel + 1, cs =>
    let cs := match dropWord? ['.'] cs with
      | some rest => skip rest
      | none => cs
    match cs with
    | '[' :: rest =>
      let inner := skip rest
      let found : Choice Step :=
        match listOf quotedText inner with
        | some (names, rest) => .read (.fields names) rest
        | none =>
          match listOf number inner with
          | some (numbers, rest) => .read (.items numbers) rest
          | none =>
            match slice inner with
            | some (s, rest) => .read s rest
            | none =>
              match indexChars inner with
              | some (text, rest) =>
                if text.all Char.isDigit then
                  match numberValue text with
                  | some n => .read (.item (indexOf n)) rest
                  | none => .broken
                else if (token? "]" rest).isSome then .broken
                else .other
              | none =>
                match (dropWord? ['?'] inner).bind (token? "(") with
                | none => .other
                | some rest =>
                  match anyCondition fuel (skip rest) with
                  | .read condition rest =>
                    match token? ")" rest with
                    | some rest => .read (.filter condition) rest
                    | none => .other
                  | .other => .other
                  | .broken => .broken
      match found with
      | .read s rest =>
        match token? "]" rest with
        | some rest => .read s rest
        | none => .other
      | r => r
    | _ => .other

/-- Conditions joined by `||`. -/
def anyCondition : Nat → List Char → Choice Condition
  | 0, _ => .other
  | fuel + 1, cs =>
    match allCondition fuel cs with
    | .read c rest => moreAny fuel c rest
    | r => r

def moreAny : Nat → Condition → List Char → Choice Condition
  | 0, c, cs => .read c cs
  | fuel + 1, c, cs =>
    match token? "||" cs with
    | none => .read c cs
    | some rest =>
      match allCondition fuel (skip rest) with
      | .read d rest => moreAny fuel (.either c d) rest
      | .other => .read c cs
      | .broken => .broken

/-- Conditions joined by `&&`. -/
def allCondition : Nat → List Char → Choice Condition
  | 0, _ => .other
  | fuel + 1, cs =>
    match oneCondition fuel cs with
    | .read c rest => moreAll fuel c rest
    | r => r

def moreAll : Nat → Condition → List Char → Choice Condition
  | 0, c, cs => .read c cs
  | fuel + 1, c, cs =>
    match token? "&&" cs with
    | none => .read c cs
    | some rest =>
      match oneCondition fuel (skip rest) with
      | .read d rest => moreAll fuel (.both c d) rest
      | .other => .read c cs
      | .broken => .broken

/-- A comparison or a condition in parentheses, with an optional negation in front. -/
def oneCondition : Nat → List Char → Choice Condition
  | 0, _ => .other
  | fuel + 1, cs =>
    match cs with
    | '!' :: rest =>
      match atomCondition fuel (skip rest) with
      | .read c rest => .read (.negation c) rest
      | r => r
    | _ => atomCondition fuel cs

def atomCondition : Nat → List Char → Choice Condition
  | 0, _ => .other
  | fuel + 1, cs =>
    match readOperand fuel cs with
    | .broken => .broken
    | .read left rest =>
      match relation (skip rest) with
      | none => .read (.compare left .present (.constant .null)) rest
      | some (r, after) =>
        match readOperand fuel (skip after) with
        | .read right rest => .read (.compare left r right) rest
        | .other => .read (.compare left .present (.constant .null)) rest
        | .broken => .broken
    | .other =>
      match cs with
      | '(' :: rest =>
        match anyCondition fuel (skip rest) with
        | .read c rest =>
          match token? ")" rest with
          | some rest => .read c rest
          | none => .other
        | r => r
      | _ => .other

def readOperand : Nat → List Char → Choice Operand
  | 0, _ => .other
  | fuel + 1, cs =>
    match chain fuel cs with
    | .broken => .broken
    | .read steps rest => .read (chainOperand steps) rest
    | .other =>
      match quotedText cs with
      | some (text, rest) => .read (.constant (.str text)) rest
      | none =>
        match numberChars cs with
        | some (text, rest) =>
          match numberValue text with
          | some n => .read (.constant (.num n)) rest
          | none => .broken
        | none =>
          match dropWord? "true".toList cs with
          | some rest => .read (.constant (.bool true)) rest
          | none =>
            match dropWord? "false".toList cs with
            | some rest => .read (.constant (.bool false)) rest
            | none =>
              match dropWord? "null".toList cs with
              | some rest => .read (.constant .null) rest
              | none => .other

end

/-- Reads a whole expression. -/
def parse? (text : String) : Option (List Step) :=
  let cs := text.toList
  match chain (8 * cs.length + 16) (skip cs) with
  | .read steps rest => if (skip rest).isEmpty then some steps else none
  | _ => none

end StubServer.Json.Path
