import StubServer.Json.Reader
import StubServer.Template.Basic
import StubServer.Text.Blank

/-! # Reading names, paths and operands

What stands inside of a tag is a name and its operands.  An operand is a value written as in JSON,
a path into the data, or a call in parentheses, and may have a name of its own in front.  Every
reader takes the characters it needs from the front and gives back the rest.
-/

namespace StubServer.Template

abbrev Read (α : Type) := Option (α × List Char)

def skipSpace (cs : List Char) : List Char := Json.skipSpace cs

def isSymbol (c : Char) : Bool := c.isAlphanum || c == '_' || c == '-' || c == '$' || 0x80 ≤ c.toNat

def startsWithSymbol (cs : List Char) : Bool := cs.head?.any isSymbol

/-- What has been read of `cs` when `rest` is left. -/
def readPart (cs rest : List Char) : List Char := cs.take (cs.length - rest.length)

/-- A mark behind optional white space. -/
def mark? (mark : String) (cs : List Char) : Option (List Char) :=
  Text.dropStart? mark.toList (skipSpace cs)

def identifier (cs : List Char) : Read String :=
  match cs.takeWhile isSymbol with
  | [] => none
  | name => some (String.ofList name, cs.dropWhile isSymbol)

/-! ## Paths -/

def dropSeparator? : List Char → Option (List Char)
  | '/' :: rest => some rest
  | '.' :: rest => some rest
  | _ => none

/-- A name of a member; in brackets it may hold anything but their end. -/
def memberName (cs : List Char) : Read String :=
  match cs with
  | '[' :: rest => (Text.splitOnce ']' rest).map fun (name, rest) => (String.ofList name, rest)
  | _ => identifier cs

/-- The value itself is no step. -/
def memberSteps (name : String) : List PathStep := if name = "this" then [] else [.member name]

/-- The start of a path that says that it begins at the value itself. -/
def dropCurrent (cs : List Char) : List Char :=
  match (Text.dropStart? "this".toList cs).bind dropSeparator? with
  | some rest => rest
  | none => (Text.dropStart? "./".toList cs).getD cs

def rootStep (cs : List Char) : List PathStep × List Char :=
  match (Text.dropStart? "@root".toList cs).bind dropSeparator? with
  | some rest => ([.root], rest)
  | none => ([], cs)

def markerStep : List Char → List PathStep × List Char
  | '@' :: rest => ([.marker], rest)
  | cs => ([], cs)

def upSteps : List Char → List PathStep × List Char
  | '.' :: '.' :: '/' :: rest => let (steps, rest) := upSteps rest; (.up :: steps, rest)
  | '.' :: '.' :: '.' :: rest => let (steps, rest) := upSteps rest; (.up :: steps, rest)
  | cs => ([], cs)

/-- Further members behind the first; the number bounds how many are read. -/
def moreMembers : Nat → List Char → List PathStep × List Char
  | 0, cs => ([], cs)
  | fuel + 1, cs =>
    match (dropSeparator? cs).bind memberName with
    | none => ([], cs)
    | some (name, rest) =>
      let (steps, rest) := moreMembers fuel rest
      (memberSteps name ++ steps, rest)

def readPath (cs : List Char) : Read Path :=
  let (root, rest) := rootStep (dropCurrent cs)
  let (marker, rest) := markerStep rest
  let (up, rest) := upSteps rest
  match memberName rest with
  | none => none
  | some (name, rest) =>
    let (more, rest) := moreMembers rest.length rest
    some (⟨String.ofList (readPart cs rest), root ++ marker ++ up ++ memberSteps name ++ more⟩, rest)

/-! ## Values as in JSON -/

def isHex (c : Char) : Bool := (Json.hexDigit? c).isSome

/-- What follows the end of a string that has been opened. -/
def stringEnd (quote : Char) : List Char → Option (List Char)
  | [] => none
  | '\\' :: 'u' :: a :: b :: c :: d :: rest =>
    if [a, b, c, d].all isHex then stringEnd quote rest else none
  | '\\' :: c :: rest =>
    if c = quote || "\\/bfnrt".toList.contains c then stringEnd quote rest else none
  | c :: rest => if c = quote then some rest else stringEnd quote rest

/-- The rest, unless the word before it goes on. -/
def wordEnd (rest : List Char) : Option (List Char) :=
  if startsWithSymbol rest then none else some rest

def dropDigits? (cs : List Char) : Option (List Char) :=
  if cs.head?.any Char.isDigit then some (cs.dropWhile Char.isDigit) else none

def exponentEnd (cs : List Char) : List Char :=
  match cs with
  | 'E' :: rest =>
    (dropDigits? (match rest with
      | '-' :: rest => rest
      | rest => rest)).getD cs
  | _ => cs

def numberEnd (cs : List Char) : Option (List Char) :=
  let unsigned := match cs with
    | '-' :: rest => rest
    | cs => cs
  match dropDigits? unsigned with
  | none => none
  | some rest =>
    let rest := match rest with
      | '.' :: rest => rest.dropWhile Char.isDigit
      | rest => rest
    wordEnd (exponentEnd rest)

def namedValueEnd (cs : List Char) : Option (List Char) :=
  ["null", "true", "false"].findSome? fun word => (Text.dropStart? word.toList cs).bind wordEnd

mutual

/-- What follows a value that has the form of JSON; whether it also keeps all of the rules of
JSON is not looked at. -/
def valueEnd : Nat → List Char → Option (List Char)
  | 0, _ => none
  | fuel + 1, cs =>
    match cs with
    | '"' :: rest => stringEnd '"' rest
    | '\'' :: rest => stringEnd '\'' rest
    | '[' :: rest => (itemsEnd fuel ((valueEnd fuel (skipSpace rest)).getD rest)).bind (mark? "]")
    | '{' :: rest => (membersEnd fuel ((memberEnd fuel (skipSpace rest)).getD rest)).bind (mark? "\x7d")
    | _ => (numberEnd cs).or (namedValueEnd cs)

def itemsEnd : Nat → List Char → Option (List Char)
  | 0, _ => none
  | fuel + 1, cs =>
    match mark? "," cs with
    | none => some cs
    | some rest => (valueEnd fuel (skipSpace rest)).bind (itemsEnd fuel)

def memberEnd : Nat → List Char → Option (List Char)
  | 0, _ => none
  | fuel + 1, cs =>
    let afterName := match cs with
      | '"' :: rest => stringEnd '"' rest
      | '\'' :: rest => stringEnd '\'' rest
      | _ => none
    (afterName.bind (mark? ":")).bind fun rest => valueEnd fuel (skipSpace rest)

def membersEnd : Nat → List Char → Option (List Char)
  | 0, _ => none
  | fuel + 1, cs =>
    match mark? "," cs with
    | none => some cs
    | some rest => (memberEnd fuel (skipSpace rest)).bind (membersEnd fuel)

end

/-- The text of a string in single quotes as one in double quotes. -/
def requote (inner : List Char) : List Char :=
  '"' :: Text.replaceAll ['"'] ['\\', '"'] (Text.replaceAll ['\\', '\''] ['\''] inner) ++ ['"']

def valueOf? (written : List Char) : Option Json :=
  match written with
  | '\'' :: rest => Json.parseChars? (requote rest.dropLast)
  | _ => Json.parseChars? written

/-! ## Operands -/

/-- The words that stand for something else where an operand could be. -/
def startsKeyword (cs : List Char) : Bool :=
  ["as", "else"].any fun word =>
    (Text.dropStart? word.toList cs).any fun rest => !startsWithSymbol (skipSpace rest)

abbrev Operands := List Expr × Table Expr

mutual

def operand : Nat → List Char → Read Expr
  | 0, _ => none
  | fuel + 1, cs =>
    if startsKeyword cs then none
    else
      match valueEnd (cs.length + 1) cs with
      | some rest => (valueOf? (readPart cs rest)).map fun j => (.constant j, rest)
      | none =>
        match readPath cs with
        | some (path, rest) => some (.path path, rest)
        | none => callInParentheses fuel cs

def callInParentheses : Nat → List Char → Read Expr
  | 0, _ => none
  | fuel + 1, cs =>
    match cs with
    | '(' :: rest =>
      (nameAndOperands fuel (skipSpace rest)).bind fun (call, rest) =>
        (mark? ")" rest).map fun rest => (call, rest)
    | _ => none

/-- A name with at least one operand, or a path without any. -/
def nameAndOperands : Nat → List Char → Read Expr
  | 0, _ => none
  | fuel + 1, cs =>
    let withOperands := (identifier cs).bind fun (name, rest) =>
      let ((params, named), rest) := operands fuel rest
      if params.isEmpty && named.isEmpty then none
      else some (.call (.word name) params named, rest)
    withOperands.or ((readPath cs).map fun (path, rest) => (.call (.path path) [] [], rest))

def namedOperand : Nat → List Char → Read (String × Expr)
  | 0, _ => none
  | fuel + 1, cs =>
    (identifier cs).bind fun (name, rest) =>
      (mark? "=" rest).bind fun rest =>
        (operand fuel (skipSpace rest)).map fun (value, rest) => ((name, value), rest)

/-- All operands that follow; of two with one name the later counts. -/
def operands : Nat → List Char → Operands × List Char
  | 0, cs => (([], []), cs)
  | fuel + 1, cs =>
    match namedOperand fuel (skipSpace cs) with
    | some ((name, value), rest) =>
      let ((params, named), rest) := operands fuel rest
      ((params, if Table.contains named name then named else Table.insert named name value), rest)
    | none =>
      match operand fuel (skipSpace cs) with
      | some (value, rest) =>
        let ((params, named), rest) := operands fuel rest
        ((value :: params, named), rest)
      | none => (([], []), cs)

end

/-- Reads are bounded by a number of steps that the length of the text suffices for. -/
def stepsFor (cs : List Char) : Nat := 4 * cs.length + 4

def readOperands (cs : List Char) : Operands × List Char := operands (stepsFor cs) cs

/-- The names that the body of a block uses for what it runs over. -/
def blockNames (cs : List Char) : List String × List Char :=
  let names : Option (List String × List Char) := do
    let rest ← mark? "as" cs
    let rest ← mark? "|" rest
    let (first, rest) ← identifier (skipSpace rest)
    match identifier (skipSpace rest) with
    | some (second, rest) => return ([first, second], ← mark? "|" rest)
    | none => return ([first], ← mark? "|" rest)
  names.getD ([], cs)

/-- A name, its operands and the names for a body. -/
def line (cs : List Char) : Read (Call × List String) :=
  (identifier (skipSpace cs)).map fun (name, rest) =>
    let ((params, named), rest) := readOperands rest
    let (names, rest) := blockNames rest
    ((⟨.word name, params, named⟩, names), rest)

/-- A name alone: a call in parentheses or a path. -/
def nameAlone (cs : List Char) : Read Call :=
  let cs := skipSpace cs
  match callInParentheses (stepsFor cs) cs with
  | some (call, rest) => some (⟨call, [], []⟩, rest)
  | none => (readPath cs).map fun (path, rest) => (⟨.path path, [], []⟩, rest)

/-- A name with operands, or a name alone. -/
def callOrName (cs : List Char) : Read Call :=
  let withOperands : Read Call := (identifier (skipSpace cs)).bind fun (name, rest) =>
    let ((params, named), rest) := readOperands rest
    if params.isEmpty && named.isEmpty then none else some (⟨.word name, params, named⟩, rest)
  withOperands.or (nameAlone cs)

end StubServer.Template
