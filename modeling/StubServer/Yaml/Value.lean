import StubServer.Number.Reader
import StubServer.Number.Shortest
import StubServer.Yaml.Node

/-! # Values of YAML nodes

A plain scalar is null, a truth value, a number or a text by its form; a quoted scalar is a text.
A core tag asks for one kind, and any other tag wraps the value.  A key occurs once in a mapping.
-/

namespace StubServer.Yaml

open Number (Double DecimalLayout dropSign)

/-! ## Forms of scalars -/

def isNullText (s : String) : Bool := s == "null" || s == "Null" || s == "NULL" || s == "~"

def bool? (s : String) : Option Bool :=
  if s = "true" ∨ s = "True" ∨ s = "TRUE" then some true
  else if s = "false" ∨ s = "False" ∨ s = "FALSE" then some false
  else none

def digitOf? (base : Nat) (c : Char) : Option Nat :=
  (hexDigit? c).bind fun d => if d < base then some d else none

/-- Digits of a base, at least one. -/
def digits? (base : Nat) (cs : List Char) : Option Nat :=
  if cs.isEmpty then none
  else cs.foldlM (fun n c => (digitOf? base c).map fun d => n * base + d) 0

/-- More than one digit, the first a zero: a text and no number. -/
def isPaddedDigits (cs : List Char) : Bool :=
  match dropSign cs with
  | '0' :: d :: rest => (d :: rest).all Char.isDigit
  | _ => false

/-- The base that a number's first two characters announce, and its digits. -/
def based? (cs : List Char) : Option (Nat × List Char) :=
  match cs with
  | '0' :: 'x' :: rest => some (16, rest)
  | '0' :: 'o' :: rest => some (8, rest)
  | '0' :: 'b' :: rest => some (2, rest)
  | _ => none

def startsSigned (cs : List Char) : Bool := cs.head? == some '+' || cs.head? == some '-'

/-- An integer without a minus sign. -/
def natural? (s : String) : Option Nat :=
  let unsigned := match s.toList with
    | '+' :: rest => rest
    | cs => cs
  let inBase := (based? unsigned).bind fun (base, rest) => digits? base rest
  match inBase with
  | some n => some n
  | none =>
    if startsSigned unsigned || isPaddedDigits s.toList then none else digits? 10 unsigned

/-- An integer with a minus sign. -/
def negative? (s : String) : Option Int :=
  match s.toList with
  | '-' :: rest =>
    let inBase := (based? rest).bind fun (base, rest) => digits? base rest
    match inBase with
    | some n => some (-(n : Int))
    | none =>
      if isPaddedDigits s.toList then none else (digits? 10 rest).map fun n => -(n : Int)
  | _ => none

/-- An integer of 64 bits with a sign. -/
def integer? (s : String) : Option Int :=
  let n? : Option Int := match natural? s with
    | some n => some n
    | none => negative? s
  n?.bind fun n => if Number.fitsSigned 64 n then some n else none

/-- An integer of 64 bits without a sign. -/
def size? (s : String) : Option Nat :=
  (natural? s).bind fun n => if Number.fits 64 n then some n else none

/-- A floating point number; infinities and no number have names that begin with a point. -/
def float? (s : String) : Option Double :=
  let unsigned := match s.toList with
    | '+' :: rest => rest
    | cs => cs
  let name := String.ofList unsigned
  if s.toList.head? = some '+' ∧ startsSigned unsigned then none
  else if name = ".inf" ∨ name = ".Inf" ∨ name = ".INF" then some (.infinite false)
  else if s = "-.inf" ∨ s = "-.Inf" ∨ s = "-.INF" then some (.infinite true)
  else if s = ".nan" ∨ s = ".NaN" ∨ s = ".NAN" then some .nan
  else (Double.ofText? unsigned).bind fun x => if x.isFinite then some x else none

/-! ## Values -/

inductive Value where
  | null
  | bool (b : Bool)
  | int (n : Int)
  | float (x : Double)
  | text (s : String)
  | sequence (items : List Value)
  | mapping (entries : List (Value × Value))
  | tagged (tag : String) (value : Value)
  deriving Repr, Inhabited

namespace Value

def sameFloat (x y : Double) : Bool := (x == .nan && y == .nan) || Double.equal x y

mutual

/-- Equality of values; mappings are equal in any order of their entries. -/
def same : Value → Value → Bool
  | .null, .null => true
  | .bool a, .bool b => a == b
  | .int a, .int b => a == b
  | .float x, .float y => sameFloat x y
  | .text a, .text b => a == b
  | .sequence xs, .sequence ys => sameItems xs ys
  | .mapping xs, .mapping ys => xs.length == ys.length && allIn xs ys
  | .tagged s x, .tagged t y => s == t && same x y
  | _, _ => false

def sameItems : List Value → List Value → Bool
  | [], [] => true
  | x :: xs, y :: ys => same x y && sameItems xs ys
  | _, _ => false

def allIn : List (Value × Value) → List (Value × Value) → Bool
  | [], _ => true
  | (k, v) :: rest, ys => ys.any (fun (l, w) => same k l && same v w) && allIn rest ys

end

end Value

/-- An integer of 64 bits, with a sign if it has one; a larger one is an error and anything else
no integer. -/
def wideInt? (s : String) : Option (Except Unit Int) :=
  match natural? s with
  | some n =>
    if Number.fits 64 n then some (.ok n)
    else if Number.fits 128 n then some (.error ())
    else none
  | none =>
    match negative? s with
    | some n =>
      if Number.fitsSigned 64 n then some (.ok n)
      else if Number.fitsSigned 128 n then some (.error ())
      else none
    | none => none

/-- The value of a plain scalar without a tag. -/
def plainValue? (s : String) : Option Value :=
  if s.isEmpty || isNullText s then some .null
  else
    match bool? s with
    | some b => some (.bool b)
    | none =>
      match wideInt? s with
      | some (.ok n) => some (.int n)
      | some (.error ()) => none
      | none =>
        match (if isPaddedDigits s.toList then none else float? s) with
        | some x => some (.float x)
        | none => some (.text s)

def coreTag (name : String) : String := "tag:yaml.org,2002:" ++ name

/-- The name of a tag that begins with an exclamation mark. -/
def localTag? (tag : Option String) : Option String :=
  match tag with
  | some tag =>
    match tag.toList with
    | '!' :: rest => some (String.ofList rest)
    | _ => none
  | none => none

/-- The value of a scalar whose tag, if any, is not local. -/
def scalarValue (text : String) (style : Style) (tag : Option String) : Option Value :=
  match tag with
  | none => if style = .plain then plainValue? text else some (.text text)
  | some tag =>
    if tag = coreTag "bool" then (bool? text).map .bool
    else if tag = coreTag "int" then
      match wideInt? text with
      | some (.ok n) => some (.int n)
      | _ => none
    else if tag = coreTag "float" then (float? text).map .float
    else if tag = coreTag "null" then if isNullText text then some .null else none
    else some (.text text)

mutual

/-- The value of a node without aliases. -/
def Node.value? : Node → Option Value
  | .alias _ => none
  | .scalar text style tag =>
    match localTag? tag with
    | some name =>
      (if style = .plain then plainValue? text else some (.text text)).map (.tagged name)
    | none => scalarValue text style tag
  | .sequence tag items =>
    (itemValues? items).map fun xs =>
      match localTag? tag with
      | some name => .tagged name (.sequence xs)
      | none => .sequence xs
  | .mapping tag entries =>
    (entryValues? [] entries).map fun xs =>
      match localTag? tag with
      | some name => .tagged name (.mapping xs)
      | none => .mapping xs

def itemValues? : List Node → Option (List Value)
  | [] => some []
  | x :: xs =>
    match Node.value? x, itemValues? xs with
    | some v, some vs => some (v :: vs)
    | _, _ => none

/-- The entries in order; `before` holds the keys that occurred already. -/
def entryValues? (before : List Value) : List (Node × Node) → Option (List (Value × Value))
  | [] => some []
  | (k, v) :: rest =>
    match Node.value? k with
    | none => none
    | some key =>
      if before.any (Value.same key) then none
      else
        match Node.value? v, entryValues? (key :: before) rest with
        | some value, some more => some ((key, value) :: more)
        | _, _ => none

end

/-- The entries of a document that is a mapping or nothing at all. -/
def mapping? (text : String) : Option (List (Value × Value)) :=
  match parse? text with
  | none => none
  | some none => some []
  | some (some (.mapping _ entries)) => entryValues? [] entries
  | some (some (.scalar "" .plain _)) => some []
  | some (some _) => none

def floatLayout : DecimalLayout := ⟨"", ".inf", "-.inf", ".nan"⟩

/-- The text of a scalar value; null is empty. -/
def Value.scalarText? : Value → Option String
  | .null => some ""
  | .bool b => some (if b then "true" else "false")
  | .int n => some (toString n)
  | .float x => some (String.ofList (x.text floatLayout))
  | .text s => some s
  | _ => none

end StubServer.Yaml
