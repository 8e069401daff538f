import StubServer.Json.Basic
import StubServer.Text.Blank

/-! # Places in a JSON value

A pointer leads from the root of a value through members and items to a place in it.  Indices on
the way are plain: no sign and no leading zero.  Only the last index of an edit may be written
with a plus sign or leading zeros, and `-` stands for the place behind the last item.
-/

namespace StubServer.Json

/-- Undoes the escapes of a token: first `~1`, then `~0`. -/
def unescapeToken (cs : List Char) : String :=
  String.ofList (Text.replaceAll ['~', '0'] ['~'] (Text.replaceAll ['~', '1'] ['/'] cs))

/-- The tokens of a pointer, which is empty or begins with a slash. -/
def pointerTokens? (path : String) : Option (List String) :=
  match path.toList with
  | [] => some []
  | '/' :: rest => some ((Text.splitChars '/' rest).map unescapeToken)
  | _ => none

def decimalValue (cs : List Char) : Nat := cs.foldl (fun n c => n * 10 + (c.toNat - 48)) 0

/-- Digits that stand for a number of 64 bits. -/
def digitsIndex? (cs : List Char) : Option Nat :=
  if cs.isEmpty || !cs.all Char.isDigit || !Number.fits 64 (decimalValue cs) then none
  else some (decimalValue cs)

/-- An index on the way to a place. -/
def plainIndex? (token : String) : Option Nat :=
  match token.toList with
  | '0' :: _ :: _ => none
  | cs => digitsIndex? cs

/-- The last index of an edit. -/
def editIndex? (token : String) : Option Nat :=
  match token.toList with
  | '+' :: cs => digitsIndex? cs
  | cs => digitsIndex? cs

/-- The value one step below. -/
def child? (j : Json) (token : String) : Option Json :=
  match j with
  | .obj members => Table.get? members token
  | .arr items => (plainIndex? token).bind fun i => items[i]?
  | _ => none

/-- The value that the tokens lead to. -/
def resolve? (j : Json) : List String → Option Json
  | [] => some j
  | token :: rest => (j.child? token).bind fun c => resolve? c rest

/-- Replaces the value one step below, which has to be there. -/
def setChild (j : Json) (token : String) (value : Json) : Json :=
  match j with
  | .obj members => .obj (Table.replace members token value)
  | .arr items =>
    match plainIndex? token with
    | some i => .arr (items.set i value)
    | none => j
  | _ => j

/-- Adds a value to a container: as a member, or before the item of that index. -/
def addHere (j : Json) (token : String) (value : Json) : Option Json :=
  match j with
  | .obj members => some (.obj (Table.insert members token value))
  | .arr items =>
    if token = "-" then some (.arr (items ++ [value]))
    else
      match editIndex? token with
      | some i => if i ≤ items.length then some (.arr (items.insertIdx i value)) else none
      | none => none
  | _ => none

/-- Adds a value at the place that the tokens name; without tokens it takes the place of all.  To follow the
tokens to the container is to follow the pointer that is written out of them, with all escapes made and undone
again (`addAt_pointerText`, and `removeAt_pointerText` for taking out). -/
def addAt (value : Json) : List String → Json → Option Json
  | [], _ => some value
  | [token], j => j.addHere token value
  | token :: rest, j =>
    match j.child? token with
    | none => none
    | some c => (addAt value rest c).map fun c => j.setChild token c

/-- Takes a member or an item out of a container, if it is there. -/
def removeHere (j : Json) (token : String) : Json :=
  match j with
  | .obj members => .obj (Table.erase members token)
  | .arr items =>
    match editIndex? token with
    | some i => .arr (items.eraseIdx i)
    | none => j
  | _ => j

/-- Takes out the value at the place that the tokens name; without tokens only null is left. -/
def removeAt : List String → Json → Json
  | [], _ => .null
  | [token], j => j.removeHere token
  | token :: rest, j =>
    match j.child? token with
    | none => j
    | some c => j.setChild token (removeAt rest c)

end StubServer.Json
