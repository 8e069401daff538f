import StubServer.Number.Shortest
import StubServer.Table

/-! # JSON values

Numbers are integers or floating point numbers and stay what they were written as.  The members
of an object are kept in ascending order of their names, each name once.
-/

namespace StubServer

open Number (Double)

inductive JsonNumber where
  | int (n : Int)
  | float (x : Double)
  deriving DecidableEq, Repr

/-- Integers are equal to integers and floating point numbers to floating point numbers. -/
def JsonNumber.same : JsonNumber → JsonNumber → Bool
  | .int m, .int n => m == n
  | .float x, .float y => Double.equal x y
  | _, _ => false

def JsonNumber.toDouble : JsonNumber → Double
  | .int n => Double.ofInt n
  | .float x => x

inductive Json where
  | null
  | bool (b : Bool)
  | num (n : JsonNumber)
  | str (s : String)
  | arr (items : List Json)
  | obj (members : List (String × Json))
  deriving Repr, Inhabited

/-- The members of an object. -/
abbrev Members := Table Json

namespace Json

def ofInt (n : Int) : Json := .num (.int n)

def ofNat (n : Nat) : Json := .num (.int n)

def object (members : List (String × Json)) : Json := .obj (Table.ofList members)

def texts (items : List String) : Json := .arr (items.map .str)

def isNull : Json → Bool
  | .null => true
  | _ => false

def asText? : Json → Option String
  | .str s => some s
  | _ => none

def asBool? : Json → Option Bool
  | .bool b => some b
  | _ => none

/-- The integer, when the number is one that fits 64 bits with a sign. -/
def asInt64? : Json → Option Int
  | .num (.int n) => if Number.fitsSigned 64 n then some n else none
  | _ => none

/-- The integer, when the number is one without a sign. -/
def asNat? : Json → Option Nat
  | .num (.int n) => if 0 ≤ n then some n.toNat else none
  | _ => none

def member? (j : Json) (key : String) : Option Json :=
  match j with
  | .obj members => Table.get? members key
  | _ => none

mutual

/-- Equality of values, with numbers compared by `JsonNumber.same`. -/
def same : Json → Json → Bool
  | .null, .null => true
  | .bool a, .bool b => a == b
  | .num a, .num b => a.same b
  | .str a, .str b => a == b
  | .arr xs, .arr ys => sameItems xs ys
  | .obj xs, .obj ys => sameMembers xs ys
  | _, _ => false

def sameItems : List Json → List Json → Bool
  | [], [] => true
  | x :: xs, y :: ys => same x y && sameItems xs ys
  | _, _ => false

def sameMembers : List (String × Json) → List (String × Json) → Bool
  | [], [] => true
  | (k, x) :: xs, (l, y) :: ys => k == l && same x y && sameMembers xs ys
  | _, _ => false

end

end Json

end StubServer
