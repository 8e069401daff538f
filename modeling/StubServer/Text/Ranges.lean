/-! # Ranges of code points

A set of code points is a list of inclusive ranges in ascending order.  Large sets are written as
text, `A-B` for a range and `A` for a single code point, in hexadecimal, with blanks or line
ends between them.
-/

namespace StubServer.Text

abbrev Ranges := List (Nat × Nat)

namespace Ranges

/-- Membership; the search ends at the first range that does not lie below `n`. -/
def contains : Ranges → Nat → Bool
  | [], _ => false
  | (low, high) :: rest, n => if n ≤ high then decide (low ≤ n) else contains rest n

def hexValue (c : Char) : Nat :=
  if '0' ≤ c ∧ c ≤ '9' then c.toNat - 48
  else if 'A' ≤ c ∧ c ≤ 'F' then c.toNat - 55
  else if 'a' ≤ c ∧ c ≤ 'f' then c.toNat - 87
  else 0

def hexNumber (cs : List Char) : Nat := cs.foldl (fun n c => n * 16 + hexValue c) 0

/-- The pieces between blanks and line ends; `word` is the piece being read, last character
first. -/
def words (word : List Char) : List Char → List (List Char)
  | [] => if word.isEmpty then [] else [word.reverse]
  | c :: rest =>
    if c = ' ' ∨ c = '\n' then
      if word.isEmpty then words [] rest else word.reverse :: words [] rest
    else words (c :: word) rest

def readRange (word : List Char) : Nat × Nat :=
  match word.span (· != '-') with
  | (low, _ :: high) => (hexNumber low, hexNumber high)
  | (only, []) => (hexNumber only, hexNumber only)

def ofText (text : String) : Ranges := (words [] text.toList).map readRange

/-- Joins ranges that touch or overlap; `current` is the range being grown. -/
def joinFrom (current : Nat × Nat) : Ranges → Ranges
  | [] => [current]
  | (low, high) :: rest =>
    if low ≤ current.2 + 1 then joinFrom (current.1, max current.2 high) rest
    else current :: joinFrom (low, high) rest

/-- Puts ranges that came in any order into ascending order without overlap. -/
def normalize (rs : Ranges) : Ranges :=
  match rs.mergeSort fun a b => a.1 ≤ b.1 with
  | [] => []
  | r :: rest => joinFrom r rest

def union (a b : Ranges) : Ranges := normalize (a ++ b)

/-- What lies between `next` and `top` and in none of the ranges. -/
def gaps (top next : Nat) : Ranges → Ranges
  | [] => if next ≤ top then [(next, top)] else []
  | (low, high) :: rest =>
    if next < low then (next, low - 1) :: gaps top (high + 1) rest else gaps top (high + 1) rest

/-- All code points up to `top` that are not in the set. -/
def complement (top : Nat) (rs : Ranges) : Ranges := gaps top 0 (normalize rs)

def intersect (top : Nat) (a b : Ranges) : Ranges :=
  complement top (union (complement top a) (complement top b))

def difference (top : Nat) (a b : Ranges) : Ranges := intersect top a (complement top b)

def symmetricDifference (top : Nat) (a b : Ranges) : Ranges :=
  union (difference top a b) (difference top b a)

end Ranges

end StubServer.Text
