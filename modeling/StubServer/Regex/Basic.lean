import StubServer.Regex.WordSet
import StubServer.Text.Utf8

/-! # Regular expressions on bytes

An expression says from which places of a byte sequence it can lead to which others.  Characters
are matched in their UTF-8 form, so bytes that are no UTF-8 match only where single bytes are
asked for.  `ends` carries a set of places through an expression; a search asks whether the set
of all places leads anywhere.
-/

namespace StubServer

open Text (Ranges)
open Text.Utf8 (Bytes Front)

/-- Conditions on a place that take up no bytes. -/
inductive Look where
  | textStart
  | textEnd
  | lineStart
  | lineEnd
  /-- Lines end in a carriage return, a newline or both. -/
  | anyLineStart
  | anyLineEnd
  | wordBoundary (isUnicode : Bool)
  | notWordBoundary (isUnicode : Bool)
  | wordStart (isUnicode : Bool)
  | wordEnd (isUnicode : Bool)
  | wordStartHalf (isUnicode : Bool)
  | wordEndHalf (isUnicode : Bool)
  deriving DecidableEq, Repr

inductive Regex where
  | empty
  /-- One character of the set, in UTF-8. -/
  | char (set : Ranges)
  /-- One byte of the set. -/
  | byte (set : Ranges)
  | look (condition : Look)
  | seq (first second : Regex)
  | alt (first second : Regex)
  /-- At least `least` times, and at most `extra` times more if that is given. -/
  | repeated (body : Regex) (least : Nat) (extra : Option Nat)
  deriving DecidableEq, Repr

namespace Regex

/-- A byte sequence with access at any place. -/
abbrev Subject := Array UInt8

/-- Ascending places without repetition. -/
abbrev Places := List Nat

def Places.merge : Places → Places → Places
  | [], qs => qs
  | p :: ps, qs => go p ps (merge ps) qs
where
  /-- Puts `p` and then the rest into `qs`. -/
  go (p : Nat) (ps : Places) (mergeRest : Places → Places) : Places → Places
    | [] => p :: ps
    | q :: qs =>
      if p < q then p :: mergeRest (q :: qs)
      else if p = q then p :: mergeRest qs
      else q :: go p ps mergeRest qs

def Places.without (ps qs : Places) : Places := ps.filter fun p => !qs.contains p

/-- What begins at a place: a character, broken bytes, or nothing at the end. -/
def frontAt (subject : Subject) (p : Nat) : Option Front :=
  match (subject.extract p (p + 4)).toList with
  | [] => none
  | a :: rest => some (Text.Utf8.front a rest)

/-- A byte that cannot be inside a character. -/
def isLead (b : UInt8) : Bool := b < 0x80 || 0xC0 ≤ b

/-- The nearest place before `p` that may begin a character, at most four bytes back. -/
def leadBefore (subject : Subject) (p : Nat) : Nat → Nat
  | 0 => p - 1
  | steps + 1 =>
    if p ≤ 1 ∨ isLead (subject.getD (p - 1) 0) then p - 1 else leadBefore subject (p - 1) steps

/-- The character before a place, as far as the bytes before it hold one. -/
def frontBefore (subject : Subject) (p : Nat) : Option Front :=
  if p = 0 then none
  else frontAt (subject.extract 0 p) (leadBefore subject p 3)

def isWordFront : Option Front → Bool
  | some (.char c _) => wordRanges.contains c.toNat
  | _ => false

def isBroken : Option Front → Bool
  | some (.broken _) => true
  | _ => false

def isWordByte (b : UInt8) : Bool :=
  (48 ≤ b && b ≤ 57) || (65 ≤ b && b ≤ 90) || b == 95 || (97 ≤ b && b ≤ 122)

def wordBefore (subject : Subject) (p : Nat) (isUnicode : Bool) : Bool :=
  if isUnicode then isWordFront (frontBefore subject p)
  else 0 < p && (subject[p - 1]?.map isWordByte).getD false

def wordAfter (subject : Subject) (p : Nat) (isUnicode : Bool) : Bool :=
  if isUnicode then isWordFront (frontAt subject p)
  else (subject[p]?.map isWordByte).getD false

def holdsAt (subject : Subject) (p : Nat) : Look → Bool
  | .textStart => p == 0
  | .textEnd => p == subject.size
  | .lineStart => p == 0 || subject[p - 1]? == some 10
  | .lineEnd => p == subject.size || subject[p]? == some 10
  | .anyLineStart =>
    p == 0 || subject[p - 1]? == some 10 ||
      (subject[p - 1]? == some 13 && subject[p]? != some 10)
  | .anyLineEnd =>
    p == subject.size || subject[p]? == some 13 ||
      (subject[p]? == some 10 && (p == 0 || subject[p - 1]? != some 13))
  | .wordBoundary u => wordBefore subject p u != wordAfter subject p u
  | .notWordBoundary u =>
    !(u && (isBroken (frontBefore subject p) || isBroken (frontAt subject p))) &&
      wordBefore subject p u == wordAfter subject p u
  | .wordStart u => !wordBefore subject p u && wordAfter subject p u
  | .wordEnd u => wordBefore subject p u && !wordAfter subject p u
  | .wordStartHalf u =>
    !(u && isBroken (frontBefore subject p)) && !wordBefore subject p u
  | .wordEndHalf u =>
    !(u && isBroken (frontAt subject p)) && !wordAfter subject p u

/-- All places that `step` leads to from `fresh` in any number of steps, with those in `seen`. -/
def close (step : Places → Places) (seen fresh : Places) : Nat → Places
  | 0 => seen
  | tries + 1 =>
    match Places.without (step fresh) seen with
    | [] => seen
    | found => close step (Places.merge seen found) found tries

/-- The places after exactly `count` steps. -/
def iterate (step : Places → Places) : Nat → Places → Places
  | 0, ps => ps
  | _ + 1, [] => []
  | count + 1, ps => iterate step count (step ps)

/-- The places after at most `count` steps. -/
def iterateUpTo (step : Places → Places) : Nat → Places → Places
  | 0, ps => ps
  | _ + 1, [] => []
  | count + 1, ps => Places.merge ps (iterateUpTo step count (step ps))

/-- The places that the expression leads to from any of the given ones. -/
def ends (subject : Subject) : Regex → Places → Places
  | .empty, ps => ps
  | .char set, ps =>
    ps.filterMap fun p =>
      match frontAt subject p with
      | some (.char c size) => if set.contains c.toNat then some (p + size) else none
      | _ => none
  | .byte set, ps =>
    ps.filterMap fun p =>
      match subject[p]? with
      | some b => if set.contains b.toNat then some (p + 1) else none
      | none => none
  | .look condition, ps => ps.filter fun p => holdsAt subject p condition
  | .seq a b, ps => ends subject b (ends subject a ps)
  | .alt a b, ps => Places.merge (ends subject a ps) (ends subject b ps)
  | .repeated body least extra, ps =>
    let start := iterate (ends subject body) least ps
    match extra with
    | none => close (ends subject body) start start (subject.size + 2)
    | some count => iterateUpTo (ends subject body) count start

/-- The expression matches some part of the subject. -/
def matchesBytes (r : Regex) (bytes : Bytes) : Bool :=
  let subject := bytes.toArray
  !(ends subject r (List.range (subject.size + 1))).isEmpty

end Regex

end StubServer
