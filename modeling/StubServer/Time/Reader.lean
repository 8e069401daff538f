import StubServer.Text.Blank
import StubServer.Text.Case
import StubServer.Time.Instant

/-! # Reading timestamps

A timestamp has a date, a time of day and the distance of its zone from universal time.  Blanks
may stand between most of the parts, and numbers may have fewer digits than usual.
-/

namespace StubServer.Time

abbrev Read (α : Type) := Option (α × List Char)

def skipBlanks (cs : List Char) : List Char := cs.dropWhile Text.isBlank

def digitsValue (cs : List Char) : Nat := cs.foldl (fun n c => n * 10 + (c.toNat - 48)) 0

def leadingDigits (most : Nat) (cs : List Char) : List Char := (cs.take most).takeWhile Char.isDigit

/-- A number of one digit up to `most`, behind any blanks. -/
def number (most : Nat) (cs : List Char) : Read Nat :=
  let cs := skipBlanks cs
  match leadingDigits most cs with
  | [] => none
  | digits => some (digitsValue digits, cs.drop digits.length)

/-- A year without a sign has four digits at most. -/
def year (cs : List Char) : Read Int :=
  let all (cs : List Char) : Read Nat :=
    match cs.takeWhile Char.isDigit with
    | [] => none
    | digits => some (digitsValue digits, cs.drop digits.length)
  match skipBlanks cs with
  | '-' :: rest => (all rest).map fun (n, rest) => (-(n : Int), rest)
  | '+' :: rest => (all rest).map fun (n, rest) => ((n : Int), rest)
  | rest => (number 4 rest).map fun (n, rest) => ((n : Int), rest)

def inRange (low high : Nat) : Read Nat → Read Nat
  | some (n, rest) => if low ≤ n ∧ n ≤ high then some (n, rest) else none
  | none => none

def mark? (c : Char) (cs : List Char) : Option (List Char) :=
  match skipBlanks cs with
  | d :: rest => if c = d then some rest else none
  | [] => none

/-- The years for which there are dates. -/
def isKnownYear (y : Int) : Bool := -262143 ≤ y && y ≤ 262142

def date (cs : List Char) : Option (Date × List Char) := do
  let (y, cs) ← year cs
  let cs ← mark? '-' cs
  let (month, cs) ← inRange 1 12 (number 2 cs)
  let cs ← mark? '-' cs
  let (day, cs) ← inRange 1 31 (number 2 cs)
  let d : Date := ⟨y, month, day⟩
  if isKnownYear y && d.isValid then some (d, cs) else none

/-- A fraction of a second; digits behind the ninth do not count. -/
def fraction (cs : List Char) : Read Nat :=
  match cs with
  | '.' :: rest =>
    match leadingDigits 9 rest with
    | [] => none
    | digits => some (digitsValue digits * Number.tenPower (9 - digits.length), rest.dropWhile Char.isDigit)
  | _ => some (0, cs)

def clock (d : Date) (cs : List Char) : Option (Moment × List Char) := do
  let (hour, cs) ← inRange 0 23 (number 2 cs)
  let cs ← mark? ':' cs
  let (minute, cs) ← inRange 0 59 (number 2 cs)
  let cs ← mark? ':' cs
  let (second, cs) ← inRange 0 60 (number 2 cs)
  let (nanosecond, cs) ← fraction cs
  return (⟨d, hour, minute, second, nanosecond⟩, cs)

def twoDigits (cs : List Char) : Read Nat :=
  match cs with
  | a :: b :: rest => if a.isDigit && b.isDigit then some (digitsValue [a, b], rest) else none
  | _ => none

/-- Seconds ahead of universal time, less than a day. -/
def offset (cs : List Char) : Read Int :=
  let signed (negative : Bool) (cs : List Char) : Option (Int × List Char) := do
    let (hours, cs) ← twoDigits cs
    let (minutes, cs) ← inRange 0 59 (twoDigits (cs.dropWhile fun c => c == ':' || Text.isBlank c))
    let seconds : Int := hours * 3600 + minutes * 60
    if hours < 24 then some (if negative then -seconds else seconds, cs) else none
  match cs with
  | '+' :: rest => signed false rest
  | '-' :: rest => signed true rest
  | '−' :: rest => signed true rest
  | c :: rest =>
    if c = 'Z' ∨ c = 'z' then some (0, rest)
    else if Text.asciiLower (String.ofList (cs.take 3)) = "utc" then some (0, cs.drop 3)
    else none
  | [] => none

/-- The instant of a timestamp. -/
def Instant.read? (text : String) : Option Instant := do
  let (d, cs) ← date text.toList
  let cs ← match cs with
    | c :: rest => if c = 'T' ∨ c = 't' ∨ c = ' ' then some rest else none
    | [] => none
  let (m, cs) ← clock d cs
  let (ahead, cs) ← offset (skipBlanks cs)
  let t := m.instant ahead
  if (skipBlanks cs).isEmpty && isKnownYear t.moment.date.year then some t else none

end StubServer.Time
