import StubServer.Time.Instant

/-! # Formats for instants

A format is text with directives in it, each a percent sign and a letter, that stand for parts of
an instant.  A mark between the two changes how a number is filled up.
-/

namespace StubServer.Time

def weekdayNames : List String :=
  ["Monday", "Tuesday", "Wednesday", "Thursday", "Friday", "Saturday", "Sunday"]

def monthNames : List String :=
  ["January", "February", "March", "April", "May", "June", "July", "August", "September",
    "October", "November", "December"]

/-- How a number is filled up: with zeros, with blanks, or not at all. -/
inductive Filler where
  | zero
  | blank
  | none
  deriving DecidableEq, Repr

def Filler.apply (filler : Filler) (width n : Nat) : List Char :=
  match filler with
  | .zero => padded '0' width n
  | .blank => padded ' ' width n
  | .none => padded '0' 0 n

namespace Moment

def weekdayName (m : Moment) : List Char := (weekdayNames.getD m.date.weekday "").toList

def monthName (m : Moment) : List Char := (monthNames.getD (m.date.month - 1) "").toList

def hourOfHalfDay (m : Moment) : Nat := (m.hour + 11) % 12 + 1

/-- Weeks of the year; `start` is the weekday that they begin on, counted from Monday. -/
def week (m : Moment) (start : Nat) : Nat :=
  (m.date.dayOfYear + 7 - (m.date.weekday + 7 - start) % 7) / 7

/-- A number with its usual filler and width. -/
def number? (m : Moment) (seconds : Int) (c : Char) : Option (Filler × Nat × Int) :=
  match c with
  | 'Y' => some (.zero, 4, m.date.year)
  | 'C' => some (.zero, 2, m.date.year / 100)
  | 'y' => some (.zero, 2, m.date.year % 100)
  | 'm' => some (.zero, 2, m.date.month)
  | 'd' => some (.zero, 2, m.date.day)
  | 'e' => some (.blank, 2, m.date.day)
  | 'w' => some (.zero, 1, ((m.date.weekday + 1) % 7 : Nat))
  | 'u' => some (.zero, 1, (m.date.weekday + 1 : Nat))
  | 'U' => some (.zero, 2, m.week 6)
  | 'W' => some (.zero, 2, m.week 0)
  | 'G' => some (.zero, 4, m.date.isoWeek.1)
  | 'g' => some (.zero, 2, m.date.isoWeek.1 % 100)
  | 'V' => some (.zero, 2, m.date.isoWeek.2)
  | 'j' => some (.zero, 3, (m.date.dayOfYear + 1 : Nat))
  | 'H' => some (.zero, 2, m.hour)
  | 'k' => some (.blank, 2, m.hour)
  | 'I' => some (.zero, 2, m.hourOfHalfDay)
  | 'l' => some (.blank, 2, m.hourOfHalfDay)
  | 'M' => some (.zero, 2, m.minute)
  | 'S' => some (.zero, 2, m.second)
  | 'f' => some (.zero, 9, m.nanosecond)
  | 's' => some (.none, 1, seconds)
  | _ => none

/-- A part of an instant that is no number. -/
def word? (m : Moment) (c : Char) : Option (List Char) :=
  match c with
  | 'a' => some (m.weekdayName.take 3)
  | 'A' => some m.weekdayName
  | 'b' => some (m.monthName.take 3)
  | 'h' => some (m.monthName.take 3)
  | 'B' => some m.monthName
  | 'p' => some (if m.hour < 12 then "AM" else "PM").toList
  | 'P' => some (if m.hour < 12 then "am" else "pm").toList
  | 'Z' => some "UTC".toList
  | 'z' => some "+0000".toList
  | 't' => some ['\t']
  | 'n' => some ['\n']
  | '%' => some ['%']
  | _ => none

/-- A directive that is short for others. -/
def longForm? (c : Char) : Option String :=
  match c with
  | 'D' => some "%m/%d/%y"
  | 'x' => some "%m/%d/%y"
  | 'F' => some "%Y-%m-%d"
  | 'v' => some "%e-%b-%Y"
  | 'R' => some "%H:%M"
  | 'T' => some "%H:%M:%S"
  | 'X' => some "%H:%M:%S"
  | 'r' => some "%I:%M:%S %p"
  | 'c' => some "%a %b %e %H:%M:%S %Y"
  | '+' => some "%Y-%m-%dT%H:%M:%S%.f%:z"
  | _ => none

def filler? : Char → Option Filler
  | '-' => some .none
  | '_' => some .blank
  | '0' => some .zero
  | _ => none

def signed (filler : Filler) (width : Nat) (n : Int) : List Char :=
  if n < 0 then '-' :: filler.apply width n.natAbs else filler.apply width n.toNat

def places (m : Moment) (count : Nat) : List Char :=
  zeroPadded count (m.nanosecond / Number.tenPower (9 - count))

/-- A directive behind its percent sign, and what follows it. -/
def directive? (m : Moment) (seconds : Int) (cs : List Char) : Option (List Char × List Char) :=
  match cs with
  | '.' :: 'f' :: rest => some (fractionText m.nanosecond, rest)
  | '.' :: '3' :: 'f' :: rest => some ('.' :: m.places 3, rest)
  | '.' :: '6' :: 'f' :: rest => some ('.' :: m.places 6, rest)
  | '.' :: '9' :: 'f' :: rest => some ('.' :: m.places 9, rest)
  | '3' :: 'f' :: rest => some (m.places 3, rest)
  | '6' :: 'f' :: rest => some (m.places 6, rest)
  | '9' :: 'f' :: rest => some (m.places 9, rest)
  | ':' :: 'z' :: rest => some ("+00:00".toList, rest)
  | ':' :: ':' :: 'z' :: rest => some ("+00:00:00".toList, rest)
  | ':' :: ':' :: ':' :: 'z' :: rest => some ("+00".toList, rest)
  | c :: rest =>
    match filler? c, rest with
    | some filler, d :: rest =>
      (m.number? seconds d).map fun (_, width, n) => (signed filler width n, rest)
    | _, _ =>
      match m.number? seconds c with
      | some (filler, width, n) => some (signed filler width n, rest)
      | none => (m.word? c).map fun word => (word, rest)
  | [] => none

/-- Writes a format; what is no directive stands for itself.  The first number bounds how many
directives are read, the second says whether short forms may be opened. -/
def write (m : Moment) (seconds : Int) : Nat → Bool → List Char → List Char
  | 0, _, _ => []
  | _ + 1, _, [] => []
  | fuel + 1, mayOpen, '%' :: rest =>
    match m.directive? seconds rest with
    | some (text, rest) => text ++ m.write seconds fuel mayOpen rest
    | none =>
      match rest with
      | c :: rest =>
        match if mayOpen then longForm? c else none with
        | some long => m.write seconds fuel false long.toList ++ m.write seconds fuel mayOpen rest
        | none => '%' :: m.write seconds fuel mayOpen (c :: rest)
      | [] => ['%']
  | fuel + 1, mayOpen, c :: rest => c :: m.write seconds fuel mayOpen rest

end Moment

/-- The text of an instant in a format. -/
def Instant.format (t : Instant) (pattern : String) : String :=
  String.ofList (t.moment.write t.seconds (pattern.length + 40) true pattern.toList)

end StubServer.Time
