import StubServer.Number.Width

/-! # Points in time

An instant counts seconds since the beginning of 1970 in universal time, and nanoseconds within
the second; a leap second counts as more than a thousand million nanoseconds of the second before
it.  Dates are those of the Gregorian calendar, also before it was in use.
-/

namespace StubServer.Time

structure Date where
  year : Int
  /-- From 1 to 12. -/
  month : Nat
  /-- From 1. -/
  day : Nat
  deriving DecidableEq, Repr

namespace Date

def isLeapYear (year : Int) : Bool := year % 4 == 0 && (year % 100 != 0 || year % 400 == 0)

def daysInMonth (year : Int) (month : Nat) : Nat :=
  if month = 2 then (if isLeapYear year then 29 else 28)
  else if month = 4 ∨ month = 6 ∨ month = 9 ∨ month = 11 then 30
  else 31

def isValid (d : Date) : Bool :=
  1 ≤ d.month && d.month ≤ 12 && 1 ≤ d.day && d.day ≤ daysInMonth d.year d.month

/-- Days since the beginning of 1970.  Years are counted from March, so that the leap day comes
last. -/
def toDays (d : Date) : Int :=
  let year := if d.month ≤ 2 then d.year - 1 else d.year
  let era := year / 400
  let yearOfEra := year % 400
  let monthFromMarch := (d.month + 9) % 12
  let dayOfYear : Int := (153 * monthFromMarch + 2) / 5 + d.day - 1
  era * 146097 + yearOfEra * 365 + yearOfEra / 4 - yearOfEra / 100 + dayOfYear - 719468

def ofDays (days : Int) : Date :=
  let shifted := days + 719468
  let era := shifted / 146097
  let dayOfEra := (shifted % 146097).toNat
  let yearOfEra := (dayOfEra - dayOfEra / 1460 + dayOfEra / 36524 - dayOfEra / 146096) / 365
  let dayOfYear := dayOfEra - (365 * yearOfEra + yearOfEra / 4 - yearOfEra / 100)
  let monthFromMarch := (5 * dayOfYear + 2) / 153
  let day := dayOfYear - (153 * monthFromMarch + 2) / 5 + 1
  let month := if monthFromMarch < 10 then monthFromMarch + 3 else monthFromMarch - 9
  let year := yearOfEra + era * 400
  ⟨if month ≤ 2 then year + 1 else year, month, day⟩

/-- Days since the first of January. -/
def dayOfYear (d : Date) : Nat := (d.toDays - toDays ⟨d.year, 1, 1⟩).toNat

/-- Days since the last Monday. -/
def weekday (d : Date) : Nat := ((d.toDays + 3) % 7).toNat

/-- The year and the number of a week that begins on a Monday and belongs to the year that holds
most of it. -/
def isoWeek (d : Date) : Int × Nat :=
  let thursday := ofDays (d.toDays - d.weekday + 3)
  (thursday.year, thursday.dayOfYear / 7 + 1)

end Date

structure Instant where
  seconds : Int
  nanoseconds : Nat
  deriving DecidableEq, Repr

/-- A date and a time of day in universal time. -/
structure Moment where
  date : Date
  hour : Nat
  minute : Nat
  /-- Sixty in a leap second. -/
  second : Nat
  nanosecond : Nat
  deriving DecidableEq, Repr

def Instant.moment (t : Instant) : Moment :=
  let ofDay := (t.seconds % 86400).toNat
  let leap := t.nanoseconds / 1000000000
  { date := Date.ofDays (t.seconds / 86400)
    hour := ofDay / 3600
    minute := ofDay / 60 % 60
    second := ofDay % 60 + leap
    nanosecond := t.nanoseconds % 1000000000 }

/-- The instant of a moment in a zone that is so many seconds ahead of universal time. -/
def Moment.instant (m : Moment) (offset : Int) : Instant :=
  let leap : Nat := if m.second = 60 then 1 else 0
  let ofDay : Nat := m.hour * 3600 + m.minute * 60 + (m.second - leap)
  { seconds := m.date.toDays * 86400 + ofDay - offset
    nanoseconds := m.nanosecond + leap * 1000000000 }

/-! ## Writing -/

def padded (filler : Char) (width : Nat) (n : Nat) : List Char :=
  let digits := Nat.toDigits 10 n
  List.replicate (width - digits.length) filler ++ digits

def zeroPadded (width n : Nat) : List Char := padded '0' width n

/-- Four digits, or a sign and at least four. -/
def yearText (year : Int) : List Char :=
  if 0 ≤ year ∧ year ≤ 9999 then zeroPadded 4 year.toNat
  else (if year < 0 then '-' else '+') :: zeroPadded 4 year.natAbs

/-- A point and three, six or nine digits, as many as it takes; nothing for a whole second. -/
def fractionText (nanosecond : Nat) : List Char :=
  if nanosecond = 0 then []
  else if nanosecond % 1000000 = 0 then '.' :: zeroPadded 3 (nanosecond / 1000000)
  else if nanosecond % 1000 = 0 then '.' :: zeroPadded 6 (nanosecond / 1000)
  else '.' :: zeroPadded 9 nanosecond

def Date.text (d : Date) : List Char :=
  yearText d.year ++ '-' :: zeroPadded 2 d.month ++ '-' :: zeroPadded 2 d.day

def Moment.clockText (m : Moment) : List Char :=
  zeroPadded 2 m.hour ++ ':' :: zeroPadded 2 m.minute ++ ':' :: zeroPadded 2 m.second

/-- The text of a timestamp in universal time. -/
def Instant.text (t : Instant) : String :=
  let m := t.moment
  String.ofList (m.date.text ++ 'T' :: m.clockText ++ fractionText m.nanosecond ++ ['Z'])

end StubServer.Time
