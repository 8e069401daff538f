import StubServer.Number.Width
import StubServer.Text.Case

/-! # Header names and values

A name is a token and is kept in small letters; a value is free text without control characters
other than the tab.  `Headers` holds the lines of a message in order.
-/

namespace StubServer.Http

/-- The characters of a token. -/
def isTokenChar (c : Char) : Bool :=
  c.isAlphanum || "!#$%&'*+-.^_`|~".toList.contains c

/-- A name is a token of at most 65535 characters. -/
def isHeaderName (s : String) : Bool :=
  !s.isEmpty && Number.fits 16 s.length && s.toList.all isTokenChar

/-- The name in small letters, if it is one. -/
def headerName? (s : String) : Option String :=
  if isHeaderName s then some (Text.asciiLower s) else none

/-- A value may hold any character but the control characters; of those it may hold the tab. -/
def isHeaderValue (s : String) : Bool :=
  s.toList.all fun c => c == '\t' || (c.toNat ≥ 0x20 && c.toNat != 0x7F)

/-- The value holds nothing but printable ASCII, blanks and tabs. -/
def isPlainValue (s : String) : Bool :=
  s.toList.all fun c => c == '\t' || (c.toNat ≥ 0x20 && c.toNat < 0x7F)

/-- Header lines as pairs of a name in small letters and a value.  A value is a text, so a line whose value is
given in bytes that are no UTF-8 is not among them. -/
abbrev Headers := List (String × String)

namespace Headers

/-- All values of a name, in order. -/
def values (hs : Headers) (name : String) : List String :=
  hs.filterMap fun (n, v) => if n = name then some v else none

def remove (hs : Headers) (name : String) : Headers := hs.filter fun (n, _) => n != name

/-- Makes `value` the one value of `name`. -/
def set (hs : Headers) (name value : String) : Headers := remove hs name ++ [(name, value)]

def append (hs : Headers) (name value : String) : Headers := hs ++ [(name, value)]

/-- The names that occur, each once and in the order of first occurrence. -/
def names : Headers → List String
  | [] => []
  | (n, _) :: rest => n :: (names rest).filter (· != n)

end Headers

end StubServer.Http
