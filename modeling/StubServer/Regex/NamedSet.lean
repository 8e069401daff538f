import StubServer.Text.Ranges

/-! # Named sets of characters

A set of code points with the names it goes by, all in small letters without blanks, hyphens and
underscores.  The ranges are kept as text and read when they are asked for.
-/

namespace StubServer.Regex

open Text (Ranges)

structure NamedSet where
  names : List String
  text : String

def NamedSet.find? (sets : List NamedSet) (name : String) : Option Ranges :=
  (sets.find? fun set => set.names.contains name).map fun set => Ranges.ofText set.text

end StubServer.Regex
