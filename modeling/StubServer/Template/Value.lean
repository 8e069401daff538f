import StubServer.Json.Printer
import StubServer.Number.Reader

/-! # Values in templates

How a value is shown, which values count as true, and how values compare.
-/

namespace StubServer.Template

open Number (Double)

mutual

/-- The text of a value: null is empty, and an object shows only what it is. -/
def valueText : Json → String
  | .null => ""
  | .bool b => if b then "true" else "false"
  | .num n => String.ofList (Json.numberText n)
  | .str s => s
  | .arr items => "[" ++ itemsText items ++ "]"
  | .obj _ => "[object]"

def itemsText : List Json → String
  | [] => ""
  | [j] => valueText j
  | j :: rest => valueText j ++ ", " ++ itemsText rest

end

/-- Whether a number counts as true: zeros do not, unless they are asked to. -/
def numberHolds (zeroCounts : Bool) : JsonNumber → Bool
  | .int n => zeroCounts || n != 0
  | .float x => zeroCounts || x.isNormal

def holds (zeroCounts : Bool) : Json → Bool
  | .null => false
  | .bool b => b
  | .num n => numberHolds zeroCounts n
  | .str s => !s.isEmpty
  | .arr items => !items.isEmpty
  | .obj members => !members.isEmpty

/-- A number without any rounding. -/
def exactNumber : JsonNumber → Double
  | .int n => .finite (n < 0) n.natAbs 0
  | .float x => x

/-- The floating point number that a text spells. -/
def spelledNumber? (text : String) : Option Double :=
  let unsigned := String.ofList ((Number.dropSign text.toList).map Char.toLower)
  if unsigned = "inf" ∨ unsigned = "infinity" then
    some (.infinite (text.toList.head? == some '-'))
  else if unsigned = "nan" then some .nan
  else Double.ofText? text.toList

/-- The order of two values: of numbers, texts and truth values among themselves, and of a number
and a text that spells one. -/
def order? : Json → Json → Option Ordering
  | .num a, .num b => Double.compare? (exactNumber a) (exactNumber b)
  | .str a, .str b => some (compareOfLessAndEq a b)
  | .bool a, .bool b => some (compare a b)
  | .num a, .str b => (spelledNumber? b).bind (Double.compare? a.toDouble)
  | .str a, .num b =>
    ((spelledNumber? a).bind (Double.compare? b.toDouble)).map Ordering.swap
  | _, _ => none

end StubServer.Template
