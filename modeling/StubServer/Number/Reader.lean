import StubServer.Number.Double

/-! # Reading decimals

A decimal has digits with an optional point among, before or behind them, and may have a sign and
an exponent.  It stands for the nearest floating point value.
-/

namespace StubServer.Number

def dropSign (cs : List Char) : List Char :=
  match cs with
  | '+' :: rest => rest
  | '-' :: rest => rest
  | cs => cs

def digitsValue? (cs : List Char) : Option Nat :=
  if cs.isEmpty || !cs.all Char.isDigit then none
  else some (cs.foldl (fun n c => n * 10 + (c.toNat - 48)) 0)

/-- The exponent behind the digits, if there is one. -/
def exponent? (cs : List Char) : Option Int :=
  match cs with
  | [] => some 0
  | c :: rest =>
    if c = 'e' ∨ c = 'E' then
      let down := rest.head? == some '-'
      (digitsValue? (dropSign rest)).map fun n => if down then -(n : Int) else n
    else none

def Double.ofText? (cs : List Char) : Option Double :=
  let negative := cs.head? == some '-'
  let cs := dropSign cs
  let whole := cs.takeWhile Char.isDigit
  let rest := cs.dropWhile Char.isDigit
  let (places, rest) := match rest with
    | '.' :: rest => (rest.takeWhile Char.isDigit, rest.dropWhile Char.isDigit)
    | rest => ([], rest)
  match digitsValue? (whole ++ places), exponent? rest with
  | some digits, some exponent => some (ofDecimal negative digits (exponent - places.length))
  | _, _ => none

end StubServer.Number
