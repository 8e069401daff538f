import StubServer.Number.Double

/-! # Shortest decimals

The decimal text of a floating point number: the fewest digits that read back to the same value,
and of those the nearest.  Every real number in the interval between the middles towards the two
neighbours reads back to the value; the ends belong to it when the significand is even.
-/

namespace StubServer.Number

/-- A positive rational number `num / den`. -/
structure Quotient where
  num : Nat
  den : Nat

namespace Quotient

/-- `n · 2 ^ e`. -/
def ofScaled (n : Nat) (e : Int) : Quotient :=
  if 0 ≤ e then ⟨n <<< e.toNat, 1⟩ else ⟨n, 1 <<< (-e).toNat⟩

/-- `x / 10 ^ k`. -/
def shiftDecimal (x : Quotient) (k : Int) : Quotient :=
  if 0 ≤ k then ⟨x.num, x.den * tenPower k.toNat⟩ else ⟨x.num * tenPower (-k).toNat, x.den⟩

def floor (x : Quotient) : Nat := x.num / x.den

end Quotient

/-- Digits and decimal exponent: `digits · 10 ^ exponent`. -/
structure Decimal where
  digits : Nat
  exponent : Int
  deriving DecidableEq, Repr

/-- The largest `k` with `10 ^ k ≤ m · 2 ^ q`, for `m` not zero. -/
def decimalMagnitude (m : Nat) (q : Int) : Int :=
  let x := Quotient.ofScaled m q
  let guess := ((m.log2 : Int) + q) * 30103 / 100000
  if 1 ≤ (x.shiftDecimal (guess + 1)).floor then guess + 1
  else if 1 ≤ (x.shiftDecimal guess).floor then guess
  else guess - 1

/-- The multiples of `10 ^ k` next to the value that read back to it, the nearest first. -/
def nearestOnGrid (m : Nat) (q k : Int) : Option Nat :=
  let low := if m = 1 <<< 52 && -1074 < q then 4 * m - 1 else 4 * m - 2
  let value := (Quotient.ofScaled (4 * m) (q - 2)).shiftDecimal k
  let down := value.floor
  let up := down + 1
  let den := value.den
  -- all bounds over the denominator of `value`, whose numerator stands for `4 · m`
  let unit := value.num / (4 * m)
  let lowBound := low * unit
  let highBound := (4 * m + 2) * unit
  let inside (n : Nat) : Bool :=
    if m % 2 = 0 then lowBound ≤ n * den && n * den ≤ highBound
    else lowBound < n * den && n * den < highBound
  match inside down, inside up with
  | true, true =>
    let before := value.num - down * den
    let after := up * den - value.num
    if before < after then some down
    else if after < before then some up
    else if down % 2 = 0 then some down else some up
  | true, false => some down
  | false, true => some up
  | false, false => none

/-- Tries the grids of `count` digits and more; seventeen digits always suffice. -/
def shortestFrom (m : Nat) (q magnitude : Int) : Nat → Nat → Decimal
  | _, 0 => ⟨m, q⟩
  | count, tries + 1 =>
    let k := magnitude - count + 1
    match nearestOnGrid m q k with
    | some n => ⟨n, k⟩
    | none => shortestFrom m q magnitude (count + 1) tries

/-- Drops the zeros at the end of the digits. -/
def Decimal.normalize (d : Decimal) : Nat → Decimal
  | 0 => d
  | tries + 1 =>
    if d.digits ≠ 0 ∧ d.digits % 10 = 0 then
      Decimal.normalize ⟨d.digits / 10, d.exponent + 1⟩ tries
    else d

/-- The shortest decimal of `m · 2 ^ q`, for `m` not zero. -/
def shortest (m : Nat) (q : Int) : Decimal :=
  (shortestFrom m q (decimalMagnitude m q) 1 17).normalize 17

/-- How decimals are laid out. -/
structure DecimalLayout where
  /-- Written between the mantissa and a positive exponent. -/
  positiveExponent : String
  /-- The texts of positive infinity, negative infinity and of no number. -/
  infinite : String
  negativeInfinite : String
  nan : String

def digitsText (n : Nat) : List Char := (Nat.toDigits 10 n)

/-- The layout: positional from `10 ^ -5` up to below `10 ^ 16`, always with a point and a digit
after it; otherwise with an exponent, and with a point only if there are digits after it. -/
def layOut (layout : DecimalLayout) (d : Decimal) : List Char :=
  let digits := digitsText d.digits
  let length : Int := digits.length
  let point := length + d.exponent
  if 0 ≤ d.exponent ∧ point ≤ 16 then
    digits ++ List.replicate d.exponent.toNat '0' ++ ['.', '0']
  else if 0 < point ∧ point ≤ 16 then
    digits.take point.toNat ++ '.' :: digits.drop point.toNat
  else if -5 < point ∧ point ≤ 0 then
    '0' :: '.' :: (List.replicate (-point).toNat '0' ++ digits)
  else
    let exponent := point - 1
    let mark :=
      if exponent < 0 then 'e' :: '-' :: digitsText (-exponent).toNat
      else 'e' :: layout.positiveExponent.toList ++ digitsText exponent.toNat
    match digits with
    | [] => mark
    | [c] => c :: mark
    | c :: rest => c :: '.' :: rest ++ mark

def Double.text (layout : DecimalLayout) : Double → List Char
  | .nan => layout.nan.toList
  | .infinite negative => (if negative then layout.negativeInfinite else layout.infinite).toList
  | .finite negative m q =>
    let magnitude := if m = 0 then "0.0".toList else layOut layout (shortest m q)
    if negative then '-' :: magnitude else magnitude

end StubServer.Number
