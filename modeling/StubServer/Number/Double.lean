import StubServer.Number.Width

/-! # Binary floating point

A `Double` is a number of the 64-bit binary format: `significand · 2 ^ exponent` with at most 53
bits and an exponent of at least `-1074`, an infinity, or no number at all.  Finite values are
kept in one form each: the significand has all 53 bits unless the exponent is the least one.
Arithmetic is exact arithmetic on integers followed by one rounding to the nearest value, ties to
the even significand.
-/

namespace StubServer.Number

inductive Double where
  | finite (negative : Bool) (significand : Nat) (exponent : Int)
  | infinite (negative : Bool)
  | nan
  deriving DecidableEq, Repr, Inhabited

namespace Double

def zero (negative : Bool) : Double := .finite negative 0 (-1074)

def isFinite : Double → Bool
  | .finite .. => true
  | _ => false

/-- The quotient rounded to the nearest natural number, a tie to the even one. -/
def roundQuotient (num den : Nat) : Nat :=
  let q := num / den
  let r := num % den
  if 2 * r < den then q
  else if den < 2 * r then q + 1
  else if q % 2 = 0 then q else q + 1

/-- Numerator and denominator of `num / den / 2 ^ exponent`. -/
def unscale (num den : Nat) (exponent : Int) : Nat × Nat :=
  if 0 ≤ exponent then (num, den <<< exponent.toNat)
  else (num <<< (-exponent).toNat, den)

/-- Puts a rounded significand of at most 53 bits, or just `2 ^ 53`, into its one form. -/
def pack (negative : Bool) (significand : Nat) (exponent : Int) : Double :=
  let (m, e) :=
    if significand = 1 <<< 53 then (1 <<< 52, exponent + 1) else (significand, exponent)
  if 971 < e then .infinite negative else .finite negative m e

/-- The value nearest to the quotient of two natural numbers. -/
def ofQuotient (negative : Bool) (num den : Nat) : Double :=
  if num = 0 then zero negative
  else
    let guess : Int := max ((num.log2 : Int) - den.log2 - 53) (-1074)
    let (n, d) := unscale num den guess
    if fits 53 (n / d) then pack negative (roundQuotient n d) guess
    else
      let (n, d) := unscale num den (guess + 1)
      pack negative (roundQuotient n d) (guess + 1)

def ofNat (n : Nat) : Double := ofQuotient false n 1

def ofInt (n : Int) : Double := ofQuotient (n < 0) n.natAbs 1

/-- The value nearest to `digits · 10 ^ exponent`. -/
def ofDecimal (negative : Bool) (digits : Nat) (exponent : Int) : Double :=
  if digits = 0 then zero negative
  else if 400 < exponent then .infinite negative
  else if (digits.log2 : Int) + exponent * 3 < -2000 then zero negative
  else if 0 ≤ exponent then ofQuotient negative (digits * tenPower exponent.toNat) 1
  else ofQuotient negative digits (tenPower (-exponent).toNat)

def negate : Double → Double
  | .finite s m e => .finite (!s) m e
  | .infinite s => .infinite (!s)
  | .nan => .nan

/-- The product of two finite values; no other product is formed. -/
def mul : Double → Double → Double
  | .finite s m e, .finite t n f =>
    let k := e + f
    if 0 ≤ k then ofQuotient (s != t) ((m * n) <<< k.toNat) 1
    else ofQuotient (s != t) (m * n) (1 <<< (-k).toNat)
  | _, _ => .nan

/-- The quotient of a finite value by one that is finite and not zero. -/
def div : Double → Double → Double
  | .finite s m e, .finite t n f =>
    if n = 0 then .nan
    else
      let k := e - f
      if 0 ≤ k then ofQuotient (s != t) (m <<< k.toNat) n
      else ofQuotient (s != t) m (n <<< (-k).toNat)
  | _, _ => .nan

/-- A finite value as an integer multiple of `2 ^ -1074`. -/
def scaled : Bool → Nat → Int → Int
  | negative, m, e =>
    let magnitude : Int := (m <<< (e + 1074).toNat : Nat)
    if negative then -magnitude else magnitude

/-- The order of two values, absent when one is no number.  Both zeros are equal. -/
def compare? : Double → Double → Option Ordering
  | .nan, _ => none
  | _, .nan => none
  | .infinite s, .infinite t => some (if s = t then .eq else if s then .lt else .gt)
  | .infinite s, .finite .. => some (if s then .lt else .gt)
  | .finite .., .infinite t => some (if t then .gt else .lt)
  | .finite s m e, .finite t n f => some (Ord.compare (scaled s m e) (scaled t n f))

def equal (x y : Double) : Bool := compare? x y == some .eq

def less (x y : Double) : Bool := compare? x y == some .lt

/-- Neither zero nor a value with fewer than 53 bits nor infinite nor no number. -/
def isNormal : Double → Bool
  | .finite _ m _ => !fits 52 m
  | _ => false

end Double

end StubServer.Number
