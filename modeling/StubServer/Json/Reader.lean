import StubServer.Json.Basic

/-! # Reading JSON

A text is one value between blanks.  Integers that fit 64 bits stay integers; every other number
is read as a floating point number from its first digits that fit 64 bits and a power of ten, and
is refused when it is too large.  Containers nest at most 127 deep.
-/

namespace StubServer.Json

open Number (Double)

def isSpace (c : Char) : Bool := c == ' ' || c == '\t' || c == '\n' || c == '\r'

def skipSpace (cs : List Char) : List Char := cs.dropWhile isSpace

def digitValue (c : Char) : Nat := c.toNat - 48

/-! ## Numbers -/

/-- Digits gathered so far, and the digits of the number that were left out or lie behind the
point, as a power of ten. -/
structure Significand where
  value : Nat
  exponent : Int
  /-- A digit did not fit, so that no further digit counts. -/
  full : Bool

/-- Takes in a digit before the point; once one does not fit, each only raises the exponent. -/
def Significand.addWhole (s : Significand) (c : Char) : Significand :=
  let next := s.value * 10 + digitValue c
  if s.full || !Number.fits 64 next then { s with exponent := s.exponent + 1, full := true }
  else { s with value := next }

/-- Takes in a digit behind the point; the first that does not fit ends the reading. -/
def Significand.addPlace (s : Significand) (c : Char) : Significand :=
  let next := s.value * 10 + digitValue c
  if s.full || !Number.fits 64 next then { s with full := true }
  else { value := next, exponent := s.exponent - 1, full := false }

/-- `x · 10 ^ exponent`, by one multiplication or by divisions; nothing when it is too large. -/
def scaleDecimal (x : Double) (exponent : Int) : Nat → Option Double
  | 0 => some x
  | tries + 1 =>
    -- up to here powers of ten are finite, so that one step is enough
    if exponent.natAbs ≤ 308 then
      let power := Double.ofDecimal false 1 exponent.natAbs
      if 0 ≤ exponent then
        match x.mul power with
        | .infinite _ => none
        | y => some y
      else some (x.div power)
    else if x.equal (Double.zero false) then some x
    else if 0 ≤ exponent then none
    else scaleDecimal (x.div (Double.ofDecimal false 1 308)) (exponent + 308) tries

def Significand.toDouble? (s : Significand) (negative : Bool) (exponent : Int) : Option Double :=
  (scaleDecimal (Double.ofNat s.value) exponent 8).map fun x => if negative then x.negate else x

/-- Reads the digits of an exponent; the sign in front is read already. -/
def exponentNumber (s : Significand) (negative down : Bool) (digits : List Char) :
    Option Double :=
  let exponent := digits.foldl (fun n c => n * 10 + digitValue c) 0
  if Number.fits 31 exponent then
    s.toDouble? negative (if down then s.exponent - exponent else s.exponent + exponent)
  else if s.value ≠ 0 ∧ !down then none
  else some (Double.zero negative)

/-- What follows the digits: an exponent, or the end of the number. -/
def finishNumber (s : Significand) (negative : Bool) (cs : List Char) :
    Option (Double × List Char) :=
  match cs with
  | c :: rest =>
    if c = 'e' ∨ c = 'E' then
      let (down, rest) :=
        match rest with
        | '-' :: rest => (true, rest)
        | '+' :: rest => (false, rest)
        | rest => (false, rest)
      let digits := rest.takeWhile Char.isDigit
      if digits.isEmpty then none
      else (exponentNumber s negative down digits).map fun x => (x, rest.dropWhile Char.isDigit)
    else (s.toDouble? negative s.exponent).map fun x => (x, cs)
  | [] => (s.toDouble? negative s.exponent).map fun x => (x, cs)

/-- Reads a number whose sign is read already. -/
def number (negative : Bool) (cs : List Char) : Option (JsonNumber × List Char) :=
  let whole := cs.takeWhile Char.isDigit
  let rest := cs.dropWhile Char.isDigit
  if whole.isEmpty || (whole.length > 1 && whole.head? == some '0') then none
  else
    let s := whole.foldl Significand.addWhole ⟨0, 0, false⟩
    match rest with
    | '.' :: rest =>
      let places := rest.takeWhile Char.isDigit
      if places.isEmpty then none
      else
        let s := places.foldl Significand.addPlace { s with full := false }
        (finishNumber s negative (rest.dropWhile Char.isDigit)).map fun (x, r) => (.float x, r)
    | c :: _ =>
      if c = 'e' ∨ c = 'E' then
        (finishNumber s negative rest).map fun (x, r) => (.float x, r)
      else wholeNumber s rest
    | [] => wholeNumber s rest
where
  /-- Minus zero is no integer, and neither is a negative number below the least of 64 bits. -/
  wholeNumber (s : Significand) (rest : List Char) : Option (JsonNumber × List Char) :=
    if s.full then (finishNumber s negative rest).map fun (x, r) => (.float x, r)
    else if !negative then some (.int s.value, rest)
    else if s.value = 0 ∨ !Number.fitsSigned 64 (-(s.value : Int)) then
      some (.float (Double.ofNat s.value).negate, rest)
    else some (.int (-(s.value : Int)), rest)

/-! ## Strings -/

def hexDigit? (c : Char) : Option Nat :=
  if '0' ≤ c ∧ c ≤ '9' then some (c.toNat - 48)
  else if 'A' ≤ c ∧ c ≤ 'F' then some (c.toNat - 55)
  else if 'a' ≤ c ∧ c ≤ 'f' then some (c.toNat - 87)
  else none

def hexFour? (a b c d : Char) : Option Nat := do
  return (← hexDigit? a) * 4096 + (← hexDigit? b) * 256 + (← hexDigit? c) * 16 + (← hexDigit? d)

/-- The character behind a backslash, other than `u`. -/
def escaped? (c : Char) : Option Char :=
  if c = '"' then some '"'
  else if c = '\\' then some '\\'
  else if c = '/' then some '/'
  else if c = 'b' then some '\x08'
  else if c = 'f' then some '\x0c'
  else if c = 'n' then some '\n'
  else if c = 'r' then some '\r'
  else if c = 't' then some '\t'
  else none

/-- A finished string: its characters and what follows the closing quote. -/
abbrev StringRead := Option (List Char × List Char)

def StringRead.add (c : Char) (r : StringRead) : StringRead := r.map fun (cs, rest) => (c :: cs, rest)

/-- Reads up to the closing quote. -/
def stringBody : List Char → StringRead
  | [] => none
  | '"' :: rest => some ([], rest)
  | '\\' :: 'u' :: a :: b :: c :: d :: rest =>
    match hexFour? a b c d with
    | none => none
    | some n =>
      if n < 0xD800 ∨ 0xDFFF < n then (stringBody rest).add (Char.ofNat n)
      else if 0xDC00 ≤ n then none
      else
        match rest with
        | '\\' :: 'u' :: e :: f :: g :: h :: rest =>
          match hexFour? e f g h with
          | none => none
          | some m =>
            if 0xDC00 ≤ m ∧ m ≤ 0xDFFF then
              (stringBody rest).add (Char.ofNat (0x10000 + (n - 0xD800) * 1024 + (m - 0xDC00)))
            else none
        | _ => none
  | '\\' :: c :: rest =>
    match escaped? c with
    | some e => (stringBody rest).add e
    | none => none
  | c :: rest => if c.toNat < 0x20 ∨ c = '\\' then none else (stringBody rest).add c

/-! ## Values -/

def dropWord? : List Char → List Char → Option (List Char)
  | [], cs => some cs
  | w :: ws, c :: cs => if w = c then dropWord? ws cs else none
  | _ :: _, [] => none

mutual

/-- Reads one value.  `depth` containers may still be opened; every call takes one step of fuel
and reads at least one character or ends. -/
def value (fuel depth : Nat) (cs : List Char) : Option (Json × List Char) :=
  match fuel with
  | 0 => none
  | fuel + 1 =>
    match skipSpace cs with
    | 'n' :: rest => (dropWord? ['u', 'l', 'l'] rest).map fun r => (.null, r)
    | 't' :: rest => (dropWord? ['r', 'u', 'e'] rest).map fun r => (.bool true, r)
    | 'f' :: rest => (dropWord? ['a', 'l', 's', 'e'] rest).map fun r => (.bool false, r)
    | '"' :: rest => (stringBody rest).map fun (s, r) => (.str (String.ofList s), r)
    | '-' :: rest => (number true rest).map fun (n, r) => (.num n, r)
    | '[' :: rest =>
      match depth with
      | 0 => none
      | depth + 1 =>
        match skipSpace rest with
        | ']' :: rest => some (.arr [], rest)
        | rest => (items fuel depth rest).map fun (xs, r) => (.arr xs, r)
    | '{' :: rest =>
      match depth with
      | 0 => none
      | depth + 1 =>
        match skipSpace rest with
        | '}' :: rest => some (.obj [], rest)
        | rest => (members fuel depth rest).map fun (xs, r) => (.object xs, r)
    | cs => (number false cs).map fun (n, r) => (.num n, r)

/-- Reads the items of an array that is not empty, with the closing bracket. -/
def items (fuel depth : Nat) (cs : List Char) : Option (List Json × List Char) :=
  match fuel with
  | 0 => none
  | fuel + 1 =>
    match value fuel depth cs with
    | none => none
    | some (x, rest) =>
      match skipSpace rest with
      | ']' :: rest => some ([x], rest)
      | ',' :: rest => (items fuel depth rest).map fun (xs, r) => (x :: xs, r)
      | _ => none

/-- Reads the members of an object that is not empty, with the closing brace. -/
def members (fuel depth : Nat) (cs : List Char) : Option (List (String × Json) × List Char) :=
  match fuel with
  | 0 => none
  | fuel + 1 =>
    match skipSpace cs with
    | '"' :: rest =>
      match stringBody rest with
      | none => none
      | some (key, rest) =>
        match skipSpace rest with
        | ':' :: rest =>
          match value fuel depth rest with
          | none => none
          | some (x, rest) =>
            match skipSpace rest with
            | '}' :: rest => some ([(String.ofList key, x)], rest)
            | ',' :: rest =>
              (members fuel depth rest).map fun (xs, r) => ((String.ofList key, x) :: xs, r)
            | _ => none
        | _ => none
    | _ => none

end

def parseChars? (cs : List Char) : Option Json :=
  match value (2 * cs.length + 2) 127 cs with
  | some (j, rest) => if (skipSpace rest).isEmpty then some j else none
  | none => none

def parse? (s : String) : Option Json := parseChars? s.toList

end StubServer.Json
