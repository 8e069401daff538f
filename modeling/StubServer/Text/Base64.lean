import StubServer.Text.Utf8

/-! # Base64

The standard alphabet with canonical padding: the text comes in groups of four symbols, only the
last group may be padded, and the bits that padding cuts off are zero.
-/

namespace StubServer.Text.Base64

open Utf8 (Bytes)

def symbol (value : Nat) : Char :=
  if value < 26 then Char.ofNat (65 + value)
  else if value < 52 then Char.ofNat (71 + value)
  else if value < 62 then Char.ofNat (value - 4)
  else if value = 62 then '+' else '/'

def encodeBytes : Bytes → List Char
  | [] => []
  | [a] => [symbol (a.toNat / 4), symbol (a.toNat % 4 * 16), '=', '=']
  | [a, b] =>
    [symbol (a.toNat / 4), symbol (a.toNat % 4 * 16 + b.toNat / 16), symbol (b.toNat % 16 * 4), '=']
  | a :: b :: c :: rest =>
    symbol (a.toNat / 4) :: symbol (a.toNat % 4 * 16 + b.toNat / 16) ::
      symbol (b.toNat % 16 * 4 + c.toNat / 64) :: symbol (c.toNat % 64) :: encodeBytes rest

def encode (s : String) : String := String.ofList (encodeBytes (Utf8.encode s))

inductive DecodeError where
  | invalidSymbol (byte : UInt8) (offset : Nat)
  | invalidLength (length : Nat)
  | invalidLastSymbol (byte : UInt8) (offset : Nat)
  | invalidPadding
  deriving DecidableEq, Repr

def DecodeError.message : DecodeError → String
  | .invalidSymbol byte offset => s!"Invalid symbol {byte.toNat}, offset {offset}."
  | .invalidLength length => s!"Invalid input length: {length}"
  | .invalidLastSymbol byte offset => s!"Invalid last symbol {byte.toNat}, offset {offset}."
  | .invalidPadding => "Invalid padding"

/-- The value of a symbol of the alphabet. -/
def value? (b : UInt8) : Option Nat :=
  let n := b.toNat
  if 65 ≤ n ∧ n ≤ 90 then some (n - 65)
  else if 97 ≤ n ∧ n ≤ 122 then some (n - 71)
  else if 48 ≤ n ∧ n ≤ 57 then some (n + 4)
  else if n = 43 then some 62
  else if n = 47 then some 63
  else none

/-- The three bytes of four values. -/
def group (a b c d : Nat) : Bytes :=
  [UInt8.ofNat (a * 4 + b / 16), UInt8.ofNat (b % 16 * 16 + c / 4), UInt8.ofNat (c % 4 * 64 + d)]

/-- The first byte that is no symbol, with its offset. -/
def firstStray (offset : Nat) : Bytes → Option (UInt8 × Nat)
  | [] => none
  | b :: rest => if (value? b).isNone then some (b, offset) else firstStray (offset + 1) rest

/-- Reads the last group.  `offset` is where it begins and `length` the length of the text. -/
def decodeLast (offset length : Nat) (group : Bytes) : Except DecodeError Bytes :=
  let symbols := group.takeWhile (· ≠ 61)
  let padding := group.dropWhile (· ≠ 61)
  match symbols.mapM value? with
  | none =>
    match firstStray offset symbols with
    | some (b, at_) => .error (.invalidSymbol b at_)
    | none => .error .invalidPadding
  | some values =>
    match padding.find? (· ≠ 61) with
    | some _ => .error (.invalidSymbol 61 (offset + symbols.length))
    | none =>
      if !padding.isEmpty && symbols.length < 2 then
        .error (.invalidSymbol 61 (offset + symbols.length))
      else
      match values with
      | [] => .ok []
      | [_] => .error (.invalidLength length)
      | [a, b] =>
        if padding.length ≠ 2 then .error .invalidPadding
        else if b % 16 ≠ 0 then .error (.invalidLastSymbol (symbols.getD 1 0) (offset + 1))
        else .ok [UInt8.ofNat (a * 4 + b / 16)]
      | [a, b, c] =>
        if padding.length ≠ 1 then .error .invalidPadding
        else if c % 4 ≠ 0 then .error (.invalidLastSymbol (symbols.getD 2 0) (offset + 2))
        else .ok [UInt8.ofNat (a * 4 + b / 16), UInt8.ofNat (b % 16 * 16 + c / 4)]
      | a :: b :: c :: d :: _ => .ok (Base64.group a b c d)

/-- Reads the groups from `offset` on. -/
def decodeFrom (offset length : Nat) : Bytes → Except DecodeError Bytes
  | a :: b :: c :: d :: e :: rest =>
    match [a, b, c, d].mapM value? with
    | some [w, x, y, z] => do
      let more ← decodeFrom (offset + 4) length (e :: rest)
      return group w x y z ++ more
    | _ =>
      match firstStray offset [a, b, c, d] with
      | some (byte, at_) => .error (.invalidSymbol byte at_)
      | none => .error .invalidPadding
  | last => decodeLast offset length last

/-- A single byte left over after whole groups is looked at first, so that a line end after
sound text is what gets reported. -/
def decode (s : String) : Except DecodeError Bytes :=
  let bytes := Utf8.encode s
  match bytes.getLast? with
  | some b =>
    if bytes.length % 4 = 1 ∧ b ≠ 61 ∧ (value? b).isNone then
      .error (.invalidSymbol b (bytes.length - 1))
    else decodeFrom 0 bytes.length bytes
  | none => .ok []

end StubServer.Text.Base64
