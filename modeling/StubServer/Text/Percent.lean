import StubServer.Text.Utf8

/-! # Percent escapes

Reading the parts of a query: `%` and two digits stand for one byte, `+` for a blank, and the
bytes are read as lenient UTF-8.  A `%` that begins no escape stands for itself.
-/

namespace StubServer.Text.Percent

open Utf8 (Bytes)

def hexDigit? (b : UInt8) : Option UInt8 :=
  if 48 ≤ b && b ≤ 57 then some (b - 48)
  else if 65 ≤ b && b ≤ 70 then some (b - 55)
  else if 97 ≤ b && b ≤ 102 then some (b - 87)
  else none

/-- The byte that two characters after `%` stand for.  Digits may be signed: after a `+` the
second character alone gives the value. -/
def escaped? (high low : UInt8) : Option UInt8 :=
  match hexDigit? low with
  | none => none
  | some l => if high = 43 then some l else (hexDigit? high).map fun h => h * 16 + l

/-- Reads the bytes; the number counts those of an escape that has been read already. -/
def unescape : Nat → Bytes → Bytes
  | _, [] => []
  | pending + 1, _ :: rest => unescape pending rest
  | 0, b :: rest =>
    if b = 37 then
      match rest with
      | high :: low :: _ =>
        match escaped? high low with
        | some byte => byte :: unescape 2 rest
        | none => b :: unescape 0 rest
      | _ => b :: unescape 0 rest
    else if b = 43 then 32 :: unescape 0 rest
    else b :: unescape 0 rest

def decode (s : String) : String := Utf8.decodeLossy (unescape 0 (Utf8.encode s))

end StubServer.Text.Percent
