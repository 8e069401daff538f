import StubServer.Json.Basic

/-! # Writing JSON

The compact form has no blanks at all; the laid out form puts every item and every member on a
line of its own, two blanks deeper than its container.
-/

namespace StubServer.Json

open Number (Double DecimalLayout)

/-- JSON has no infinite numbers, so their texts are never asked for. -/
def floatLayout : DecimalLayout := ⟨"+", "null", "null", "null"⟩

def hexDigit (n : Nat) : Char := if n < 10 then Char.ofNat (48 + n) else Char.ofNat (87 + n)

/-- Quotes, backslashes and control characters are escaped and nothing else. -/
def escapeChar (c : Char) : List Char :=
  if c = '"' then ['\\', '"']
  else if c = '\\' then ['\\', '\\']
  else if c = '\x08' then ['\\', 'b']
  else if c = '\x0c' then ['\\', 'f']
  else if c = '\n' then ['\\', 'n']
  else if c = '\r' then ['\\', 'r']
  else if c = '\t' then ['\\', 't']
  else if c.toNat < 0x20 then
    ['\\', 'u', '0', '0', hexDigit (c.toNat / 16), hexDigit (c.toNat % 16)]
  else [c]

def quoted (s : String) : List Char := '"' :: s.toList.flatMap escapeChar ++ ['"']

def intText (n : Int) : List Char :=
  if n < 0 then '-' :: Nat.toDigits 10 n.natAbs else Nat.toDigits 10 n.natAbs

def numberText : JsonNumber → List Char
  | .int n => intText n
  | .float x => x.text floatLayout

mutual

def compactChars : Json → List Char
  | .null => ['n', 'u', 'l', 'l']
  | .bool true => ['t', 'r', 'u', 'e']
  | .bool false => ['f', 'a', 'l', 's', 'e']
  | .num n => numberText n
  | .str s => quoted s
  | .arr items => '[' :: compactItems true items ++ [']']
  | .obj members => '{' :: compactMembers true members ++ ['}']

def compactItems (isFirst : Bool) : List Json → List Char
  | [] => []
  | x :: xs => (if isFirst then [] else [',']) ++ compactChars x ++ compactItems false xs

def compactMembers (isFirst : Bool) : List (String × Json) → List Char
  | [] => []
  | (k, x) :: xs =>
    (if isFirst then [] else [',']) ++ quoted k ++ ':' :: compactChars x ++ compactMembers false xs

end

def compact (j : Json) : String := String.ofList j.compactChars

def newline (depth : Nat) : List Char := '\n' :: List.replicate (2 * depth) ' '

mutual

def prettyChars (depth : Nat) : Json → List Char
  | .null => ['n', 'u', 'l', 'l']
  | .bool true => ['t', 'r', 'u', 'e']
  | .bool false => ['f', 'a', 'l', 's', 'e']
  | .num n => numberText n
  | .str s => quoted s
  | .arr [] => ['[', ']']
  | .arr (x :: xs) => '[' :: prettyItems (depth + 1) true (x :: xs) ++ newline depth ++ [']']
  | .obj [] => ['{', '}']
  | .obj (x :: xs) => '{' :: prettyMembers (depth + 1) true (x :: xs) ++ newline depth ++ ['}']

def prettyItems (depth : Nat) (isFirst : Bool) : List Json → List Char
  | [] => []
  | x :: xs =>
    (if isFirst then [] else [',']) ++ newline depth ++ prettyChars depth x ++
      prettyItems depth false xs

def prettyMembers (depth : Nat) (isFirst : Bool) : List (String × Json) → List Char
  | [] => []
  | (k, x) :: xs =>
    (if isFirst then [] else [',']) ++ newline depth ++ quoted k ++ ':' :: ' ' ::
      prettyChars depth x ++ prettyMembers depth false xs

end

def pretty (j : Json) : String := String.ofList (j.prettyChars 0)

end StubServer.Json
