/-! # UTF-8, read leniently

Bytes that are no UTF-8 are read as U+FFFD.  One replacement stands for the longest run of bytes
that begins some character and goes no further, so every other byte is read again on its own.
-/

namespace StubServer.Text.Utf8

abbrev Bytes := List UInt8

def encodeChars (cs : List Char) : Bytes := cs.flatMap String.utf8EncodeChar

def encode (s : String) : Bytes := encodeChars s.toList

/-- A byte of the form `10xxxxxx`. -/
def isTail (b : UInt8) : Bool := 0x80 ≤ b && b ≤ 0xBF

def tailValue (b : UInt8) : Nat := b.toNat - 0x80

/-- The range of a second byte after the lead byte `a` of a character of three bytes. -/
def secondOfThree (a b : UInt8) : Bool :=
  if a = 0xE0 then 0xA0 ≤ b && b ≤ 0xBF
  else if a = 0xED then 0x80 ≤ b && b ≤ 0x9F
  else isTail b

/-- The range of a second byte after the lead byte `a` of a character of four bytes. -/
def secondOfFour (a b : UInt8) : Bool :=
  if a = 0xF0 then 0x90 ≤ b && b ≤ 0xBF
  else if a = 0xF4 then 0x80 ≤ b && b ≤ 0x8F
  else isTail b

/-- What the front of a byte sequence holds: a character, or bytes that begin none; with the
number of bytes that it takes up. -/
inductive Front where
  | char (c : Char) (size : Nat)
  | broken (size : Nat)

def Front.size : Front → Nat
  | .char _ n => n
  | .broken n => n

/-- Reads one character off `a :: rest`. -/
def front (a : UInt8) (rest : Bytes) : Front :=
  if a < 0x80 then .char (Char.ofNat a.toNat) 1
  else if 0xC2 ≤ a && a ≤ 0xDF then
    match rest with
    | b :: _ =>
      if isTail b then .char (Char.ofNat ((a.toNat - 0xC0) * 64 + tailValue b)) 2 else .broken 1
    | [] => .broken 1
  else if 0xE0 ≤ a && a ≤ 0xEF then
    match rest with
    | b :: more =>
      if secondOfThree a b then
        match more with
        | c :: _ =>
          if isTail c then
            .char (Char.ofNat ((a.toNat - 0xE0) * 4096 + tailValue b * 64 + tailValue c)) 3
          else .broken 2
        | [] => .broken 2
      else .broken 1
    | [] => .broken 1
  else if 0xF0 ≤ a && a ≤ 0xF4 then
    match rest with
    | b :: more =>
      if secondOfFour a b then
        match more with
        | c :: more =>
          if isTail c then
            match more with
            | d :: _ =>
              if isTail d then
                .char (Char.ofNat
                  ((a.toNat - 0xF0) * 262144 + tailValue b * 4096 + tailValue c * 64 + tailValue d)) 4
              else .broken 3
            | [] => .broken 3
          else .broken 2
        | [] => .broken 2
      else .broken 1
    | [] => .broken 1
  else .broken 1

def replacement : Char := Char.ofNat 0xFFFD

/-- Reads all bytes; the number counts those that belong to a character already read. -/
def readLossy : Nat → Bytes → List Char
  | _, [] => []
  | pending + 1, _ :: rest => readLossy pending rest
  | 0, a :: rest =>
    match front a rest with
    | .char c n => c :: readLossy (n - 1) rest
    | .broken n => replacement :: readLossy (n - 1) rest

def decodeLossy (bytes : Bytes) : String := String.ofList (readLossy 0 bytes)

/-- Reads all bytes, or nothing when some of them are no UTF-8. -/
def readStrict : Nat → Bytes → Option (List Char)
  | _, [] => some []
  | pending + 1, _ :: rest => readStrict pending rest
  | 0, a :: rest =>
    match front a rest with
    | .char c n => (readStrict (n - 1) rest).map (c :: ·)
    | .broken _ => none

def decode? (bytes : Bytes) : Option String := (readStrict 0 bytes).map String.ofList

end StubServer.Text.Utf8
