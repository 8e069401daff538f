import StubServer.Text.Blank

/-! # Socket addresses

An address with a port, written `a.b.c.d:port` or `[address]:port`.  Reading is strict about
digits: an octet has at most three and no leading zero.  Writing gives the shortest form of a
longer address: the first longest run of zero groups is left out, and an address that maps an old
one ends in its four octets.
-/

namespace StubServer.Net

inductive SocketAddress where
  | v4 (octets : List Nat) (port : Nat)
  | v6 (groups : List Nat) (scope : Nat) (port : Nat)
  deriving DecidableEq, Repr

namespace SocketAddress

def loopback : SocketAddress := .v4 [127, 0, 0, 1] 8080

/-! ## Writing -/

def decimal (n : Nat) : List Char := Nat.toDigits 10 n

def hexadecimal (n : Nat) : List Char := Nat.toDigits 16 n

def joinWith (sep : Char) : List (List Char) → List Char
  | [] => []
  | [x] => x
  | x :: rest => x ++ sep :: joinWith sep rest

def zeroRun (groups : List Nat) : Nat := (groups.takeWhile (· == 0)).length

/-- Where the first longest run of zero groups begins, and its length. -/
def longestZeroRun (position : Nat) : List Nat → Nat × Nat
  | [] => (0, 0)
  | g :: rest =>
    let here := zeroRun (g :: rest)
    let later := longestZeroRun (position + 1) rest
    if later.2 ≤ here then (position, here) else later

def writeGroups (groups : List Nat) : List Char :=
  match groups with
  | [0, 0, 0, 0, 0, 0xFFFF, a, b] =>
    "::ffff:".toList ++ joinWith '.' ([a / 256, a % 256, b / 256, b % 256].map decimal)
  | _ =>
    let (start, length) := longestZeroRun 0 groups
    if 1 < length then
      joinWith ':' ((groups.take start).map hexadecimal) ++ [':', ':'] ++
        joinWith ':' ((groups.drop (start + length)).map hexadecimal)
    else joinWith ':' (groups.map hexadecimal)

def write : SocketAddress → String
  | .v4 octets port =>
    String.ofList (joinWith '.' (octets.map decimal) ++ ':' :: decimal port)
  | .v6 groups scope port =>
    let zone := if scope = 0 then [] else '%' :: decimal scope
    String.ofList ('[' :: writeGroups groups ++ zone ++ ']' :: ':' :: decimal port)

/-! ## Reading -/

def valueOf (base : Nat) (digits : List Char) : Nat :=
  digits.foldl (fun n c =>
    n * base + (if c.isDigit then c.toNat - 48 else c.toLower.toNat - 87)) 0

/-- Decimal digits with a value of at most `most`; leading zeros are allowed. -/
def number? (most : Nat) (cs : List Char) : Option Nat :=
  if cs.isEmpty || !cs.all Char.isDigit then none
  else if valueOf 10 cs ≤ most then some (valueOf 10 cs) else none

def octet? (cs : List Char) : Option Nat :=
  if cs.length > 3 ∨ (cs.length > 1 ∧ cs.head? = some '0') then none else number? 255 cs

def octets? (cs : List Char) : Option (List Nat) :=
  let parts := Text.splitChars '.' cs
  if parts.length = 4 then parts.mapM octet? else none

def isHexDigit (c : Char) : Bool := c.isDigit || ('a' ≤ c.toLower && c.toLower ≤ 'f')

def group? (cs : List Char) : Option Nat :=
  if cs.isEmpty || cs.length > 4 || !cs.all isHexDigit then none else some (valueOf 16 cs)

/-- Groups between colons; the last two may be written as four octets. -/
def groups? (cs : List Char) : Option (List Nat) :=
  if cs.isEmpty then some []
  else
    let parts := Text.splitChars ':' cs
    match parts.getLast? with
    | none => some []
    | some last =>
      match octets? last with
      | some [a, b, c, d] =>
        (parts.dropLast.mapM group?).map fun gs => gs ++ [a * 256 + b, c * 256 + d]
      | _ => parts.mapM group?

/-- The text before and after the first `::`. -/
def splitGap : List Char → Option (List Char × List Char)
  | [] => none
  | ':' :: ':' :: rest => some ([], rest)
  | c :: rest => (splitGap rest).map fun (before, after) => (c :: before, after)

def address? (cs : List Char) : Option (List Nat) :=
  match splitGap cs with
  | some (before, after) =>
    match before.contains '.', groups? before, groups? after with
    | false, some front, some back =>
      if front.length + back.length < 8 then
        some (front ++ List.replicate (8 - front.length - back.length) 0 ++ back)
      else none
    | _, _, _ => none
  | none =>
    match groups? cs with
    | some gs => if gs.length = 8 then some gs else none
    | none => none

def read? (text : String) : Option SocketAddress :=
  match text.toList with
  | '[' :: rest =>
    match Text.splitOnce ']' rest with
    | some (inner, ':' :: port) =>
      let (address, scope?) := match Text.splitOnce '%' inner with
        | some (address, scope) => (address, number? 0xFFFFFFFF scope)
        | none => (inner, some 0)
      match address? address, scope?, number? 65535 port with
      | some groups, some scope, some port => some (.v6 groups scope port)
      | _, _, _ => none
    | _ => none
  | cs =>
    match Text.splitOnce ':' cs with
    | some (address, port) =>
      match octets? address, number? 65535 port with
      | some octets, some port => some (.v4 octets port)
      | _, _ => none
    | none => none

end SocketAddress

end StubServer.Net
