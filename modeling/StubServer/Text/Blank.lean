/-! # Blank characters

The blanks are the characters with the Unicode property White_Space.  Trimming a text removes
blanks at one or both of its ends and nothing in between.
-/

namespace StubServer.Text

/-- The ten ranges of White_Space. -/
def isBlank (c : Char) : Bool :=
  let n := c.toNat
  (9 ≤ n && n ≤ 13) || n == 0x20 || n == 0x85 || n == 0xA0 || n == 0x1680 ||
    (0x2000 ≤ n && n ≤ 0x200A) || n == 0x2028 || n == 0x2029 || n == 0x202F ||
    n == 0x205F || n == 0x3000

/-- Drops the characters of class `p` at the end of a list. -/
def dropEndWhile (p : Char → Bool) (cs : List Char) : List Char :=
  (cs.reverse.dropWhile p).reverse

/-- Drops the characters of class `p` at both ends of a list. -/
def stripWhile (p : Char → Bool) (cs : List Char) : List Char :=
  dropEndWhile p (cs.dropWhile p)

def trim (s : String) : String :=
  String.ofList (stripWhile isBlank s.toList)

/-- The text holds nothing but blanks. -/
def isAllBlank (s : String) : Bool :=
  s.toList.all isBlank

/-- Splits at every occurrence of `sep`, keeping empty pieces: there is always one piece more
than there are separators. -/
def splitChars (sep : Char) : List Char → List (List Char)
  | [] => [[]]
  | c :: cs =>
    if c = sep then [] :: splitChars sep cs
    else
      match splitChars sep cs with
      | [] => [[c]]
      | piece :: pieces => (c :: piece) :: pieces

/-- The two sides of the first `sep`, or nothing when there is none. -/
def splitOnce (sep : Char) : List Char → Option (List Char × List Char)
  | [] => none
  | c :: cs =>
    if c = sep then some ([], cs)
    else (splitOnce sep cs).map fun (before, after) => (c :: before, after)

/-- Drops `start` from the front of the second list, or nothing when it does not begin so. -/
def dropStart? : List Char → List Char → Option (List Char)
  | [], cs => some cs
  | _ :: _, [] => none
  | p :: ps, c :: cs => if p = c then dropStart? ps cs else none

/-- Every occurrence of `old`, found from the left without overlap, becomes `new`.  An empty
`old` occurs before every character and at the end. -/
def replaceAll (old new cs : List Char) : List Char :=
  match old with
  | [] => new ++ cs.flatMap fun c => c :: new
  | o :: os => go (o :: os) 0 cs
where
  /-- The number counts the characters of an occurrence that are still to be passed over. -/
  go (pattern : List Char) : Nat → List Char → List Char
    | _, [] => []
    | skip + 1, _ :: rest => go pattern skip rest
    | 0, c :: rest =>
      if pattern.isPrefixOf (c :: rest) then new ++ go pattern (pattern.length - 1) rest
      else c :: go pattern 0 rest

end StubServer.Text
