import StubServer.Regex.Category
import StubServer.Regex.Folding
import StubServer.Regex.Property
import StubServer.Regex.Script
import StubServer.Regex.WordSet
import StubServer.Text.Blank

/-! # Character classes

The sets that class names stand for, and what case and negation do to a set.  A class is a set of
code points, or a set of bytes where the Unicode mode is switched off.
-/

namespace StubServer.Regex

open Text (Ranges)

/-- The modes of an expression, each switched by one letter. -/
structure Modes where
  ignoreCase : Bool
  multiLine : Bool
  dotAll : Bool
  /-- Lines end in a carriage return, a newline or both. -/
  anyLineEnd : Bool
  isUnicode : Bool
  /-- Blanks and comments are passed over. -/
  verbose : Bool
  /-- Changes which of several matches is preferred, and so nothing about whether there is one. -/
  lazy : Bool
  deriving DecidableEq, Repr

def Modes.start : Modes := ⟨false, false, false, false, true, false, false⟩

/-- The largest member that a class may have. -/
def Modes.top (m : Modes) : Nat := if m.isUnicode then 0x10FFFF else 0xFF

/-- Adds the letters that differ in case only from a member. -/
def foldCase (isUnicode : Bool) (set : Ranges) : Ranges :=
  if isUnicode then
    let set := Ranges.normalize set
    let met := foldingGroups.filter fun group => group.any set.contains
    Ranges.union set (met.flatMap fun group => group.map fun n => (n, n))
  else
    let lowers := (Ranges.intersect 0xFF set [(65, 90)]).map fun (a, b) => (a + 32, b + 32)
    let uppers := (Ranges.intersect 0xFF set [(97, 122)]).map fun (a, b) => (a - 32, b - 32)
    Ranges.union set (lowers ++ uppers)

def foldIf (m : Modes) (set : Ranges) : Ranges :=
  if m.ignoreCase then foldCase m.isUnicode set else set

/-- First case, then negation. -/
def finishClass (m : Modes) (negated : Bool) (set : Ranges) : Ranges :=
  let set := foldIf m set
  if negated then Ranges.complement m.top set else Ranges.normalize set

/-! ## Sets by name -/

/-- Names are compared without case, blanks, hyphens, underscores and a leading `is`. -/
def normalizeName (name : String) : String :=
  let cs := name.toList
  let isPrefixed := (cs.take 2).map Char.toLower == ['i', 's']
  let cs := if isPrefixed then cs.drop 2 else cs
  let cs := (cs.filter fun c => c.toNat < 128 && c != ' ' && c != '_' && c != '-').map Char.toLower
  if isPrefixed && cs == ['c'] then "isc" else String.ofList cs

def unionOf (parts : List String) : Ranges :=
  Ranges.normalize (parts.flatMap fun part => (NamedSet.find? categories part).getD [])

def categoryGroup? (name : String) : Option (List String) :=
  if ["l", "letter"].contains name then some ["lu", "ll", "lt", "lm", "lo"]
  else if ["lc", "casedletter"].contains name then some ["lu", "ll", "lt"]
  else if ["m", "mark", "combiningmark"].contains name then some ["mn", "mc", "me"]
  else if ["n", "number"].contains name then some ["nd", "nl", "no"]
  else if ["p", "punctuation", "punct"].contains name then
    some ["pc", "pd", "ps", "pe", "pi", "pf", "po"]
  else if ["s", "symbol"].contains name then some ["sm", "sc", "sk", "so"]
  else if ["z", "separator"].contains name then some ["zs", "zl", "zp"]
  else if ["c", "other"].contains name then some ["cc", "cf", "cs", "co", "cn"]
  else none

def category? (name : String) : Option Ranges :=
  if name = "any" then some [(0, 0x10FFFF)]
  else if name = "ascii" then some [(0, 0x7F)]
  else if name = "assigned" then some (Ranges.complement 0x10FFFF (unionOf ["cn"]))
  else
    match categoryGroup? name with
    | some parts => some (unionOf parts)
    | none => NamedSet.find? categories name

/-- A name alone is a property, a category or a script, in this order; three short names are
categories first. -/
def byName? (name : String) : Option Ranges :=
  let property? :=
    if ["cf", "sc", "lc"].contains name then none else NamedSet.find? properties name
  match property? with
  | some set => some set
  | none =>
    match category? name with
    | some set => some set
    | none => NamedSet.find? scripts name

def byValue? (property value : String) : Option Ranges :=
  if ["gc", "generalcategory"].contains property then category? value
  else if ["sc", "script", "scx", "scriptextensions"].contains property then
    NamedSet.find? scripts value
  else none

/-- The set named in braces, with `!=` for its complement. -/
def named? (text : List Char) : Option (Ranges × Bool) :=
  match splitNotEqual text with
  | some (property, value) =>
    (byValue? (norm property) (norm value)).map fun set => (set, true)
  | none =>
    match Text.splitOnce ':' text with
    | some (property, value) =>
      (byValue? (norm property) (norm value)).map fun set => (set, false)
    | none =>
      match Text.splitOnce '=' text with
      | some (property, value) =>
        (byValue? (norm property) (norm value)).map fun set => (set, false)
      | none => (byName? (norm text)).map fun set => (set, false)
where
  norm (cs : List Char) : String := normalizeName (String.ofList cs)
  splitNotEqual : List Char → Option (List Char × List Char)
    | [] => none
    | '!' :: '=' :: rest => some ([], rest)
    | c :: rest => (splitNotEqual rest).map fun (before, after) => (c :: before, after)

/-- The sets `[:name:]`. -/
def asciiSet? (name : String) : Option Ranges :=
  match name with
  | "alnum" => some [(48, 57), (65, 90), (97, 122)]
  | "alpha" => some [(65, 90), (97, 122)]
  | "ascii" => some [(0, 127)]
  | "blank" => some [(9, 9), (32, 32)]
  | "cntrl" => some [(0, 31), (127, 127)]
  | "digit" => some [(48, 57)]
  | "graph" => some [(33, 126)]
  | "lower" => some [(97, 122)]
  | "print" => some [(32, 126)]
  | "punct" => some [(33, 47), (58, 64), (91, 96), (123, 126)]
  | "space" => some [(9, 13), (32, 32)]
  | "upper" => some [(65, 90)]
  | "word" => some [(48, 57), (65, 90), (95, 95), (97, 122)]
  | "xdigit" => some [(48, 57), (65, 70), (97, 102)]
  | _ => none

/-- The sets of `\d`, `\s` and `\w`; a capital letter asks for the complement. -/
def letterSet? (m : Modes) (c : Char) : Option Ranges :=
  let set? : Option Ranges :=
    if c = 'd' ∨ c = 'D' then some (if m.isUnicode then digitRanges else [(48, 57)])
    else if c = 's' ∨ c = 'S' then some (if m.isUnicode then spaceRanges else [(9, 13), (32, 32)])
    else if c = 'w' ∨ c = 'W' then
      some (if m.isUnicode then wordRanges else [(48, 57), (65, 90), (95, 95), (97, 122)])
    else none
  set?.map fun set => if c.isUpper then Ranges.complement m.top set else set

end StubServer.Regex
