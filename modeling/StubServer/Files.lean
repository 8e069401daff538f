import StubServer.Text.Blank
import StubServer.Text.Utf8

/-! # Files

What reading a path gives, and how paths are put together.  Nothing here looks at a disk: a
configuration is loaded from whatever files it is given.
-/

namespace StubServer

open Text.Utf8 (Bytes)

inductive Files.ReadError where
  | notFound
  /-- It is there, but it cannot be read as a file. -/
  | unreadable
  | notText
  deriving DecidableEq, Repr

structure Files where
  readBytes : String → Except Files.ReadError Bytes

namespace Files

/-- Reads a file that holds text. -/
def readText (files : Files) (path : String) : Except ReadError String :=
  match files.readBytes path with
  | .error e => .error e
  | .ok bytes =>
    match Text.Utf8.decode? bytes with
    | some text => .ok text
    | none => .error .notText

def contains (files : Files) (path : String) : Bool :=
  match files.readBytes path with
  | .error .notFound => false
  | _ => true

def isAbsolute (path : String) : Bool := path.toList.head? == some '/'

/-! ## Paths -/

/-- `path` as seen from `base`; an absolute path stays as it is. -/
def join (base path : String) : String :=
  if isAbsolute path then path
  else if base.isEmpty then path
  else if base.toList.getLast? = some '/' then base ++ path
  else base ++ "/" ++ path

def dropSlashes (cs : List Char) : List Char := Text.dropEndWhile (· == '/') cs

/-- Drops slashes and names that stay in place from the end. -/
def trimEnd : Nat → List Char → List Char
  | 0, cs => cs
  | fuel + 1, cs =>
    let cs' := dropSlashes cs
    match cs'.reverse with
    | '.' :: '/' :: rest => trimEnd fuel rest.reverse
    | _ => cs'

/-- The path without its last name; a path of one name is left with nothing, and one without any with
the directory that it is looked up in. -/
def parent (path : String) : String :=
  let cs := trimEnd path.length path.toList
  if cs.isEmpty then "."
  else
    let before := (cs.reverse.dropWhile (· != '/')).reverse
    let up := trimEnd path.length before
    if up.isEmpty && before.head? == some '/' then "/" else String.ofList up

end Files

end StubServer
