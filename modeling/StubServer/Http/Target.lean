import StubServer.Text.Case
import StubServer.Text.Blank

/-! # Request targets

A target is a path with an optional query (`/a?b`), a whole URI (`http://h/a?b`), an authority
(`h:80`) or `*`.  A fragment is dropped.  The parts are taken as they stand.
-/

namespace StubServer.Http

structure Target where
  scheme : Option String
  authority : Option String
  /-- Path and query as written; empty for a URI or an authority without them. -/
  pathAndQuery : String
  deriving DecidableEq, Repr

namespace Target

def isSchemeChar (c : Char) : Bool := c.isAlphanum || c == '+' || c == '-' || c == '.'

/-- The scheme and what follows its `://`. -/
def splitScheme (cs : List Char) : Option (List Char × List Char) :=
  match cs.takeWhile isSchemeChar, cs.dropWhile isSchemeChar with
  | [], _ => none
  | scheme, ':' :: '/' :: '/' :: rest => some (scheme, rest)
  | _, _ => none

def endsAuthority (c : Char) : Bool := c == '/' || c == '?' || c == '#'

def dropFragment (cs : List Char) : List Char := cs.takeWhile (· != '#')

/-- Reads a target that is well formed. -/
def ofText (text : String) : Target :=
  let cs := text.toList
  match cs with
  | '/' :: _ => ⟨none, none, String.ofList (dropFragment cs)⟩
  | ['*'] => ⟨none, none, "*"⟩
  | _ =>
    match splitScheme cs with
    | some (scheme, rest) =>
      ⟨some (String.ofList scheme), some (String.ofList (rest.takeWhile fun c => !endsAuthority c)),
        String.ofList (dropFragment (rest.dropWhile fun c => !endsAuthority c))⟩
    | none => ⟨none, some text, ""⟩

/-- The part before the `?`; a URI without a path has the path `/`. -/
def path (t : Target) : String :=
  if t.pathAndQuery.isEmpty && t.scheme.isNone then ""
  else
    let before := t.pathAndQuery.toList.takeWhile (· != '?')
    if before.isEmpty then "/" else String.ofList before

/-- The part after the first `?`. -/
def query (t : Target) : Option String :=
  (Text.splitOnce '?' t.pathAndQuery.toList).map fun (_, after) => String.ofList after

/-- Path and query together, `/` for a URI without both, nothing for an authority. -/
def url (t : Target) : String :=
  if t.scheme.isSome || t.authority.isNone then
    if t.pathAndQuery.isEmpty then "/" else t.pathAndQuery
  else t.path

end Target

end StubServer.Http
