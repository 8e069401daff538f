import StubServer.Json.Path
import StubServer.Json.PathReader
import StubServer.Json.Pointer
import StubServer.Json.Reader

/-! # Stored documents

JSON documents under keys, and the five things that can be asked of them.  A key without a
document is never an error: reading it finds nothing, and taking something out of it does nothing.
`run` answers one request and gives the store that it leaves, also when the request fails.
-/

namespace StubServer

/-- The documents by key. -/
abbrev Documents := Table Json

inductive DocumentError where
  | invalidPointer (path : String)
  | invalidExpression (expression : String)
  | unavailable (reason : String)
  deriving DecidableEq, Repr

/-- The text of an expression that cannot be read ends where its explanation would begin. -/
def DocumentError.message : DocumentError → String
  | .invalidPointer path => "invalid JSON pointer '" ++ path ++ "'"
  | .invalidExpression expression => "invalid path expression '" ++ expression ++ "': "
  | .unavailable reason => "kv backend unavailable: " ++ reason

inductive DocumentRequest where
  | get (key : String)
  | put (key value : String)
  | add (key path value : String)
  | remove (key path : String)
  | lookup (key expression : String)
  deriving DecidableEq, Repr

namespace Json

/-- Adds a value to a document where a pointer says, or leaves it as it is. -/
def addIn (doc : Json) (path : String) (value : Json) : Json × Except DocumentError Unit :=
  match (pointerTokens? path).bind fun tokens => addAt value tokens doc with
  | some changed => (changed, .ok ())
  | none => (doc, .error (.invalidPointer path))

/-- Takes what a pointer names out of a document. -/
def removeIn (doc : Json) (path : String) : Json × Except DocumentError Unit :=
  match pointerTokens? path with
  | some tokens => (removeAt tokens doc, .ok ())
  | none => (doc, .error (.invalidPointer path))

end Json

namespace Documents

/-- The value that a text stands for: the JSON value it spells, else the text itself. -/
def readValue (text : String) : Json := (Json.parse? text).getD (.str text)

def get (docs : Documents) (key : String) : Option Json := Table.get? docs key

def put (docs : Documents) (key value : String) : Documents :=
  Table.insert docs key (readValue value)

/-- Adds a value inside a document.  A key without a document gets an empty object first, and
keeps it when the place in it cannot be reached. -/
def add (docs : Documents) (key path value : String) : Documents × Except DocumentError Unit :=
  let (doc, result) := ((docs.get key).getD (.obj [])).addIn path (readValue value)
  (Table.insert docs key doc, result)

/-- Takes a value out of a document, if both are there. -/
def remove (docs : Documents) (key path : String) : Documents × Except DocumentError Unit :=
  match docs.get key with
  | none => (docs, .ok ())
  | some doc =>
    let (doc, result) := doc.removeIn path
    (Table.insert docs key doc, result)

/-- What an expression selects from a document; without a document it is not even read. -/
def lookup (docs : Documents) (key expression : String) : Except DocumentError (Option Json) :=
  match docs.get key, Json.Path.parse? expression with
  | none, _ => .ok none
  | some _, none => .error (.invalidExpression expression)
  | some doc, some steps => .ok (Json.Path.select steps doc)

end Documents

/-- A place where documents are kept, or one that cannot be reached. -/
inductive DocumentStore where
  | held (docs : Documents)
  | unreachable (reason : String)
  deriving Repr

namespace DocumentStore

def empty : DocumentStore := .held []

def docs : DocumentStore → Documents
  | .held docs => docs
  | .unreachable _ => []

/-- Answers a request.  Only reading gives a value. -/
def run (request : DocumentRequest) :
    DocumentStore → DocumentStore × Except DocumentError (Option Json)
  | .unreachable reason => (.unreachable reason, .error (.unavailable reason))
  | .held docs =>
    match request with
    | .get key => (.held docs, .ok (docs.get key))
    | .put key value => (.held (docs.put key value), .ok none)
    | .add key path value =>
      let (docs, result) := docs.add key path value
      (.held docs, result.map fun _ => none)
    | .remove key path =>
      let (docs, result) := docs.remove key path
      (.held docs, result.map fun _ => none)
    | .lookup key expression => (.held docs, docs.lookup key expression)

end DocumentStore

end StubServer
