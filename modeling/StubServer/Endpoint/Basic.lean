import StubServer.Config.Basic
import StubServer.Http.Header
import StubServer.Regex.Parser
import StubServer.Route.Pattern

/-! # Endpoints

An endpoint is a definition that has been read: its path as a pattern, the body condition as a
regular expression, its names in small letters.  `LoadError` lists what can go wrong on the way
from definitions to a server.
-/

namespace StubServer

/-- The templates that make up a response, in the order in which they run. -/
inductive Stage where
  | headers
  | status
  | body
  deriving DecidableEq, Repr

def Stage.name : Stage → String
  | .headers => "headers"
  | .status => "status"
  | .body => "body"

inductive LoadError where
  | invalidPath (id path : String) (cause : Route.PatternError)
  | invalidBodyPattern (id : String)
  | invalidHeaderName (id name : String)
  | bodyAndBodyFile (id : String)
  | unreadableBodyFile (id path : String)
  | invalidTemplate (id : String) (stage : Stage)
  | duplicateId (id : String)
  | invalidIdHeader (name : String)
  deriving DecidableEq, Repr

/-- The text of an error, as far as it does not come from the system or the reader of another
language. -/
def LoadError.message : LoadError → String
  | .invalidPath id path cause =>
    "endpoint '" ++ id ++ "': invalid path '" ++ path ++ "': " ++ cause.message
  | .invalidBodyPattern id => "endpoint '" ++ id ++ "': invalid body pattern: "
  | .invalidHeaderName id name => "endpoint '" ++ id ++ "': invalid header name '" ++ name ++ "'"
  | .bodyAndBodyFile id =>
    "endpoint '" ++ id ++ "': response cannot declare both body and body_file"
  | .unreadableBodyFile id path =>
    "endpoint '" ++ id ++ "': failed to read body file " ++ path ++ ": "
  | .invalidTemplate id stage => "endpoint '" ++ id ++ "': " ++ stage.name ++ " template: "
  | .duplicateId id => "duplicate endpoint id '" ++ id ++ "'"
  | .invalidIdHeader name => "invalid endpoint id header name '" ++ name ++ "'"

/-- A regular expression with the text that it was read from. -/
structure BodyPattern where
  text : String
  regex : Regex
  deriving DecidableEq, Repr

/-- The conditions that a request has to meet. -/
structure Expectation where
  scheme : Option String
  host : Option String
  /-- In capitals. -/
  method : String
  path : String
  pattern : Route.Pattern
  query : List (String × String)
  /-- By name, names in small letters. -/
  headers : List (String × String)
  body : Option BodyPattern

structure Endpoint where
  id : String
  priority : Int
  /-- The name of the group that the endpoint belongs to. -/
  mock : String
  request : Expectation
  response : Config.ResponseDefinition

namespace Endpoint

def method (e : Endpoint) : String := e.request.method

def keys (e : Endpoint) : List String := e.request.pattern.keys

/-- A method that is blank counts as GET. -/
def readMethod (text : String) : String :=
  if Text.isAllBlank text then "GET" else Text.upper (Text.trim text)

def readBodyPattern (id : String) : Option String → Except LoadError (Option BodyPattern)
  | none => .ok none
  | some text =>
    match Regex.parse? text with
    | some regex => .ok (some ⟨text, regex⟩)
    | none => .error (.invalidBodyPattern id)

/-- Header names in small letters; the first bad one is reported. -/
def readHeaders (id : String) : List (String × String) → Except LoadError (List (String × String))
  | [] => .ok []
  | (name, value) :: rest =>
    match Http.headerName? name with
    | none => .error (.invalidHeaderName id name)
    | some lower =>
      match readHeaders id rest with
      | .error e => .error e
      | .ok more => .ok ((lower, value) :: more)

def sortByName (rows : List (String × String)) : List (String × String) :=
  rows.mergeSort fun a b => a.1 ≤ b.1

def readExpectation (id : String) (d : Config.RequestDefinition) : Except LoadError Expectation :=
  match Route.Pattern.parse d.path with
  | .error cause => .error (.invalidPath id d.path cause)
  | .ok pattern =>
    match readBodyPattern id d.body with
    | .error e => .error e
    | .ok body =>
      match readHeaders id d.headers with
      | .error e => .error e
      | .ok headers => .ok {
          scheme := d.scheme.map Text.lower
          host := d.host.map Text.lower
          method := readMethod d.method
          path := d.path
          pattern := pattern
          query := d.query
          headers := sortByName headers
          body := body }

/-- Reads a definition under an id that it has been given already. -/
def compile (id mock : String) (d : Config.EndpointDefinition) : Except LoadError Endpoint :=
  match readExpectation id d.request with
  | .error e => .error e
  | .ok request =>
    if d.response.body.isSome && d.response.bodyFile.isSome then .error (.bodyAndBodyFile id)
    else .ok ⟨id, d.priority, mock, request, d.response⟩

end Endpoint

end StubServer
