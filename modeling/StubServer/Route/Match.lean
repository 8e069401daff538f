import StubServer.Endpoint.Load
import StubServer.Http.Request
import StubServer.Route.Walk

/-! # Matching requests

A request is matched in two steps: its path leads to a node of the route tree, and of the
endpoints there for its method the first whose further conditions all hold serves it.  When none
does, `Mismatch` says how far the request came.
-/

namespace StubServer

namespace Route

/-- The conditions beside path and method. -/
inductive Predicate where
  | scheme
  | host
  | query
  | headers
  | body
  deriving DecidableEq, Repr

def Predicate.name : Predicate → String
  | .scheme => "scheme"
  | .host => "host"
  | .query => "query"
  | .headers => "headers"
  | .body => "body"

/-- An endpoint that was considered, with the conditions that the request failed. -/
structure Rejection where
  id : String
  failed : List Predicate
  deriving DecidableEq, Repr

inductive Mismatch where
  /-- The tree has no way on behind the segments that matched. -/
  | path (path matched : String)
  /-- The path leads to a node, but not for the method. -/
  | method (path method : String)
  /-- Every endpoint there failed some condition. -/
  | predicates (path method : String) (rejections : List Rejection)
  deriving DecidableEq, Repr

def Rejection.text (r : Rejection) : String :=
  " endpoint '" ++ r.id ++ "' failed on " ++ String.intercalate ", " (r.failed.map Predicate.name)

def Mismatch.text : Mismatch → String
  | .path p matched =>
    "path '" ++ p ++ "' not matched, subpath which matched: '" ++ matched ++ "'"
  | .method p m =>
    "path '" ++ p ++ "' matched, but no endpoint found with method '" ++ m ++ "'"
  | .predicates p m rejections =>
    "path '" ++ p ++ "' matched, but no endpoint with method '" ++ m ++
      "' accepted the request:" ++ String.intercalate ";" (rejections.map Rejection.text)

structure Matched where
  endpoint : Endpoint
  params : Captures

abbrev Outcome := Except Mismatch Matched

/-! ## Conditions -/

def schemeHolds (expected : Expectation) (r : Http.Request) : Bool :=
  match expected.scheme with
  | some scheme => scheme == r.scheme
  | none => true

/-- A host with a port is compared as a whole and without regard to case; a host without one is
compared with the name of the host alone. -/
def hostMatches (expected : String) (r : Http.Request) : Bool :=
  if expected.toList.contains ':' && expected.toList.head? != some '[' then
    match r.host with
    | some host => Text.eqIgnoringAsciiCase host expected
    | none => false
  else r.hostName == some expected

def hostHolds (expected : Expectation) (r : Http.Request) : Bool :=
  match expected.host with
  | some host => hostMatches host r
  | none => true

def queryHolds (expected : Expectation) (query : Http.Query.Params) : Bool :=
  expected.query.all fun (name, value) => ((Table.get? query name).getD []).contains value

def headersHold (expected : Expectation) (r : Http.Request) : Bool :=
  expected.headers.all fun (name, value) => (r.headers.values name).contains value

def bodyHolds (expected : Expectation) (r : Http.Request) : Bool :=
  match expected.body with
  | none => true
  | some pattern =>
    match r.body with
    | some bytes => pattern.regex.matchesBytes bytes
    | none => false

def failIf (holds : Bool) (p : Predicate) : List Predicate := if holds then [] else [p]

/-- The conditions that the request fails, in the order in which they are looked at. -/
def failedPredicates (expected : Expectation) (r : Http.Request) : List Predicate :=
  failIf (schemeHolds expected r) .scheme ++ failIf (hostHolds expected r) .host ++
    failIf (queryHolds expected r.queryParams) .query ++ failIf (headersHold expected r) .headers ++
    failIf (bodyHolds expected r) .body

/-- The first candidate that fails nothing, or why each of them was rejected. -/
def choose (r : Http.Request) : List Endpoint → Except (List Rejection) Endpoint
  | [] => .error []
  | e :: rest =>
    match failedPredicates e.request r with
    | [] => .ok e
    | failed =>
      match choose r rest with
      | .ok found => .ok found
      | .error rejections => .error (⟨e.id, failed⟩ :: rejections)

end Route

/-- All endpoints of a server, in load order and as a tree. -/
structure Registry where
  root : Route.Tree
  endpoints : List Endpoint

namespace Registry

open Route

def ofList (endpoints : List Endpoint) : Registry := ⟨Tree.ofList endpoints, endpoints⟩

def get? (g : Registry) (id : String) : Option Endpoint := g.endpoints.find? (·.id == id)

def ids (g : Registry) : List String := g.endpoints.map (·.id)

/-- The endpoint that serves a request, or why there is none. -/
def findMatch (g : Registry) (r : Http.Request) : Outcome :=
  match g.root.walk r.method (splitPath r.path) with
  | .error matched => .error (.path r.path (String.intercalate "/" matched))
  | .ok arrival =>
    match arrival.node.endpointsFor r.method with
    | [] => .error (.method r.path r.method)
    | candidates =>
      match choose r candidates with
      | .ok e => .ok ⟨e, arrival.params⟩
      | .error rejections => .error (.predicates r.path r.method rejections)

end Registry

end StubServer
