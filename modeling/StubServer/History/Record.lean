import StubServer.Http.Request
import StubServer.Http.Response
import StubServer.Time.Reader

/-! # Records of requests

A record keeps what a request looked like, when it came, and either what was sent back or why no
endpoint took it.  Records are written as JSON objects; they are also read from arrays that hold
the fields in their order, and fields without a meaning are passed over.
-/

namespace StubServer

namespace History

/-- The parts of a request that are kept. -/
structure RecordedRequest where
  method : String
  url : String
  host : Option String
  headers : Table String
  deriving DecidableEq, Repr

/-- The parts of a response that are kept. -/
structure RecordedResponse where
  status : Nat
  headers : Table String
  deriving DecidableEq, Repr

/-- A request that an endpoint has answered. -/
structure MatchRecord where
  endpointId : String
  timestamp : Time.Instant
  request : RecordedRequest
  response : RecordedResponse
  deriving DecidableEq, Repr

/-- A request that no endpoint took. -/
structure MismatchRecord where
  timestamp : Time.Instant
  request : RecordedRequest
  detail : String
  deriving DecidableEq, Repr

def RecordedRequest.ofRequest (r : Http.Request) : RecordedRequest :=
  ⟨r.method, r.url, r.host, r.flatHeaders⟩

def RecordedResponse.ofResponse (r : Http.Response) : RecordedResponse := ⟨r.status, r.flatHeaders⟩

/-! ## Writing -/

def headersJson (headers : Table String) : Json :=
  .obj (headers.map fun (name, text) => (name, .str text))

def RecordedRequest.toJson (r : RecordedRequest) : Json := .object [
  ("method", .str r.method),
  ("url", .str r.url),
  ("host", r.host.elim .null .str),
  ("headers", headersJson r.headers)]

def RecordedResponse.toJson (r : RecordedResponse) : Json := .object [
  ("status", .ofNat r.status),
  ("headers", headersJson r.headers)]

def MatchRecord.toJson (m : MatchRecord) : Json := .object [
  ("endpoint_id", .str m.endpointId),
  ("timestamp", .str m.timestamp.text),
  ("request", m.request.toJson),
  ("actual_response", m.response.toJson)]

def MismatchRecord.toJson (m : MismatchRecord) : Json := .object [
  ("timestamp", .str m.timestamp.text),
  ("request", m.request.toJson),
  ("detail", .str m.detail)]

/-! ## Reading -/

/-- The fields of a record, of which only an object may leave out any. -/
def recordFields (names : List String) : Json → Option Members
  | .obj members => some members
  | .arr items => if items.length = names.length then some (Table.ofList (names.zip items)) else none
  | _ => none

def textField (fields : Members) (name : String) : Option String :=
  (Table.get? fields name).bind Json.asText?

/-- A text, or nothing where the field is null or missing. -/
def optionalTextField (fields : Members) (name : String) : Option (Option String) :=
  match Table.get? fields name with
  | none | some .null => some none
  | some v => v.asText?.map some

def headerTexts : List (String × Json) → Option (Table String)
  | [] => some []
  | (name, .str text) :: rest => (headerTexts rest).map ((name, text) :: ·)
  | _ :: _ => none

def headersField (fields : Members) : Option (Table String) :=
  match Table.get? fields "headers" with
  | some (.obj members) => headerTexts members
  | _ => none

def timeField (fields : Members) : Option Time.Instant :=
  (textField fields "timestamp").bind Time.Instant.read?

/-- A status fits sixteen bits. -/
def statusField (fields : Members) : Option Nat :=
  ((Table.get? fields "status").bind Json.asNat?).filter (Number.fits 16)

def RecordedRequest.ofJson? (j : Json) : Option RecordedRequest := do
  let fields ← recordFields ["method", "url", "host", "headers"] j
  return {
    method := ← textField fields "method"
    url := ← textField fields "url"
    host := ← optionalTextField fields "host"
    headers := ← headersField fields }

def RecordedResponse.ofJson? (j : Json) : Option RecordedResponse := do
  let fields ← recordFields ["status", "headers"] j
  return { status := ← statusField fields, headers := ← headersField fields }

def MatchRecord.ofJson? (j : Json) : Option MatchRecord := do
  let fields ← recordFields ["endpoint_id", "timestamp", "request", "actual_response"] j
  return {
    endpointId := ← textField fields "endpoint_id"
    timestamp := ← timeField fields
    request := ← (Table.get? fields "request").bind RecordedRequest.ofJson?
    response := ← (Table.get? fields "actual_response").bind RecordedResponse.ofJson? }

def MismatchRecord.ofJson? (j : Json) : Option MismatchRecord := do
  let fields ← recordFields ["timestamp", "request", "detail"] j
  return {
    timestamp := ← timeField fields
    request := ← (Table.get? fields "request").bind RecordedRequest.ofJson?
    detail := ← textField fields "detail" }

end History

end StubServer
