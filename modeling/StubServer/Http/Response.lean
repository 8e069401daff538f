import StubServer.Http.Header
import StubServer.Json.Printer

/-! # Responses -/

namespace StubServer.Http

structure Response where
  status : Nat
  headers : Headers
  body : String
  deriving DecidableEq, Repr

namespace Response

def json (status : Nat) (value : Json) : Response :=
  ⟨status, [("content-type", "application/json")], value.compact⟩

/-- Plain text on top of the headers given, of which another content type is dropped. -/
def text (status : Nat) (headers : Headers) (body : String) : Response :=
  ⟨status, headers.set "content-type" "text/plain; charset=utf-8", body⟩

/-- Every header name with its values, in order and joined by commas. -/
def flatHeaders (r : Response) : Table String :=
  Table.ofList (r.headers.names.map fun name => (name, ", ".intercalate (r.headers.values name)))

end Response

end StubServer.Http
