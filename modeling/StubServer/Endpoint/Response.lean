import StubServer.Endpoint.Templates
import StubServer.Http.Response

/-! # The response of an endpoint

What has been rendered is laid on top of the headers that are there already.  Names and values
that no header can have are found out here and count as a failure to render the headers.  A
failure becomes a plain text with status 500.
-/

namespace StubServer

namespace Rendered

/-- Adds rendered headers behind those that are there. -/
def appendHeaders (id : String) (base : Http.Headers) :
    List (String × String) → Except RenderError Http.Headers
  | [] => .ok base
  | (name, value) :: rest =>
    match Http.headerName? name with
    | none => .error ⟨id, .headers, .invalidName name⟩
    | some lower =>
      if Http.isHeaderValue value then appendHeaders id (base.append lower value) rest
      else .error ⟨id, .headers, .invalidValue lower⟩

def toResponse (r : Rendered) (id : String) (base : Http.Headers) :
    Except RenderError Http.Response :=
  (appendHeaders id base r.headers).map fun headers => ⟨r.status, headers, r.body⟩

end Rendered

def RenderError.toResponse (e : RenderError) (base : Http.Headers) : Http.Response :=
  .text 500 base e.message

/-- The response to send for the outcome of rendering an endpoint. -/
def Http.Response.ofRendering (base : Headers) (id : String)
    (outcome : Except RenderError Rendered) : Http.Response :=
  match outcome.bind fun r => r.toResponse id base with
  | .ok response => response
  | .error e => e.toResponse base

end StubServer
