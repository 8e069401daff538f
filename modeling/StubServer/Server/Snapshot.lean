import StubServer.Endpoint.Response
import StubServer.Route.Match

/-! # Snapshots

Everything that a server takes from one configuration: its endpoints, their templates and its
settings.  A snapshot is built as a whole or not at all, and nothing changes it afterwards.
-/

namespace StubServer

structure Snapshot where
  registry : Registry
  templates : TemplateSet
  settings : Config.Settings
  /-- The header that names the endpoint in a response, in small letters. -/
  idHeader : String

namespace Snapshot

/-- Builds a snapshot.  The counter of generated ids comes back also from a build that failed. -/
def build (files : Files) (counter : Nat) (config : Config) : Nat × Except LoadError Snapshot :=
  match Http.headerName? config.settings.endpointIdHeader with
  | none => (counter, .error (.invalidIdHeader config.settings.endpointIdHeader))
  | some idHeader =>
    match Endpoint.load counter config with
    | (counter, .error e) => (counter, .error e)
    | (counter, .ok endpoints) =>
      let set := TemplateSet.empty (endpoints.map (·.id)) config.settings.bodyFilesDir
      match set.compileAll files endpoints with
      | .error e => (counter, .error e)
      | .ok templates => (counter, .ok ⟨.ofList endpoints, templates, config.settings, idHeader⟩)

/-- The headers that a response has before any are rendered: the id of the endpoint, if a header
can hold it. -/
def baseHeaders (s : Snapshot) (id : String) : Http.Headers :=
  if Http.isHeaderValue id then [(s.idHeader, id)] else []

/-- The response to a request that has been matched. -/
def respond (s : Snapshot) (now : Time.Instant) (request : Http.Request) (matched : Route.Matched)
    (resources : Resources) : Http.Response × Resources :=
  let id := matched.endpoint.id
  let data := (RequestData.ofRequest request matched.params).toJson
  let (outcome, resources) := (s.templates.render now data id).run resources
  (.ofRendering (s.baseHeaders id) id outcome, resources)

end Snapshot

end StubServer
