import StubServer.Config.Basic
import StubServer.Json.Basic

/-! # Writing a configuration

The document of a configuration in JSON: every field is present, and what is not given is null.
-/

namespace StubServer.Config

def textOrNull : Option String → Json
  | some s => .str s
  | none => .null

def tableJson (t : Table String) : Json := .obj (t.map fun (k, v) => (k, .str v))

def RequestDefinition.toJson (r : RequestDefinition) : Json := .object [
  ("scheme", textOrNull r.scheme),
  ("host", textOrNull r.host),
  ("method", .str r.method),
  ("path", .str r.path),
  ("query", tableJson r.query),
  ("headers", tableJson r.headers),
  ("body", textOrNull r.body)]

def ResponseDefinition.toJson (r : ResponseDefinition) : Json := .object [
  ("status", .str r.status),
  ("headers", textOrNull r.headers),
  ("body", textOrNull r.body),
  ("body_file", textOrNull r.bodyFile)]

def EndpointDefinition.toJson (e : EndpointDefinition) : Json := .object [
  ("id", textOrNull e.id),
  ("priority", .ofInt e.priority),
  ("request", e.request.toJson),
  ("response", e.response.toJson)]

def MockDefinition.toJson (m : MockDefinition) : Json := .object [
  ("name", .str m.name),
  ("endpoints", .arr (m.endpoints.map EndpointDefinition.toJson))]

def Settings.toJson (s : Settings) : Json := .object [
  ("listen", .str s.listen.write),
  ("body_files_dir", textOrNull s.bodyFilesDir),
  ("matches_count_only", .bool s.matchesCountOnly),
  ("mismatches_count_only", .bool s.mismatchesCountOnly),
  ("max_matches_per_endpoint", .ofNat s.maxMatchesPerEndpoint),
  ("max_mismatches", .ofNat s.maxMismatches),
  ("endpoint_id_header", .str s.endpointIdHeader),
  ("admin_prefix", .str s.adminPrefix),
  ("log_matches", .bool s.logMatches),
  ("log_mismatches", .bool s.logMismatches)]

def toJson (c : Config) : Json := .object [
  ("settings", c.settings.toJson),
  ("mock_files", .texts c.mockFiles),
  ("mocks", .arr (c.mocks.map MockDefinition.toJson))]

end StubServer.Config
