import StubServer.Admin
import StubServer.Server.Snapshot

/-! # Servers

A server answers requests from the snapshot in force.  Matching a request and responding to it are
two steps: a match keeps the snapshot that it was made against, whatever is loaded in between.
Every match that is responded to and every mismatch is recorded; a record that cannot be written
is lost without a trace in the answer.
-/

namespace StubServer

structure Server where
  /-- The number of ids generated so far. -/
  counter : Nat
  snapshot : Snapshot
  history : History.Store
  resources : Resources

/-- A request that has been matched and waits for its response. -/
structure PendingMatch where
  snapshot : Snapshot
  matched : Route.Matched

namespace Server

/-! ## Configurations -/

def start (files : Files) (config : Config) (history : History.Store) (resources : Resources) :
    Except LoadError Server :=
  match Snapshot.build files 0 config with
  | (_, .error e) => .error e
  | (counter, .ok snapshot) => .ok ⟨counter, snapshot, history, resources⟩

def historyOptions (s : Config.Settings) : History.Options :=
  ⟨s.matchesCountOnly, s.mismatchesCountOnly, s.maxMatchesPerEndpoint, s.maxMismatches⟩

/-- A server with the history that its configuration asks for and without documents. -/
def ofConfig (files : Files) (config : Config) (chance : Nat) : Except LoadError Server :=
  start files config (.ofOptions (historyOptions config.settings)) ⟨.empty, chance⟩

/-- Serves another configuration, if a snapshot can be built of it. -/
def reload (s : Server) (files : Files) (config : Config) : Server × Except LoadError Unit :=
  match Snapshot.build files s.counter config with
  | (counter, .error e) => ({ s with counter := counter }, .error e)
  | (counter, .ok snapshot) => ({ s with counter := counter, snapshot := snapshot }, .ok ())

def endpointIds (s : Server) : List String := s.snapshot.registry.ids

/-! ## Requests -/

def recordMatch (s : Server) (now : Time.Instant) (id : String) (request : Http.Request)
    (response : Http.Response) : Server :=
  match s.history.recordMatch now id request (.ofResponse response) with
  | .ok (history, _) => { s with history := history }
  | .error _ => s

def recordMismatch (s : Server) (now : Time.Instant) (request : Http.Request)
    (cause : Route.Mismatch) : Server :=
  match s.history.recordMismatch now request cause with
  | .ok history => { s with history := history }
  | .error _ => s

def matchRequest (s : Server) (now : Time.Instant) (request : Http.Request) :
    Server × Except Route.Mismatch PendingMatch :=
  match s.snapshot.registry.findMatch request with
  | .ok matched => (s, .ok ⟨s.snapshot, matched⟩)
  | .error cause => (s.recordMismatch now request cause, .error cause)

def respond (s : Server) (now : Time.Instant) (request : Http.Request) (pending : PendingMatch) :
    Server × Http.Response :=
  let (response, resources) :=
    pending.snapshot.respond now request pending.matched s.resources
  let s := { s with resources := resources }
  (s.recordMatch now pending.matched.endpoint.id request response, response)

def notFound (cause : Route.Mismatch) : Http.Response :=
  .json 404 (.object [("error", .str "not_found"), ("message", .str cause.text)])

/-- What becomes of a message once it has been looked at. -/
inductive Reception where
  | admin (response : Http.Response)
  | unmatched (cause : Route.Mismatch)
  | matched (request : Http.Request) (pending : PendingMatch)

/-- Answers a message on an admin route if it is one, else matches it. -/
def receive (s : Server) (now : Time.Instant) (message : Http.Message) : Server × Reception :=
  match Admin.respond? s.snapshot.settings.adminPrefix message.method message.target.path
      s.endpointIds s.history with
  | some (response, history) => ({ s with history := history }, .admin response)
  | none =>
    let request := Http.Request.capture message
    match s.matchRequest now request with
    | (s, .ok pending) => (s, .matched request pending)
    | (s, .error cause) => (s, .unmatched cause)

/-- Answers a message: on an admin route if it is one, else from the endpoints. -/
def handle (s : Server) (now : Time.Instant) (message : Http.Message) : Server × Http.Response :=
  match s.receive now message with
  | (s, .admin response) => (s, response)
  | (s, .unmatched cause) => (s, notFound cause)
  | (s, .matched request pending) => s.respond now request pending

end Server

end StubServer
