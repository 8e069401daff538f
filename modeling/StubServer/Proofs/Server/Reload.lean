import Mathlib
import StubServer.Proofs.Endpoint.Compilation
import StubServer.Proofs.Server.Traffic

/-! # Reloading

A snapshot comes from one configuration as a whole (`Snapshot.BuiltFrom`).  In any run the snapshot in
force is the one of the last configuration that could be built (`build_after`), and all that a server
says about its endpoints comes from there (`snapshot_after`); a reload leaves documents, history and
waiting requests alone, and one that fails changes nothing but the counter of generated ids.
-/

namespace StubServer

/-- What a snapshot is built from. -/
structure Source where
  files : Files
  config : Config
  /-- The number of ids generated before. -/
  counter : Nat

def Source.build (source : Source) : Except LoadError Snapshot :=
  (Snapshot.build source.files source.counter source.config).2

/-! ## One snapshot, one configuration -/

namespace Snapshot

/-- All parts of a snapshot come from the same endpoints of the same configuration. -/
structure BuiltFrom (s : Snapshot) (source : Source) (endpoints : List Endpoint) : Prop where
  loaded : (Endpoint.load source.counter source.config).2 = .ok endpoints
  registry : s.registry = .ofList endpoints
  templates : (TemplateSet.empty (endpoints.map (·.id)) source.config.settings.bodyFilesDir).compileAll
    source.files endpoints = .ok s.templates
  settings : s.settings = source.config.settings
  idHeader : Http.headerName? source.config.settings.endpointIdHeader = some s.idHeader

theorem builtFrom_of_build {source : Source} {s : Snapshot} (built : source.build = .ok s) :
    ∃ endpoints, s.BuiltFrom source endpoints := by
  simp only [Source.build, build] at built
  split at built
  · cases built
  · next idHeader isHeader =>
    split at built
    · cases built
    · next counter endpoints loaded =>
      split at built
      · cases built
      · next templates compiled =>
        cases built
        exact ⟨endpoints, by rw [loaded], rfl, compiled, rfl, isHeader⟩

theorem BuiltFrom.ids {s : Snapshot} {source : Source} {endpoints : List Endpoint}
    (built : s.BuiltFrom source endpoints) : s.registry.ids = endpoints.map (·.id) := by
  rw [built.registry]
  rfl

theorem BuiltFrom.templateIds {s : Snapshot} {source : Source} {endpoints : List Endpoint}
    (built : s.BuiltFrom source endpoints) : s.templates.endpointIds = endpoints.map (·.id) :=
  (TemplateSet.sameBesides_compileAll built.templates).endpointIds

end Snapshot

namespace Server

theorem start_eq_ok {files : Files} {config : Config} {history : History.Store} {resources : Resources}
    {s : Server} (started : start files config history resources = .ok s) :
    Source.build ⟨files, config, 0⟩ = .ok s.snapshot ∧ s.history = history ∧
      s.resources = resources := by
  unfold start at started
  split at started
  · cases started
  · next counter snapshot built =>
    cases started
    exact ⟨congrArg Prod.snd built, rfl, rfl⟩

/-- A reload either puts a whole snapshot in force, or fails and leaves the one that is. -/
theorem reload_cases (s : Server) (files : Files) (config : Config) :
    (∃ counter snapshot, Source.build ⟨files, config, s.counter⟩ = .ok snapshot ∧
      s.reload files config = ({ s with counter := counter, snapshot := snapshot }, .ok ())) ∨
    ∃ counter e, Source.build ⟨files, config, s.counter⟩ = .error e ∧
      s.reload files config = ({ s with counter := counter }, .error e) := by
  unfold reload Source.build
  rcases Snapshot.build files s.counter config with ⟨counter, e | snapshot⟩
  · exact .inr ⟨counter, e, rfl, rfl⟩
  · exact .inl ⟨counter, snapshot, rfl, rfl⟩

theorem snapshot_recordMatch (s : Server) (now : Time.Instant) (id : String) (request : Http.Request)
    (response : Http.Response) : (s.recordMatch now id request response).snapshot = s.snapshot := by
  unfold recordMatch
  split <;> rfl

theorem snapshot_recordMismatch (s : Server) (now : Time.Instant) (request : Http.Request)
    (cause : Route.Mismatch) : (s.recordMismatch now request cause).snapshot = s.snapshot := by
  unfold recordMismatch
  split <;> rfl

theorem snapshot_respond (s : Server) (now : Time.Instant) (request : Http.Request)
    (pending : PendingMatch) : (s.respond now request pending).1.snapshot = s.snapshot :=
  snapshot_recordMatch ..

/-- The server shows these endpoints, to its owner, on the admin route and to templates. -/
structure Lists (s : Server) (ids : List String) : Prop where
  endpointIds : s.endpointIds = ids
  admin : ∀ now message, s.below? message = some ["endpoints"] → message.method = "GET" →
    (s.handle now message).2 = .json 200 (.texts ids)
  helper : ∀ env : Template.Environment, env.endpointIds = s.snapshot.templates.endpointIds →
    ∀ args, Template.Helper.endpointIds.call env args = pure (.value (.texts ids))

theorem lists_of_builtFrom {s : Server} {source : Source} {endpoints : List Endpoint}
    (built : s.snapshot.BuiltFrom source endpoints) : s.Lists (endpoints.map (·.id)) where
  endpointIds := built.ids
  admin now message isBelow isGet := by
    rw [handle, receive_of_below isBelow, isGet]
    exact congrArg (fun ids => Http.Response.json 200 (.texts ids)) built.ids
  helper env sameIds args := by
    rw [← built.templateIds, ← sameIds]
    rfl

end Server

/-! ## A server of one page -/

def noFiles : Files := ⟨fun _ => .error .notFound⟩

/-- One endpoint at the root, the header that names it, and the status of its response. -/
def onePage (id header status : String) : Config where
  settings := { Config.Settings.default with endpointIdHeader := header }
  mockFiles := []
  mocks := [⟨"pages", [⟨some id, 0, ⟨none, none, "GET", "/", [], [], none⟩,
    ⟨status, none, none, none⟩⟩]⟩]

def page (id status : String) : Endpoint :=
  ⟨id, 0, "pages", ⟨none, none, "GET", "/", ⟨[], by simp⟩, [], [], none⟩, ⟨status, none, none, none⟩⟩

def pageSnapshot (id header status : String) : Snapshot where
  registry := .ofList [page id status]
  templates := ⟨[(id ++ "#status", .mk (some (id ++ "#status")) [(none, .text status)])], [id], none⟩
  settings := (onePage id header status).settings
  idHeader := header

def pageServer : Server := ⟨0, pageSnapshot "a" "id" "200", .ofOptions .default, ⟨.empty, 0⟩⟩

/-! ## Runs -/

namespace Traffic

/-- What the snapshot in force has been built from after a step, if it was `source` before. -/
def sourceAfterStep (t : Traffic) (source : Source) (e : Event) : Source :=
  match e.action with
  | .reload files config =>
    match Source.build ⟨files, config, t.server.counter⟩ with
    | .ok _ => ⟨files, config, t.server.counter⟩
    | .error _ => source
  | _ => source

section Reloads

variable {t : Traffic} {source : Source} {now : Time.Instant} {files : Files} {config : Config}

theorem sourceAfterStep_of_built {snapshot : Snapshot}
    (built : Source.build ⟨files, config, t.server.counter⟩ = .ok snapshot) :
    t.sourceAfterStep source ⟨now, .reload files config⟩ = ⟨files, config, t.server.counter⟩ := by
  simp only [sourceAfterStep, built]

theorem sourceAfterStep_of_failed {cause : LoadError}
    (failed : Source.build ⟨files, config, t.server.counter⟩ = .error cause) :
    t.sourceAfterStep source ⟨now, .reload files config⟩ = source := by
  simp only [sourceAfterStep, failed]

end Reloads

/-- The last source in a run that could be built; `source` if there was none. -/
def lastBuilt (t : Traffic) (source : Source) : List Event → Source
  | [] => source
  | e :: rest => (t.next e).lastBuilt (t.sourceAfterStep source e) rest

/-- Only a reload changes the snapshot. -/
theorem Moves.snapshot_eq {t t' : Traffic} {e : Event} {o : Observation} (moves : Moves t e t' o)
    (notReload : ∀ files config, e.action ≠ .reload files config) :
    t'.server.snapshot = t.server.snapshot := by
  cases moves with
  | admin => rfl
  | unmatched => exact Server.snapshot_recordMismatch ..
  | held => rfl
  | served => exact Server.snapshot_respond ..
  | servedAtOnce => exact Server.snapshot_respond ..
  | reloaded isReload => exact absurd isReload (notReload _ _)
  | nothing => rfl

/-- The invariant of a run: the snapshot in force is what its source builds. -/
theorem build_next {t : Traffic} {source : Source} (inForce : source.build = .ok t.server.snapshot)
    (e : Event) : (t.sourceAfterStep source e).build = .ok (t.next e).server.snapshot := by
  obtain ⟨now, action⟩ := e
  cases action with
  | reload files config =>
    -- the source changes exactly when the snapshot does
    rcases t.server.reload_cases files config with ⟨counter, snapshot, built, reloaded⟩ |
      ⟨counter, cause, failed, reloaded⟩
    · simp only [sourceAfterStep_of_built built, built, next, step, reloaded]
    · simp only [sourceAfterStep_of_failed failed, next, step, reloaded, inForce]
  | _ =>
    rw [(moves_step t _).snapshot_eq (by simp)]
    exact inForce

theorem build_after {t : Traffic} {source : Source} (inForce : source.build = .ok t.server.snapshot)
    (events : List Event) :
    (t.lastBuilt source events).build = .ok (t.after events).server.snapshot := by
  induction events generalizing t source with
  | nil => exact inForce
  | cons e rest ih => exact ih (build_next inForce e)

/-- At any time in any run, all of the snapshot in force comes from the last configuration that could
be built, and so does every list of endpoints.  A reload then leaves documents, history and waiting
requests as they are; it answers with what building came to, and if this failed, the counter of
generated ids is all that may have changed. -/
theorem snapshot_after {files : Files} {config : Config} {history : History.Store}
    {resources : Resources} {server : Server}
    (started : Server.start files config history resources = .ok server) (events : List Event) :
    let t := (ofServer server).after events
    let source := (ofServer server).lastBuilt ⟨files, config, 0⟩ events
    (∃ endpoints, t.server.snapshot.BuiltFrom source endpoints ∧
      t.server.Lists (endpoints.map (·.id))) ∧
    ∀ now files config,
      let reload : Event := ⟨now, .reload files config⟩
      let t' := t.next reload
      (t'.server.resources = t.server.resources ∧ t'.server.history = t.server.history ∧
        t'.waiting = t.waiting) ∧
      (∀ snapshot, Source.build ⟨files, config, t.server.counter⟩ = .ok snapshot →
        t.observe reload = .reloaded (.ok ())) ∧
      ∀ e, Source.build ⟨files, config, t.server.counter⟩ = .error e →
        t.observe reload = .reloaded (.error e) ∧
        t' = { t with server := { t.server with counter := t'.server.counter } } := by
  intro t source
  have built : source.build = .ok t.server.snapshot :=
    build_after (t := ofServer server) (Server.start_eq_ok started).1 events
  obtain ⟨endpoints, builtFrom⟩ := Snapshot.builtFrom_of_build built
  refine ⟨⟨endpoints, builtFrom, Server.lists_of_builtFrom builtFrom⟩, fun now files config => ?_⟩
  -- a reload that succeeds and one that fails both spell out what they have changed
  rcases t.server.reload_cases files config with ⟨counter, snapshot, built, reloaded⟩ |
    ⟨counter, cause, failed, reloaded⟩
  · simp only [next, observe, step, reloaded, built]
    simp
  · simp only [next, observe, step, reloaded, failed]
    simp

/-- Of two reloads the second fails for want of a name for the header; what the first has put in force
stays. -/
theorem snapshot_after_failure :
    let start := ofServer pageServer
    let events : List Event := [⟨⟨0, 0⟩, .reload noFiles (onePage "b" "x" "404")⟩,
      ⟨⟨1, 0⟩, .reload noFiles (onePage "c" "" "200")⟩]
    let server := (start.after events).server
    start.observed events = [.reloaded (.ok ()), .reloaded (.error (.invalidIdHeader ""))] ∧
      ∃ endpoints, server.snapshot.BuiltFrom ⟨noFiles, onePage "b" "x" "404", 0⟩ endpoints ∧
        server.Lists (endpoints.map (·.id)) := by
  intro start events server
  have started : Server.start noFiles (onePage "a" "id" "200") (.ofOptions .default) ⟨.empty, 0⟩ =
      .ok pageServer := by cbv
  have built : Source.build ⟨noFiles, onePage "b" "x" "404", 0⟩ = .ok (pageSnapshot "b" "x" "404") := by
    cbv
  have failed (counter : Nat) :
      Source.build ⟨noFiles, onePage "c" "" "200", counter⟩ = .error (.invalidIdHeader "") := by cbv
  have source : start.lastBuilt ⟨noFiles, onePage "a" "id" "200", 0⟩ events =
      ⟨noFiles, onePage "b" "x" "404", 0⟩ := by
    simp only [events, lastBuilt]
    rw [sourceAfterStep_of_failed (failed _)]
    exact sourceAfterStep_of_built built
  exact ⟨by cbv, source ▸ (snapshot_after started events).1⟩

end Traffic

end StubServer
