import StubServer.Proofs.History.Timestamps
import StubServer.Proofs.Server.AdminPaths
import StubServer.Proofs.Server.Interference

/-! # Serving in two steps

A message can be served at once, or be captured and matched in one step and responded to in another
(`serveInSteps`).  Off the admin paths both come to the same (`handle_in_steps`): they give one
response and leave the same documents and the same history, its times apart.  Recording is what the
two steps do at times of their own, and the times are all in which the records differ.
-/

namespace StubServer

namespace Server

/-! ## The same but for times -/

/-- The servers differ in the times of their records and in the source of drawn numbers at most. -/
structure SameButTimes (a b : Server) : Prop extends SameService a b where
  history : a.history.undated = b.history.undated

theorem undated_recordMatch (s : Server) (now : Time.Instant) (id : String) (request : Http.Request)
    (response : Http.Response) :
    (s.recordMatch now id request response).history.undated =
      match s.history.undated.recordMatch ⟨0, 0⟩ id request (.ofResponse response) with
      | .ok (history, _) => history
      | .error _ => s.history.undated := by
  have undated := s.history.undated_recordMatch now id request (.ofResponse response)
  unfold recordMatch
  generalize s.history.undated.recordMatch ⟨0, 0⟩ id request (.ofResponse response) = outcome
    at undated
  cases recorded : s.history.recordMatch now id request (.ofResponse response) with
  | error e =>
    rw [recorded] at undated
    cases outcome with
    | error e' => rfl
    | ok kept => cases undated
  | ok kept =>
    rw [recorded] at undated
    cases outcome with
    | error e => cases undated
    | ok kept' => exact Except.ok.inj undated

theorem undated_recordMismatch (s : Server) (now : Time.Instant) (request : Http.Request)
    (cause : Route.Mismatch) :
    (s.recordMismatch now request cause).history.undated =
      match s.history.undated.recordMismatch ⟨0, 0⟩ request cause with
      | .ok history => history
      | .error _ => s.history.undated := by
  rw [← s.history.undated_recordMismatch now, recordMismatch]
  cases s.history.recordMismatch now request cause <;> rfl

section Steps

variable {a b : Server} (alike : a.SameButTimes b) (now now' : Time.Instant)

include alike

theorem SameButTimes.recordMatch (id : String) (request : Http.Request) (response : Http.Response) :
    (a.recordMatch now id request response).SameButTimes
      (b.recordMatch now' id request response) where
  toSameService := alike.toSameService.recordMatch now now' id request response
  history := by rw [undated_recordMatch, undated_recordMatch, alike.history]

theorem SameButTimes.recordMismatch (request : Http.Request) (cause : Route.Mismatch) :
    (a.recordMismatch now request cause).SameButTimes (b.recordMismatch now' request cause) where
  toSameService := alike.toSameService.recordMismatch now now' request cause
  history := by rw [undated_recordMismatch, undated_recordMismatch, alike.history]

theorem SameButTimes.respond (request : Http.Request) {pending : PendingMatch}
    (steady : pending.snapshot.templates.SteadyFor pending.matched.endpoint.id) :
    (a.respond now request pending).2 = (b.respond now' request pending).2 ∧
      (a.respond now request pending).1.SameButTimes (b.respond now' request pending).1 := by
  obtain ⟨responses, rendered⟩ := alike.toSameService.render now now' request steady
  have same : SameButTimes
      { a with resources := (pending.snapshot.respond now request pending.matched a.resources).2 }
      { b with resources := (pending.snapshot.respond now' request pending.matched b.resources).2 } :=
    ⟨rendered, alike.history⟩
  unfold Server.respond
  dsimp only
  rw [responses]
  exact ⟨rfl, same.recordMatch now now' _ request _⟩

end Steps

/-! ## Two steps -/

/-- Serves a message in two steps: it is captured and matched, and then responded to, or refused with
the cause in the body. -/
def serveInSteps (s : Server) (matching responding : Time.Instant) (message : Http.Message) :
    Server × Http.Response :=
  let request := Http.Request.capture message
  match s.matchRequest matching request with
  | (s, .ok pending) => s.respond responding request pending
  | (s, .error cause) =>
    (s, .json 404 (.object [("error", .str "not_found"), ("message", .str cause.text)]))

theorem serveInSteps_of_found {s : Server} {message : Http.Message} {matched : Route.Matched}
    (found : s.snapshot.registry.findMatch (.capture message) = .ok matched)
    (matching responding : Time.Instant) :
    s.serveInSteps matching responding message =
      s.respond responding (.capture message) ⟨s.snapshot, matched⟩ := by
  simp only [serveInSteps, matchRequest, found]

theorem serveInSteps_of_lost {s : Server} {message : Http.Message} {cause : Route.Mismatch}
    (lost : s.snapshot.registry.findMatch (.capture message) = .error cause)
    (matching responding : Time.Instant) :
    s.serveInSteps matching responding message =
      (s.recordMismatch matching (.capture message) cause, notFound cause) := by
  simp only [serveInSteps, matchRequest, lost]
  rfl

/-- Off the admin paths, serving a message at once is serving it in two steps at one moment.  Where
the templates of the endpoint that it is matched to are steady, the steps may be taken at any moments
and with any source of drawn numbers: of servers that are the same but for the times of their records,
one may serve at once and the other in two steps, and they give the same response and stay the same.
-/
theorem handle_in_steps {s : Server} {message : Http.Message}
    (notAdmin : ¬ Admin.IsAdminPath s.snapshot.settings.adminPrefix message.target.path) :
    (∀ now, s.handle now message = s.serveInSteps now now message) ∧
    ((∀ matched, s.snapshot.registry.findMatch (.capture message) = .ok matched →
        s.snapshot.templates.SteadyFor matched.endpoint.id) →
      ∀ other : Server, s.SameButTimes other → ∀ now matching responding,
        (s.handle now message).2 = (other.serveInSteps matching responding message).2 ∧
        (s.handle now message).1.SameButTimes (other.serveInSteps matching responding message).1) := by
  have notBelow : s.below? message = none := Admin.below?_eq_none_iff.2 notAdmin
  unfold handle
  cases outcome : s.snapshot.registry.findMatch (.capture message) with
  | ok matched =>
    simp only [receive_of_found notBelow outcome]
    refine ⟨fun now => (serveInSteps_of_found outcome now now).symm, ?_⟩
    intro steady other alike now matching responding
    rw [serveInSteps_of_found (alike.snapshot ▸ outcome), ← alike.snapshot]
    exact alike.respond now responding _ (steady matched rfl)
  | error cause =>
    simp only [receive_of_lost notBelow outcome]
    refine ⟨fun now => (serveInSteps_of_lost outcome now now).symm, ?_⟩
    intro _ other alike now matching responding
    rw [serveInSteps_of_lost (alike.snapshot ▸ outcome)]
    exact ⟨rfl, alike.recordMismatch now matching _ cause⟩

/-- A page that is served at once and another time in two steps, far later and with other drawn
numbers. -/
theorem handle_in_steps_page :
    let message : Http.Message := ⟨"GET", .ofText "/?q", [], none⟩
    let other : Server := { pageServer with resources := ⟨.empty, 7⟩ }
    (pageServer.handle ⟨0, 0⟩ message).2 = (other.serveInSteps ⟨5, 0⟩ ⟨9, 0⟩ message).2 ∧
      (pageServer.handle ⟨0, 0⟩ message).1.SameButTimes (other.serveInSteps ⟨5, 0⟩ ⟨9, 0⟩ message).1 := by
  intro message other
  have path_eq : message.target.path = "/" := by decide
  have start_eq : pageServer.snapshot.settings.adminPrefix = "/__admin" := rfl
  have notAdmin : ¬ Admin.IsAdminPath pageServer.snapshot.settings.adminPrefix message.target.path := by
    rw [path_eq, start_eq]
    decide
  obtain ⟨_, inSteps⟩ := handle_in_steps notAdmin
  exact inSteps (fun _ _ => Traffic.steadyFor_page "a" "id" "200") other ⟨⟨rfl, rfl, rfl⟩, rfl⟩ _ _ _

end Server

end StubServer
