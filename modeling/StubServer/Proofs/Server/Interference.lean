import StubServer.Proofs.Server.Isolation

/-! # Recording does not show

Two servers that serve the same snapshot from the same documents answer alike, whatever the one or the
other keeps of its past, or fails to keep (`Server.SameService`).  Recording is the only thing that
looks at the history, and it changes nothing else (`recordMatch_eq`, `recordMismatch_eq`); so every
step has the same outcome on both and leaves them alike, and so does every run
(`observed_of_sameService`).
-/

namespace StubServer

/-- No template of the snapshot uses the time or drawn numbers. -/
def Snapshot.Steady (s : Snapshot) : Prop := ∀ id, s.templates.SteadyFor id

namespace Server

/-- The servers differ in their histories and in the source of drawn numbers at most. -/
structure SameService (a b : Server) : Prop where
  counter : a.counter = b.counter
  snapshot : a.snapshot = b.snapshot
  documents : a.resources.store = b.resources.store

/-- Two steps have one outcome, and leave servers of the same service. -/
def SameOutcome {α : Type} (x y : Server × α) : Prop :=
  ∃ s s' outcome, x = (s, outcome) ∧ y = (s', outcome) ∧ s.SameService s'

theorem SameOutcome.snd_eq {α : Type} {x y : Server × α} (same : SameOutcome x y) : x.2 = y.2 := by
  obtain ⟨s, s', outcome, rfl, rfl, _⟩ := same
  rfl

/-! ## Recording -/

theorem recordMatch_eq (s : Server) (now : Time.Instant) (id : String) (request : Http.Request)
    (response : Http.Response) :
    ∃ history, s.recordMatch now id request response = { s with history := history } := by
  unfold recordMatch
  split
  · exact ⟨_, rfl⟩
  · exact ⟨s.history, rfl⟩

theorem recordMismatch_eq (s : Server) (now : Time.Instant) (request : Http.Request)
    (cause : Route.Mismatch) :
    ∃ history, s.recordMismatch now request cause = { s with history := history } := by
  unfold recordMismatch
  split
  · exact ⟨_, rfl⟩
  · exact ⟨s.history, rfl⟩

section Steps

variable {a b : Server} (alike : a.SameService b) (now now' : Time.Instant)

include alike

theorem SameService.recordMatch (id : String) (request : Http.Request) (response : Http.Response) :
    (a.recordMatch now id request response).SameService (b.recordMatch now' id request response) := by
  obtain ⟨history, recorded⟩ := a.recordMatch_eq now id request response
  obtain ⟨history', recorded'⟩ := b.recordMatch_eq now' id request response
  rw [recorded, recorded']
  exact ⟨alike.counter, alike.snapshot, alike.documents⟩

theorem SameService.recordMismatch (request : Http.Request) (cause : Route.Mismatch) :
    (a.recordMismatch now request cause).SameService (b.recordMismatch now' request cause) := by
  obtain ⟨history, recorded⟩ := a.recordMismatch_eq now request cause
  obtain ⟨history', recorded'⟩ := b.recordMismatch_eq now' request cause
  rw [recorded, recorded']
  exact ⟨alike.counter, alike.snapshot, alike.documents⟩

/-! ## Steps of a server -/

theorem SameService.matchRequest (request : Http.Request) :
    SameOutcome (a.matchRequest now request) (b.matchRequest now' request) := by
  unfold Server.matchRequest
  rw [alike.snapshot]
  cases b.snapshot.registry.findMatch request with
  | ok matched => exact ⟨_, _, _, rfl, rfl, alike⟩
  | error cause => exact ⟨_, _, _, rfl, rfl, alike.recordMismatch now now' request cause⟩

/-- Steady templates see of both servers nothing but the documents. -/
theorem SameService.render (request : Http.Request) {pending : PendingMatch}
    (steady : pending.snapshot.templates.SteadyFor pending.matched.endpoint.id) :
    let x := pending.snapshot.respond now request pending.matched a.resources
    let y := pending.snapshot.respond now' request pending.matched b.resources
    x.1 = y.1 ∧ SameService { a with resources := x.2 } { b with resources := y.2 } := by
  obtain ⟨responses, documents⟩ :=
    Snapshot.respond_steady steady now now' request a.resources.store a.resources.chance
      b.resources.chance
  have sameResources : (⟨a.resources.store, b.resources.chance⟩ : Resources) = b.resources := by
    rw [alike.documents]
  rw [sameResources] at responses documents
  exact ⟨responses, alike.counter, alike.snapshot, documents⟩

/-- The one step that renders, and then records. -/
theorem SameService.respond (request : Http.Request) {pending : PendingMatch}
    (steady : pending.snapshot.templates.SteadyFor pending.matched.endpoint.id) :
    SameOutcome (a.respond now request pending) (b.respond now' request pending) := by
  obtain ⟨responses, rendered⟩ := alike.render now now' request steady
  unfold Server.respond
  dsimp only
  rw [responses]
  exact ⟨_, _, _, rfl, rfl, rendered.recordMatch now now' _ request _⟩

theorem SameService.reload (files : Files) (config : Config) :
    SameOutcome (a.reload files config) (b.reload files config) := by
  unfold Server.reload
  rw [alike.counter]
  rcases Snapshot.build files b.counter config with ⟨counter, cause | snapshot⟩
  · exact ⟨_, _, _, rfl, rfl, rfl, alike.snapshot, alike.documents⟩
  · exact ⟨_, _, _, rfl, rfl, rfl, rfl, alike.documents⟩

theorem SameService.below? (message : Http.Message) : a.below? message = b.below? message := by
  rw [Server.below?, Server.below?, alike.snapshot]

theorem SameService.receive {message : Http.Message} (notAdmin : a.below? message = none) :
    SameOutcome (a.receive now message) (b.receive now' message) := by
  rw [receive_of_notBelow notAdmin, receive_of_notBelow (alike.below? message ▸ notAdmin)]
  obtain ⟨s, s', outcome, left, right, servers⟩ := alike.matchRequest now now' (.capture message)
  rw [left, right]
  cases outcome with
  | ok pending => exact ⟨_, _, _, rfl, rfl, servers⟩
  | error cause => exact ⟨_, _, _, rfl, rfl, servers⟩

theorem SameService.handle {message : Http.Message} (notAdmin : a.below? message = none)
    (steady : a.snapshot.Steady) :
    SameOutcome (a.handle now message) (b.handle now' message) := by
  obtain ⟨s, s', outcome, left, right, servers⟩ := alike.receive now now' notAdmin
  unfold Server.handle
  rw [left, right]
  cases matched : a.snapshot.registry.findMatch (.capture message) with
  | ok found =>
    -- what is responded to now has been matched against the steady snapshot in force
    cases (receive_of_found notAdmin matched).symm.trans left
    exact servers.respond now now' _ (steady _)
  | error cause =>
    cases (receive_of_lost notAdmin matched).symm.trans left
    exact ⟨_, _, _, rfl, rfl, servers⟩

end Steps

end Server

namespace Traffic

/-- The same requests wait at servers of the same service. -/
structure SameService (a b : Traffic) : Prop where
  server : a.server.SameService b.server
  waiting : a.waiting = b.waiting

/-- A step of a server with steady templates that is no request for an admin route. -/
structure Ordinary (t : Traffic) (e : Event) : Prop where
  steady : t.server.snapshot.Steady
  notAdmin : ∀ message, e.action.message? = some message → t.server.below? message = none

/-- All steps of a run are ordinary. -/
def OrdinaryRun : Traffic → List Event → Prop
  | _, [] => True
  | t, e :: rest => t.Ordinary e ∧ (t.next e).OrdinaryRun rest

/-- What waits has been matched to endpoints with steady templates. -/
def WaitsSteady (t : Traffic) : Prop := ∀ w, some w ∈ t.waiting → w.pending.snapshot.Steady

/-! ## Steps -/

theorem WaitsSteady.of_waitingAt {t : Traffic} (waits : t.WaitsSteady) {place : Nat} {w : Waiting}
    (here : t.waitingAt place = some w) : w.pending.snapshot.Steady := by
  unfold waitingAt at here
  exact waits w (List.mem_of_getElem? (Option.join_eq_some_iff.1 here))

theorem WaitsSteady.next {t : Traffic} (waits : t.WaitsSteady) {e : Event}
    (steady : t.server.snapshot.Steady) : (t.next e).WaitsSteady := by
  have moves := moves_step t e
  generalize t.next e = t' at moves
  generalize t.observe e = o at moves
  intro w inList
  cases moves with
  | held =>
    rcases List.mem_append.1 inList with before | isNew
    · exact waits w before
    · cases Option.some.inj (List.mem_singleton.1 isNew)
      exact steady
  | served =>
    rcases List.mem_or_eq_of_mem_set inList with before | isNone
    · exact waits w before
    · cases isNone
  | _ => exact waits w inList

/-- While nothing is reloaded, the snapshot says whether a run is ordinary. -/
theorem ordinaryRun_of_noReload {t : Traffic} {events : List Event}
    (steady : t.server.snapshot.Steady)
    (noReload : ∀ e ∈ events, ∀ files config, e.action ≠ .reload files config)
    (notAdmin : ∀ e ∈ events, ∀ message, e.action.message? = some message →
      t.server.below? message = none) : t.OrdinaryRun events := by
  induction events generalizing t with
  | nil => trivial
  | cons e rest ih =>
    obtain ⟨notReload, noneLater⟩ := List.forall_mem_cons.1 noReload
    obtain ⟨first, later⟩ := List.forall_mem_cons.1 notAdmin
    have snapshot_eq := (moves_step t e).snapshot_eq notReload
    refine ⟨⟨steady, first⟩, ih (snapshot_eq ▸ steady) noneLater ?_⟩
    simpa only [Server.below?, snapshot_eq] using later

section Steps

variable {a b : Traffic} (alike : a.SameService b)

include alike

theorem SameService.hold {s s' : Server} (servers : s.SameService s') (w : Waiting) :
    (a.hold s w).1.SameService (b.hold s' w).1 ∧ (a.hold s w).2 = (b.hold s' w).2 := by
  unfold Traffic.hold
  rw [alike.waiting]
  exact ⟨⟨servers, rfl⟩, rfl⟩

theorem SameService.answer (now now' : Time.Instant) (place : Nat) (request : Http.Request)
    {pending : PendingMatch} (steady : pending.snapshot.Steady) :
    (a.answer now place request pending).1.SameService (b.answer now' place request pending).1 ∧
      (a.answer now place request pending).2 = (b.answer now' place request pending).2 := by
  obtain ⟨s, s', response, left, right, servers⟩ := alike.server.respond now now' request (steady _)
  unfold Traffic.answer
  rw [left, right, alike.waiting]
  exact ⟨⟨servers, rfl⟩, rfl⟩

/-- An ordinary step leaves traffic of the same service, and shows the same. -/
theorem SameService.step (waits : a.WaitsSteady) {e e' : Event} (same : e.action = e'.action)
    (ordinary : a.Ordinary e) :
    (a.next e).SameService (b.next e') ∧ a.observe e = b.observe e' := by
  obtain ⟨now, action⟩ := e
  obtain ⟨now', action'⟩ := e'
  cases same
  unfold Traffic.next Traffic.observe Traffic.step
  have places (place : Nat) : b.waitingAt place = a.waitingAt place := by
    rw [waitingAt, waitingAt, alike.waiting]
  cases action with
  | matchRequest request =>
    obtain ⟨s, s', outcome, left, right, servers⟩ := alike.server.matchRequest now now' request
    dsimp only
    rw [left, right]
    cases outcome with
    | ok pending => exact alike.hold servers _
    | error cause => exact ⟨⟨servers, alike.waiting⟩, rfl⟩
  | respond place request =>
    dsimp only
    rw [places]
    cases here : a.waitingAt place with
    | some w => exact alike.answer now now' place request (waits.of_waitingAt here)
    | none => exact ⟨alike, rfl⟩
  | handle message =>
    have notAdmin := ordinary.notAdmin message rfl
    obtain ⟨s, s', response, left, right, servers⟩ :=
      alike.server.handle now now' notAdmin ordinary.steady
    have receptions := (alike.server.receive now now' notAdmin).snd_eq
    dsimp only
    rw [left, right, ← receptions]
    cases (a.server.receive now message).2 with
    | admin answer =>
      rw [seenAdmin, seenAdmin, alike.server.below?]
      exact ⟨⟨servers, alike.waiting⟩, rfl⟩
    | unmatched cause => exact ⟨⟨servers, alike.waiting⟩, rfl⟩
    | matched request pending => exact ⟨⟨servers, alike.waiting⟩, rfl⟩
  | receive message =>
    obtain ⟨s, s', outcome, left, right, servers⟩ :=
      alike.server.receive now now' (ordinary.notAdmin message rfl)
    dsimp only
    rw [left, right]
    cases outcome with
    | admin answer =>
      dsimp only
      rw [seenAdmin, seenAdmin, alike.server.below?]
      exact ⟨⟨servers, alike.waiting⟩, rfl⟩
    | unmatched cause => exact ⟨⟨servers, alike.waiting⟩, rfl⟩
    | matched request pending => exact alike.hold servers _
  | finish place =>
    dsimp only
    rw [places]
    cases here : a.waitingAt place with
    | some w => exact alike.answer now now' place w.request (waits.of_waitingAt here)
    | none => exact ⟨alike, rfl⟩
  | reload files config =>
    obtain ⟨s, s', outcome, left, right, servers⟩ := alike.server.reload files config
    dsimp only
    rw [left, right]
    exact ⟨⟨servers, alike.waiting⟩, rfl⟩

end Steps

/-! ## Runs -/

theorem SameService.after {a b : Traffic} (alike : a.SameService b) (waits : a.WaitsSteady)
    {events events' : List Event}
    (sameActions : events.map (·.action) = events'.map (·.action)) (ordinary : a.OrdinaryRun events) :
    (a.after events).SameService (b.after events') ∧ a.observed events = b.observed events' := by
  induction events generalizing a b events' with
  | nil =>
    cases List.map_eq_nil_iff.1 sameActions.symm
    exact ⟨alike, rfl⟩
  | cons e rest ih =>
    obtain ⟨e', rest', rfl, sameFirst, sameRest⟩ := List.map_eq_cons_iff.1 sameActions.symm
    obtain ⟨next, shown⟩ := alike.step waits sameFirst.symm ordinary.1
    obtain ⟨last, shownLater⟩ := ih next (waits.next ordinary.1.steady) sameRest.symm ordinary.2
    exact ⟨last, by rw [observed, observed, shown, shownLater]⟩

/-- Two servers of the same service show the same in every run without admin requests whose templates
are steady, whatever their histories hold or fail to hold and at whatever time the steps are taken.
Behind the run they have the same documents, and give the same response to every further message. -/
theorem observed_of_sameService {a b : Server} (alike : a.SameService b) {events events' : List Event}
    (sameActions : events.map (·.action) = events'.map (·.action))
    (ordinary : (ofServer a).OrdinaryRun events) :
    let last := (ofServer a).after events
    let last' := (ofServer b).after events'
    (ofServer a).observed events = (ofServer b).observed events' ∧ last.SameService last' ∧
      ∀ now now' message, last.Ordinary ⟨now, .handle message⟩ →
        (last.server.handle now message).2 = (last'.server.handle now' message).2 := by
  intro last last'
  have noneWaits : (ofServer a).WaitsSteady := fun w inList => by cases inList
  obtain ⟨same, shown⟩ :=
    SameService.after (a := ofServer a) (b := ofServer b) ⟨alike, rfl⟩ noneWaits sameActions ordinary
  refine ⟨shown, same, fun now now' message further => ?_⟩
  exact (same.server.handle now now' (further.notAdmin message rfl) further.steady).snd_eq

/-- A server that cannot reach its history answers like one that keeps it, and later. -/
theorem observed_of_sameService_unreachable :
    let lost : Server := { pageServer with history := .unreachable "down" }
    let actions : List Action := [.matchRequest (.plain "GET" "/"), .matchRequest (.plain "GET" "/x"),
      .handle ⟨"GET", .ofText "/?q", [], none⟩, .respond 0 (.plain "GET" "/")]
    let early := actions.map (Event.mk ⟨0, 0⟩)
    let late := actions.map (Event.mk ⟨1, 0⟩)
    (ofServer pageServer).observed early = (ofServer lost).observed late ∧
      ((ofServer pageServer).after early).server.resources.store =
        ((ofServer lost).after late).server.resources.store := by
  intro lost actions early late
  have ordinary : (ofServer pageServer).OrdinaryRun early := by
    refine ordinaryRun_of_noReload (fun _ => steadyFor_page "a" "id" "200") ?_ ?_
    · simp [early, actions]
    · simp only [early, actions, List.map_cons, List.map_nil, List.forall_mem_cons]
      refine ⟨nofun, nofun, ?_, nofun, nofun⟩
      rintro _ ⟨⟩
      cbv
  have sameActions : early.map (·.action) = late.map (·.action) := rfl
  have alike : pageServer.SameService lost := ⟨rfl, rfl, rfl⟩
  obtain ⟨shown, same, _⟩ := observed_of_sameService alike sameActions ordinary
  exact ⟨shown, same.server.documents⟩

end Traffic

end StubServer
