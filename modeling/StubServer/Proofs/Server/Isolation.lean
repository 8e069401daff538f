import Mathlib.Data.List.Induction
import StubServer.Proofs.Route.Outcome
import StubServer.Proofs.Server.Reload
import StubServer.Proofs.Server.Steady

/-! # Isolation of requests from reloads

A request that has been matched keeps its place until its response is asked for, whatever happens to
other requests and to the configuration (`waitingAt_after`).  So every response is made from the
snapshot that was in force when its request was matched, and from the documents as they are by now
(`served_after`).
-/

namespace StubServer.Traffic

/-! ## Places -/

section Steps

variable {t t' : Traffic} {e : Event} {o : Observation} {place : Nat}

theorem Action.place?_of_asked {a : Action} {request : Http.Request} (asked : a.asked = some request) :
    a.place? = none := by
  cases a <;> first | rfl | cases asked

theorem Action.place?_of_message {a : Action} {message : Http.Message}
    (arrives : a.message? = some message) : a.place? = none := by
  cases a <;> first | rfl | cases arrives

theorem lt_of_waitingAt {w : Waiting} (waits : t.waitingAt place = some w) :
    place < t.waiting.length := by
  by_contra beyond
  rw [waitingAt, List.getElem?_eq_none (by omega)] at waits
  cases waits

theorem Moves.length_waiting (moves : Moves t e t' o) :
    (t'.waiting.length = t.waiting.length ∧ ∀ place, o ≠ .held place) ∨
      (t'.waiting.length = t.waiting.length + 1 ∧ o = .held t.waiting.length) := by
  cases moves with
  | held => exact .inr ⟨List.length_append, rfl⟩
  | served => exact .inl ⟨List.length_set, by simp⟩
  | _ => exact .inl ⟨rfl, by simp⟩

/-- A place stays as it is until its response is asked for. -/
theorem Moves.waitingAt_eq (moves : Moves t e t' o) (taken : place < t.waiting.length) :
    t'.waitingAt place = if e.action.place? = some place then none else t.waitingAt place := by
  cases moves with
  | admin arrives =>
    rw [Action.place?_of_message arrives]
    rfl
  | unmatched asked =>
    rw [Action.place?_of_asked asked]
    rfl
  | held asked =>
    rw [Action.place?_of_asked asked]
    simp only [waitingAt, List.getElem?_append_left taken]
    rfl
  | served asks =>
    rw [asks]
    simp only [waitingAt, List.getElem?_set, Option.some.injEq]
    split
    · next same => cases same; rw [if_pos taken]; rfl
    · rfl
  | servedAtOnce isHandle =>
    rw [isHandle]
    rfl
  | reloaded isReload =>
    rw [isReload]
    rfl
  | nothing asks empty =>
    rw [asks]
    split
    · next same => cases same; exact empty
    · rfl

theorem Moves.of_held (moves : Moves t e t' (.held place)) :
    ∃ request matched, e.action.asked = some request ∧
      t.server.snapshot.registry.findMatch request = .ok matched ∧
      place < t'.waiting.length ∧
      t'.waitingAt place = some ⟨request, t.server.snapshot, matched⟩ := by
  cases moves with
  | held asked _ found => exact ⟨_, _, asked, found, by simp, by simp [waitingAt]⟩

theorem Moves.of_served {id : String} {response : Http.Response}
    (moves : Moves t e t' (.served id response)) :
    (∃ place, e.action.place? = some place ∧ place < t.waiting.length) ∨
      ∃ message matched, e.action = .handle message ∧
        t.server.snapshot.registry.findMatch (.capture message) = .ok matched ∧
        id = matched.endpoint.id ∧
        response =
          (t.server.snapshot.respond e.now (.capture message) matched t.server.resources).1 := by
  cases moves with
  | servedAtOnce isHandle found => exact .inr ⟨_, _, isHandle, found, rfl, rfl⟩
  | served asks waits => exact .inl ⟨_, asks, lt_of_waitingAt waits⟩

theorem observe_of_place (asks : e.action.place? = some place) :
    t.observe e = match t.waitingAt place with
      | some w => .served w.pending.matched.endpoint.id
          (w.pending.snapshot.respond e.now (e.action.answered w.request) w.pending.matched
            t.server.resources).1
      | none => .nothing := by
  obtain ⟨now, action⟩ := e
  cases action with
  | respond | finish =>
    cases asks
    unfold observe step
    dsimp only
    cases t.waitingAt place <;> rfl
  | _ => cases asks

end Steps

/-! ## Runs -/

section Runs

variable {start : Traffic} {place : Nat}

theorem after_append (t : Traffic) (events more : List Event) :
    t.after (events ++ more) = (t.after events).after more :=
  List.foldl_append

theorem waitingAt_after {t : Traffic} (taken : place < t.waiting.length) (events : List Event) :
    (t.after events).waitingAt place =
      if ∃ e ∈ events, e.action.place? = some place then none else t.waitingAt place := by
  induction events generalizing t with
  | nil => simp [after]
  | cons e rest ih =>
    have moves := moves_step t e
    -- places are only added, so this one is still there after the first step
    have taken' : place < (t.next e).waiting.length := by
      rcases moves.length_waiting with ⟨same, _⟩ | ⟨longer, _⟩ <;> omega
    refine (ih taken').trans ?_
    rw [moves.waitingAt_eq taken]
    by_cases here : e.action.place? = some place <;> simp [here]

/-- Who waits was given the place by an earlier event. -/
theorem held_earlier (noneWaits : start.waiting = []) (events : List Event)
    (taken : place < (start.after events).waiting.length) :
    ∃ before m between, events = before ++ m :: between ∧
      (start.after before).observe m = .held place := by
  induction events using List.reverseRecOn with
  | nil =>
    rw [show start.after [] = start from rfl, noneWaits] at taken
    cases taken
  | append_singleton rest e ih =>
    by_cases earlier : place < (start.after rest).waiting.length
    -- the place was there before the last event, or it is the one that this event has added
    · obtain ⟨before, m, between, run, held⟩ := ih earlier
      exact ⟨before, m, between ++ [e], by rw [run]; simp, held⟩
    · rw [after_concat] at taken
      refine ⟨rest, e, [], rfl, ?_⟩
      rcases (moves_step (start.after rest) e).length_waiting with ⟨same, _⟩ | ⟨longer, held⟩
      · omega
      · rw [held]
        congr 1
        omega

end Runs

/-! ## Responses -/

section Responses

variable {start : Traffic} {events before between : List Event} {m e : Event} {id : String}
  {response : Http.Response}

/-- The request that `e` responds to after `events` has been matched by `m`, after the events before
that. -/
inductive MatchedBy (start : Traffic) (events : List Event) (e : Event) :
    List Event → Event → Prop where
  | atOnce {message} (isHandle : e.action = .handle message) : MatchedBy start events e events e
  | earlier {before m between place} (run : events = before ++ m :: between)
      (held : (start.after before).observe m = .held place) (asks : e.action.place? = some place) :
      MatchedBy start events e before m

/-- What `e` observes is the response to the request that `m` has asked, from a snapshot and from
resources alone. -/
structure AnsweredFrom (snapshot : Snapshot) (resources : Resources) (m e : Event) (id : String)
    (response : Http.Response) (request : Http.Request) (matched : Route.Matched) : Prop where
  asked : m.action.asked = some request
  found : snapshot.registry.findMatch request = .ok matched
  id_eq : id = matched.endpoint.id
  response_eq : response =
    (snapshot.respond e.now (e.action.answered request) matched resources).1

theorem exists_matchedBy (noneWaits : start.waiting = [])
    (served : (start.after events).observe e = .served id response) :
    ∃ before m, MatchedBy start events e before m := by
  have moves := moves_step (start.after events) e
  rw [served] at moves
  rcases moves.of_served with ⟨place, asks, taken⟩ | ⟨message, _, isHandle, _⟩
  · obtain ⟨before, m, between, run, held⟩ := held_earlier noneWaits events taken
    exact ⟨before, m, .earlier run held asks⟩
  · exact ⟨events, e, .atOnce isHandle⟩

/-- What has been matched and held is either still there or was asked for in between. -/
theorem observe_held {place : Nat} (held : (start.after before).observe m = .held place)
    (between : List Event) (asks : e.action.place? = some place) :
    ∃ request matched, m.action.asked = some request ∧
      (start.after before).server.snapshot.registry.findMatch request = .ok matched ∧
      (start.after (before ++ m :: between)).observe e =
        if ∃ b ∈ between, b.action.place? = some place then .nothing
        else .served matched.endpoint.id
          ((start.after before).server.snapshot.respond e.now (e.action.answered request) matched
            (start.after (before ++ m :: between)).server.resources).1 := by
  have moves := moves_step (start.after before) m
  rw [held] at moves
  obtain ⟨request, matched, asked, found, taken, waits⟩ := moves.of_held
  refine ⟨request, matched, asked, found, ?_⟩
  -- from here on the place tells what was matched, until it has been asked for
  have kept := waitingAt_after taken between
  rw [waits] at kept
  rw [observe_of_place asks, after_append, show (start.after before).after (m :: between) =
    ((start.after before).next m).after between from rfl, kept]
  by_cases askedBefore : ∃ b ∈ between, b.action.place? = some place
  · simp only [if_pos askedBefore]
  · simp only [if_neg askedBefore]

theorem answeredFrom_of_matchedBy (matchedBy : MatchedBy start events e before m)
    (served : (start.after events).observe e = .served id response) :
    ∃ request matched, AnsweredFrom (start.after before).server.snapshot
      (start.after events).server.resources m e id response request matched := by
  cases matchedBy with
  | atOnce isHandle =>
    have moves := moves_step (start.after events) m
    rw [served] at moves
    rcases moves.of_served with ⟨place, asks, _⟩ |
      ⟨message, matched, same, found, id_eq, response_eq⟩
    · rw [isHandle] at asks
      cases asks
    · exact ⟨_, matched, by rw [same]; rfl, found, id_eq, by rw [response_eq, same]; rfl⟩
  | earlier run held asks =>
    -- it has been served, so nobody has asked for it in between
    subst run
    obtain ⟨request, matched, asked, found, observed⟩ := observe_held held _ asks
    rw [observed] at served
    split at served
    · cases served
    · cases served
      exact ⟨request, matched, asked, found, rfl, rfl⟩

end Responses

/-- In any run, the request to which a response is made was matched by an event of the run.  The
response comes from the snapshot that was in force at that event, all of which was built from one
configuration, and from the documents of this moment; what was reloaded in between does not show, and
neither do the time and the drawn numbers when the templates of the endpoint are steady.  A request
that waits gets its response when it is asked for the first time. -/
theorem served_after {files : Files} {config : Config} {history : History.Store}
    {resources : Resources} {server : Server}
    (started : Server.start files config history resources = .ok server) (events : List Event)
    (e : Event) :
    let start := ofServer server
    let t := start.after events
    (∀ id response, t.observe e = .served id response →
      ∃ before m, MatchedBy start events e before m) ∧
    (∀ before m, MatchedBy start events e before m →
      let snapshot := (start.after before).server.snapshot
      ∃ endpoints, snapshot.BuiltFrom (start.lastBuilt ⟨files, config, 0⟩ before) endpoints ∧
        snapshot.templates.endpointIds = endpoints.map (·.id) ∧
        ∀ id response, t.observe e = .served id response →
          ∃ request matched, matched.endpoint ∈ endpoints ∧
            AnsweredFrom snapshot t.server.resources m e id response request matched ∧
            (snapshot.templates.SteadyFor id → ∀ now chance, response =
              (snapshot.respond now (e.action.answered request) matched
                ⟨t.server.resources.store, chance⟩).1)) ∧
    ∀ before m between place, events = before ++ m :: between →
      (start.after before).observe m = .held place → e.action.place? = some place →
      (∀ b ∈ between, b.action.place? ≠ some place) →
      ∃ id response, t.observe e = .served id response := by
  intro start t
  refine ⟨fun id response served => exists_matchedBy rfl served, fun before m matchedBy => ?_, ?_⟩
  · -- the snapshot at the match was in force, so it has a source
    have built := build_after (t := start) (Server.start_eq_ok started).1 before
    obtain ⟨endpoints, builtFrom⟩ := Snapshot.builtFrom_of_build built
    refine ⟨endpoints, builtFrom, builtFrom.templateIds, fun id response served => ?_⟩
    obtain ⟨request, matched, answered⟩ := answeredFrom_of_matchedBy matchedBy served
    refine ⟨request, matched, ?_, answered, fun steady now chance => ?_⟩
    · exact Registry.mem_of_matched (builtFrom.registry ▸ answered.found)
    · rw [answered.response_eq]
      exact (Snapshot.respond_steady (answered.id_eq ▸ steady) ..).1
  · intro before m between place run held asks notAsked
    obtain ⟨request, matched, _, _, observed⟩ := observe_held held between asks
    rw [← run, if_neg (by simpa using notAsked)] at observed
    exact ⟨_, _, observed⟩

theorem steadyFor_page (id header status : String) {asked : String} :
    (pageSnapshot id header status).templates.SteadyFor asked := by
  intro stage t stored
  have alone : t = .mk (some (id ++ "#status")) [(none, .text status)] := by
    simp only [pageSnapshot, Table.get?] at stored
    split at stored <;> cases stored
    rfl
  rw [alone]
  refine .mk (fun placed inList => ?_) fun placed inList => ?_
  · cases List.mem_singleton.1 inList
    exact .text
  · cases List.mem_singleton.1 inList
    simp [Template.Element.bodies]

/-- A request that was matched before a reload is answered as if there had been none, by the endpoint
that it was matched to and with the header of that configuration, though another with the same id is
served by now. -/
theorem served_after_reload :
    let start := ofServer pageServer
    let events : List Event := [⟨⟨0, 0⟩, .matchRequest (.plain "GET" "/")⟩,
      ⟨⟨1, 0⟩, .reload noFiles (onePage "a" "x" "404")⟩]
    start.observed events = [.held 0, .reloaded (.ok ())] ∧ ∀ now chance,
      (start.after events).observe ⟨⟨2, 0⟩, .respond 0 (.plain "GET" "/")⟩ =
        .served "a" ((pageSnapshot "a" "id" "200").respond now (.plain "GET" "/")
          ⟨page "a" "200", []⟩ ⟨.empty, chance⟩).1 := by
  intro start events
  have started : Server.start noFiles (onePage "a" "id" "200") (.ofOptions .default) ⟨.empty, 0⟩ =
      .ok pageServer := by cbv
  have held : start.observe ⟨⟨0, 0⟩, .matchRequest (.plain "GET" "/")⟩ = .held 0 := by cbv
  have found : (pageSnapshot "a" "id" "200").registry.findMatch (.plain "GET" "/") =
      .ok ⟨page "a" "200", []⟩ := by cbv
  have untouched : (start.after events).server.resources = ⟨.empty, 0⟩ := by cbv
  obtain ⟨_, answers, progress⟩ :=
    served_after started events ⟨⟨2, 0⟩, .respond 0 (.plain "GET" "/")⟩
  obtain ⟨id, response, served⟩ := progress [] _ [_] 0 rfl held rfl (by simp [Action.place?])
  obtain ⟨_, _, _, responses⟩ := answers [] _ (.earlier rfl held rfl)
  obtain ⟨asked, matched, _, answered, steady⟩ := responses id response served
  cases answered.asked
  cases answered.found.symm.trans found
  cases answered.id_eq
  refine ⟨by cbv, fun now chance => ?_⟩
  rw [served, steady (steadyFor_page "a" "id" "200") now chance, untouched]
  rfl

end StubServer.Traffic
