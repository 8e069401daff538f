import Mathlib.Data.List.Basic
import StubServer.Proofs.Server.Reception

/-! # Traffic

A server together with the requests that are on their way through it.  A request that is matched in
one step waits at a place of its own until a later step responds to it; in between anything may
happen, also a reload.  `Traffic.step` is what a server does in one step, and `Moves` says of every
step what it can have been (`moves_step`); what holds along a whole run is derived from there.
-/

namespace StubServer

/-- A request that has been matched. -/
structure Waiting where
  request : Http.Request
  pending : PendingMatch

structure Traffic where
  server : Server
  /-- By place, in the order of matching; nothing where the response has been given. -/
  waiting : List (Option Waiting)

namespace Traffic

inductive Action where
  | matchRequest (request : Http.Request)
  /-- The response to what was matched, for the request as the caller hands it over. -/
  | respond (place : Nat) (request : Http.Request)
  /-- Both steps of a message at once. -/
  | handle (message : Http.Message)
  /-- The first step of a message: it is answered on an admin route, or matched. -/
  | receive (message : Http.Message)
  /-- The second step of a message. -/
  | finish (place : Nat)
  | reload (files : Files) (config : Config)

structure Event where
  now : Time.Instant
  action : Action

namespace Action

/-- The request that is matched. -/
def asked : Action → Option Http.Request
  | .matchRequest request => some request
  | .handle message => some (.capture message)
  | .receive message => some (.capture message)
  | _ => none

/-- The place at which a response is asked for. -/
def place? : Action → Option Nat
  | .respond place _ => some place
  | .finish place => some place
  | _ => none

/-- The request that the response is made for, when `asked` was matched. -/
def answered (asked : Http.Request) : Action → Http.Request
  | .respond _ request => request
  | _ => asked

/-- The message that is answered at once when it is for an admin route. -/
def message? : Action → Option Http.Message
  | .handle message => some message
  | .receive message => some message
  | _ => none

end Action

/-- What comes out of a step. -/
inductive Observation where
  /-- An answer on an admin route, with the segments behind the prefix. -/
  | admin (method : String) (below : List String) (response : Http.Response)
  | unmatched (cause : Route.Mismatch)
  /-- The request has been matched and waits at a place. -/
  | held (place : Nat)
  | served (id : String) (response : Http.Response)
  | reloaded (result : Except LoadError Unit)
  | nothing

def ofServer (server : Server) : Traffic := ⟨server, []⟩

def waitingAt (t : Traffic) (place : Nat) : Option Waiting := (t.waiting[place]?).join

/-! ## Steps -/

def hold (t : Traffic) (server : Server) (w : Waiting) : Traffic × Observation :=
  (⟨server, t.waiting ++ [some w]⟩, .held t.waiting.length)

def answer (t : Traffic) (now : Time.Instant) (place : Nat) (request : Http.Request)
    (pending : PendingMatch) : Traffic × Observation :=
  let (server, response) := t.server.respond now request pending
  (⟨server, t.waiting.set place none⟩, .served pending.matched.endpoint.id response)

/-- What is seen of an answer on an admin route. -/
def seenAdmin (t : Traffic) (message : Http.Message) (response : Http.Response) : Observation :=
  .admin message.method ((t.server.below? message).getD []) response

def step (t : Traffic) (e : Event) : Traffic × Observation :=
  match e.action with
  | .matchRequest request =>
    match t.server.matchRequest e.now request with
    | (server, .ok pending) => t.hold server ⟨request, pending⟩
    | (server, .error cause) => ({ t with server := server }, .unmatched cause)
  | .respond place request =>
    match t.waitingAt place with
    | some w => t.answer e.now place request w.pending
    | none => (t, .nothing)
  | .handle message =>
    let (server, response) := t.server.handle e.now message
    match (t.server.receive e.now message).2 with
    | .admin _ => ({ t with server := server }, t.seenAdmin message response)
    | .unmatched cause => ({ t with server := server }, .unmatched cause)
    | .matched _ pending =>
      ({ t with server := server }, .served pending.matched.endpoint.id response)
  | .receive message =>
    match t.server.receive e.now message with
    | (server, .admin response) => ({ t with server := server }, t.seenAdmin message response)
    | (server, .unmatched cause) => ({ t with server := server }, .unmatched cause)
    | (server, .matched request pending) => t.hold server ⟨request, pending⟩
  | .finish place =>
    match t.waitingAt place with
    | some w => t.answer e.now place w.request w.pending
    | none => (t, .nothing)
  | .reload files config =>
    let (server, result) := t.server.reload files config
    ({ t with server := server }, .reloaded result)

def next (t : Traffic) (e : Event) : Traffic := (t.step e).1

def observe (t : Traffic) (e : Event) : Observation := (t.step e).2

def after (t : Traffic) (events : List Event) : Traffic := events.foldl next t

def observed (t : Traffic) : List Event → List Observation
  | [] => []
  | e :: rest => t.observe e :: (t.next e).observed rest

theorem after_concat (t : Traffic) (events : List Event) (e : Event) :
    t.after (events ++ [e]) = (t.after events).next e := by
  rw [after, List.foldl_append]
  rfl

theorem observed_concat (t : Traffic) (events : List Event) (e : Event) :
    t.observed (events ++ [e]) = t.observed events ++ [(t.after events).observe e] := by
  induction events generalizing t with
  | nil => rfl
  | cons first rest ih => exact congrArg (t.observe first :: ·) (ih (t.next first))

/-! ## What a step can be -/

/-- The kinds of steps, each with all that it changes. -/
inductive Moves (t : Traffic) (e : Event) : Traffic → Observation → Prop where
  | admin {message below answer} (arrives : e.action.message? = some message)
      (isBelow : t.server.below? message = some below)
      (answers :
        Admin.answerBelow message.method below t.server.endpointIds t.server.history = answer) :
      Moves t e { t with server := { t.server with history := answer.2 } }
        (.admin message.method below answer.1)
  | unmatched {request cause} (asked : e.action.asked = some request)
      (lost : t.server.snapshot.registry.findMatch request = .error cause) :
      Moves t e { t with server := t.server.recordMismatch e.now request cause } (.unmatched cause)
  | held {request matched} (asked : e.action.asked = some request)
      (notAtOnce : ∀ message, e.action ≠ .handle message)
      (found : t.server.snapshot.registry.findMatch request = .ok matched) :
      Moves t e { t with waiting := t.waiting ++ [some ⟨request, t.server.snapshot, matched⟩] }
        (.held t.waiting.length)
  | served {place w} (asks : e.action.place? = some place) (waits : t.waitingAt place = some w) :
      Moves t e
        ⟨(t.server.respond e.now (e.action.answered w.request) w.pending).1, t.waiting.set place none⟩
        (.served w.pending.matched.endpoint.id
          (t.server.respond e.now (e.action.answered w.request) w.pending).2)
  | servedAtOnce {message matched} (isHandle : e.action = .handle message)
      (found : t.server.snapshot.registry.findMatch (.capture message) = .ok matched) :
      Moves t e
        { t with server := (t.server.respond e.now (.capture message) ⟨t.server.snapshot, matched⟩).1 }
        (.served matched.endpoint.id
          (t.server.respond e.now (.capture message) ⟨t.server.snapshot, matched⟩).2)
  | reloaded {files config} (isReload : e.action = .reload files config) :
      Moves t e { t with server := (t.server.reload files config).1 }
        (.reloaded (t.server.reload files config).2)
  | nothing {place} (asks : e.action.place? = some place) (empty : t.waitingAt place = none) :
      Moves t e t .nothing

theorem moves_step (t : Traffic) (e : Event) : Moves t e (t.next e) (t.observe e) := by
  obtain ⟨now, action⟩ := e
  unfold next observe
  cases action with
  | matchRequest request =>
    simp only [step, Server.matchRequest]
    cases outcome : t.server.snapshot.registry.findMatch request with
    | ok matched => exact .held rfl (by simp) outcome
    | error cause => exact .unmatched rfl outcome
  | respond place request =>
    simp only [step]
    cases waits : t.waitingAt place with
    | some w => exact .served rfl waits
    | none => exact .nothing rfl waits
  | handle message =>
    -- a message is for an admin route, or matched, or lost; the same three cases as for its first step
    simp only [step, Server.handle]
    cases isBelow : t.server.below? message with
    | some below =>
      simp only [Server.receive_of_below isBelow, seenAdmin, isBelow, Option.getD_some]
      exact .admin rfl isBelow rfl
    | none =>
      cases outcome : t.server.snapshot.registry.findMatch (.capture message) with
      | ok matched =>
        simp only [Server.receive_of_found isBelow outcome]
        exact .servedAtOnce rfl outcome
      | error cause =>
        simp only [Server.receive_of_lost isBelow outcome]
        exact .unmatched rfl outcome
  | receive message =>
    simp only [step]
    cases isBelow : t.server.below? message with
    | some below =>
      simp only [Server.receive_of_below isBelow, seenAdmin, isBelow, Option.getD_some]
      exact .admin rfl isBelow rfl
    | none =>
      cases outcome : t.server.snapshot.registry.findMatch (.capture message) with
      | ok matched =>
        simp only [Server.receive_of_found isBelow outcome]
        exact .held rfl (by simp) outcome
      | error cause =>
        simp only [Server.receive_of_lost isBelow outcome]
        exact .unmatched rfl outcome
  | finish place =>
    simp only [step]
    cases waits : t.waitingAt place with
    | some w => exact .served rfl waits
    | none => exact .nothing rfl waits
  | reload files config => exact .reloaded rfl

end Traffic

end StubServer
