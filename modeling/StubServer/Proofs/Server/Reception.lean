import StubServer.Server.Basic

/-! # Receiving messages

A message whose path lies below the admin prefix is answered there (`receive_of_below`); any other is
matched as the request that it is captured as (`receive_of_found`, `receive_of_lost`).  Handling a
message is receiving it and, when it is matched, responding at once.
-/

namespace StubServer

namespace Admin

/-- The segments of a path behind the prefix, if it is a path for the admin routes. -/
def below? (start path : String) : Option (List String) :=
  (behindPrefix start.toList path.toList).map segments

/-- The answer to a request below the prefix. -/
def answerBelow (method : String) (below : List String) (ids : List String) (store : History.Store) :
    Http.Response × History.Store :=
  match Route.find? method below with
  | none => (notFound, store)
  | some route => route.answer ids store

theorem respond?_eq (start method path : String) (ids : List String) (store : History.Store) :
    respond? start method path ids store =
      (below? start path).map fun below => answerBelow method below ids store := by
  rw [below?, Option.map_map]
  rfl

/-- All routes but two leave the history as it is. -/
theorem answerBelow_keeps {method : String} {below : List String}
    (notMatches : ¬ (method = "DELETE" ∧ below = ["matches"]))
    (notMismatches : ¬ (method = "DELETE" ∧ below = ["mismatches"])) (ids : List String)
    (store : History.Store) : (answerBelow method below ids store).2 = store := by
  unfold answerBelow Route.find?
  split
  · rfl
  · next route isRoute =>
    split at isRoute <;> first
      | exact absurd ⟨rfl, rfl⟩ notMatches
      | exact absurd ⟨rfl, rfl⟩ notMismatches
      | cases isRoute <;> cases store <;> rfl

end Admin

namespace Server

variable {s : Server} {now : Time.Instant} {message : Http.Message}

/-- The segments behind the admin prefix in force, if the message is for an admin route. -/
def below? (s : Server) (message : Http.Message) : Option (List String) :=
  Admin.below? s.snapshot.settings.adminPrefix message.target.path

theorem receive_of_below {below : List String} (isBelow : s.below? message = some below) :
    s.receive now message =
      ({ s with history := (Admin.answerBelow message.method below s.endpointIds s.history).2 },
        .admin (Admin.answerBelow message.method below s.endpointIds s.history).1) := by
  rw [below?] at isBelow
  simp only [receive, Admin.respond?_eq, isBelow, Option.map_some]

theorem receive_of_found {matched : Route.Matched} (notBelow : s.below? message = none)
    (found : s.snapshot.registry.findMatch (.capture message) = .ok matched) :
    s.receive now message = (s, .matched (.capture message) ⟨s.snapshot, matched⟩) := by
  rw [below?] at notBelow
  simp only [receive, Admin.respond?_eq, notBelow, Option.map_none, matchRequest, found]

theorem receive_of_lost {cause : Route.Mismatch} (notBelow : s.below? message = none)
    (lost : s.snapshot.registry.findMatch (.capture message) = .error cause) :
    s.receive now message = (s.recordMismatch now (.capture message) cause, .unmatched cause) := by
  rw [below?] at notBelow
  simp only [receive, Admin.respond?_eq, notBelow, Option.map_none, matchRequest, lost]

/-- Any message that is not for an admin route is captured and matched. -/
theorem receive_of_notBelow (notBelow : s.below? message = none) :
    s.receive now message =
      match s.matchRequest now (.capture message) with
      | (s, .ok pending) => (s, .matched (.capture message) pending)
      | (s, .error cause) => (s, .unmatched cause) := by
  rw [below?] at notBelow
  rcases outcome : s.matchRequest now (.capture message) with ⟨s', cause | pending⟩ <;>
    simp only [receive, Admin.respond?_eq, notBelow, Option.map_none, outcome]

end Server

end StubServer
