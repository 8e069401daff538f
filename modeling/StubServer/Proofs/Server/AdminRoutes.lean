import StubServer.Proofs.Server.AdminPaths
import StubServer.Proofs.Server.Reload

/-! # Apart from the endpoints

A message on an admin path is answered from the prefix, the ids and the history alone: servers that
differ in their endpoints, templates and documents answer it alike, and keep all of that as it is
(`adminRoutes_apart`).  The history itself changes on two routes, whose paths may have slashes that
do not count; each of them clears one of its two halves.
-/

namespace StubServer

namespace History

/-- There are no matches any more, neither kept nor counted; all else is as it was. -/
structure MatchesCleared (h h' : History) : Prop where
  records : ∀ id, h'.matchRecords id = []
  counts : ∀ id, h'.matchCount id = 0
  mismatched : h'.mismatched = h.mismatched
  options : h'.options = h.options

/-- There are no mismatches any more, neither kept nor counted; all else is as it was. -/
structure MismatchesCleared (h h' : History) : Prop where
  records : h'.mismatchRecords = []
  count : h'.mismatchCount = 0
  matched : h'.matched = h.matched
  options : h'.options = h.options

end History

namespace Admin

/-! ## What becomes of the history -/

/-- A request on the route that clears this. -/
def Clears (start method path what : String) : Prop := method = "DELETE" ∧ Spells start [what] path

/-- What a request may change of the history. -/
structure Effect (start method path : String) (before after : History.Store) : Prop where
  matches_cleared : ∀ h, before = .held h → Clears start method path "matches" →
    ∃ h', after = .held h' ∧ h.MatchesCleared h'
  mismatches_cleared : ∀ h, before = .held h → Clears start method path "mismatches" →
    ∃ h', after = .held h' ∧ h.MismatchesCleared h'
  kept : ¬ Clears start method path "matches" → ¬ Clears start method path "mismatches" →
    after = before
  lost : ∀ reason, before = .unreachable reason → after = before

section Answers

variable {start method path : String} {below : List String} {ids : List String}
  {store : History.Store} {reason : String}

theorem clears_iff {what : String} (isSegment : IsSegment what)
    (isBelow : below? start path = some below) :
    Clears start method path what ↔ method = "DELETE" ∧ below = [what] := by
  have isPath : IsAdminPath start path := isSome_below?_iff.1 (by rw [isBelow]; rfl)
  have spelled : below? start path = some [what] ↔ start ≠ "" ∧ Spells start [what] path :=
    below?_eq_some_iff (List.cons_ne_nil what []) (by simpa using isSegment)
  rw [isBelow, Option.some_inj] at spelled
  rw [Clears, spelled]
  simp [isPath.1]

theorem answer_unreachable {route : Route} (asksHistory : route ≠ .endpointIds) :
    route.answer ids (.unreachable reason) =
      (unavailable (.unavailable reason), .unreachable reason) := by
  cases route with
  | endpointIds => exact absurd rfl asksHistory
  | _ => rfl

theorem answerBelow_unreachable (method : String) (below ids : List String) (reason : String) :
    (answerBelow method below ids (.unreachable reason)).2 = .unreachable reason := by
  unfold answerBelow
  split
  · rfl
  · next route isRoute => cases route <;> rfl

theorem effect_answerBelow (isBelow : below? start path = some below) (store : History.Store) :
    Effect start method path store (answerBelow method below ids store).2 where
  matches_cleared h held clears := by
    obtain ⟨rfl, rfl⟩ := (clears_iff (by decide) isBelow).1 clears
    subst held
    exact ⟨h.clearMatches, rfl, fun _ => rfl, fun _ => rfl, rfl, rfl⟩
  mismatches_cleared h held clears := by
    obtain ⟨rfl, rfl⟩ := (clears_iff (by decide) isBelow).1 clears
    subst held
    exact ⟨h.clearMismatches, rfl, rfl, rfl, rfl, rfl⟩
  kept notMatches notMismatches := by
    rw [clears_iff (by decide) isBelow] at notMatches notMismatches
    exact answerBelow_keeps notMatches notMismatches ids store
  lost reason lost := by
    subst lost
    exact answerBelow_unreachable method below ids reason

end Answers

end Admin

namespace Server

/-- The servers look the same from the admin routes. -/
structure SameAdmin (a b : Server) : Prop where
  adminPrefix : a.snapshot.settings.adminPrefix = b.snapshot.settings.adminPrefix
  endpointIds : a.endpointIds = b.endpointIds
  history : a.history = b.history

section Handling

variable {s : Server} {message : Http.Message} {below : List String}

theorem exists_admin_iff (now : Time.Instant) :
    (∃ response, (s.receive now message).2 = .admin response) ↔ (s.below? message).isSome := by
  cases isBelow : s.below? message with
  | some below =>
    rw [receive_of_below isBelow]
    exact iff_of_true ⟨_, rfl⟩ rfl
  | none =>
    refine iff_of_false ?_ nofun
    rintro ⟨response, answered⟩
    rw [receive_of_notBelow isBelow] at answered
    rcases outcome : s.matchRequest now (.capture message) with ⟨s', cause | pending⟩ <;>
      rw [outcome] at answered <;> cases answered

theorem handle_of_below (isBelow : s.below? message = some below) (now : Time.Instant) :
    s.handle now message =
      ({ s with history := (Admin.answerBelow message.method below s.endpointIds s.history).2 },
        (Admin.answerBelow message.method below s.endpointIds s.history).1) := by
  rw [handle, receive_of_below isBelow]

/-- Another server that looks the same from the admin routes gives the same answer. -/
theorem SameAdmin.handle {other : Server} (alike : s.SameAdmin other)
    (isBelow : s.below? message = some below) {message' : Http.Message}
    (sameMethod : message'.method = message.method)
    (samePath : message'.target.path = message.target.path) (now : Time.Instant) :
    other.handle now message' =
      ({ other with
          history := (Admin.answerBelow message.method below s.endpointIds s.history).2 },
        (Admin.answerBelow message.method below s.endpointIds s.history).1) := by
  have isBelow' : other.below? message' = some below := by
    rw [below?, ← alike.adminPrefix, samePath]
    exact isBelow
  rw [handle_of_below isBelow', sameMethod, alike.endpointIds, alike.history]

end Handling

/-- The admin routes answer the messages on admin paths and no others.  Whatever is served, rendered
from or kept in documents, servers with the same prefix, ids and history give the same answer, at any
time and to any message with this method and path; nothing but the history may change, as far as
`Admin.Effect` goes.  Where the history is out of reach, each route that asks for it says so. -/
theorem adminRoutes_apart (s : Server) (message : Http.Message) :
    let start := s.snapshot.settings.adminPrefix
    let path := message.target.path
    (∀ now, (∃ response, (s.receive now message).2 = .admin response) ↔
      Admin.IsAdminPath start path) ∧
    (Admin.IsAdminPath start path → ∃ response history,
      (∀ other : Server, s.SameAdmin other → ∀ message' : Http.Message,
        message'.method = message.method → message'.target.path = path → ∀ now,
        other.handle now message' = ({ other with history := history }, response)) ∧
      Admin.Effect start message.method path s.history history ∧
      ∀ reason below route, s.history = .unreachable reason → s.below? message = some below →
        Admin.Route.find? message.method below = some route → route ≠ .endpointIds →
        response = .json 503 (.object [("error", .str "matchstore_unavailable"),
          ("message", .str ("matchstore backend unavailable: " ++ reason))])) := by
  intro start path
  refine ⟨fun now => (exists_admin_iff now).trans Admin.isSome_below?_iff, fun isPath => ?_⟩
  obtain ⟨below, isBelow⟩ := Option.isSome_iff_exists.1 (Admin.isSome_below?_iff.2 isPath)
  refine ⟨_, _, fun other alike message' sameMethod samePath =>
    alike.handle isBelow sameMethod samePath, Admin.effect_answerBelow isBelow s.history, ?_⟩
  intro reason below' route lost isBelow' isRoute asksHistory
  cases isBelow.symm.trans isBelow'
  rw [Admin.answerBelow, isRoute, lost]
  exact congrArg Prod.fst (Admin.answer_unreachable asksHistory)

/-- A server of one page that has counted a request for it. -/
def visited : Server :=
  { pageServer with history := .held ((History.empty .default).addMatchCounts [("a", 1)]) }

/-- Slashes make no difference to a clearing; a server whose documents are out of reach clears the
same. -/
theorem adminRoutes_apart_visited :
    let other : Server := { visited with resources := ⟨.unreachable "down", 7⟩ }
    let message : Http.Message := ⟨"DELETE", .ofText "/__admin//matches/", [], none⟩
    ∃ history : History,
      (∀ id, history.matchRecords id = []) ∧ (∀ id, history.matchCount id = 0) ∧
      ∃ response, ∀ now,
        other.handle now message = ({ other with history := .held history }, response) := by
  intro other message
  have path_eq : message.target.path = "/__admin//matches/" := by decide
  have start_eq : visited.snapshot.settings.adminPrefix = "/__admin" := rfl
  obtain ⟨_, answers⟩ := adminRoutes_apart visited message
  rw [path_eq, start_eq] at answers
  obtain ⟨response, history, same, effect, _⟩ := answers (by decide)
  have isClearing : Admin.Clears "/__admin" "DELETE" "/__admin//matches/" "matches" :=
    ⟨rfl, 1, 1, by decide⟩
  obtain ⟨h', rfl, cleared⟩ := effect.matches_cleared _ rfl isClearing
  exact ⟨h', cleared.records, cleared.counts, response,
    fun now => same other ⟨rfl, rfl, rfl⟩ message rfl path_eq now⟩

/-- Matches are cleared also on a path that is not just the prefix and `/matches`. -/
theorem clears_on_longer_path :
    let message : Http.Message := ⟨"DELETE", .ofText "/__admin/matches/", [], none⟩
    let start := visited.snapshot.settings.adminPrefix
    let path := message.target.path
    Admin.IsAdminPath start path ∧ path ≠ Admin.base start ++ "/matches" ∧
      path ≠ Admin.base start ++ "/mismatches" ∧
      ∃ h h', visited.history = .held h ∧ h.matchCount "a" = 1 ∧
        (visited.handle ⟨1, 0⟩ message).1.history = .held h' ∧ h'.matchCount "a" = 0 := by
  intro message start path
  have path_eq : path = "/__admin/matches/" := by decide
  have start_eq : start = "/__admin" := rfl
  have isBelow : visited.below? message = some ["matches"] := by decide
  rw [handle_of_below isBelow, path_eq, start_eq]
  exact ⟨by decide, by decide, by decide, _, _, rfl, by decide, rfl, by decide⟩

end Server

end StubServer
