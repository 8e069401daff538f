import StubServer.Proofs.History.Log
import StubServer.Proofs.Json.RoundTrip
import StubServer.Proofs.Server.Reload
import StubServer.Proofs.Text.Utf8

/-! # What is recorded is what was sent

The response and its record are made one after the other, the record from the finished response: so the
newest record of an endpoint shows the status and all headers of the response that has just been given,
whatever rendering has made of it, and the newest record of a mismatch the text in the body
(`recorded_of_handle`).
-/

namespace StubServer

/-! ## Headers -/

namespace Http

theorem Headers.mem_names_iff (hs : Headers) (name : String) :
    name ∈ hs.names ↔ hs.values name ≠ [] := by
  induction hs with
  | nil => simp [names, values]
  | cons line rest ih =>
    obtain ⟨n, value⟩ := line
    by_cases same : n = name
    · simp [names, values, same]
    · simp only [names, values, List.mem_cons, List.mem_filter, ih, List.filterMap_cons, same, if_false]
      simp [Ne.symm same]

/-- The table gives every name that there are headers of all of its values, in order and joined by
commas, and has no other name.  The bytes of a value are read leniently. -/
structure Headers.FlatIn (hs : Headers) (t : Table String) : Prop where
  ascending : t.Ascending
  get?_eq (name : String) : Table.get? t name =
    if hs.values name = [] then none
    else some (", ".intercalate ((hs.values name).map fun value =>
      Text.Utf8.decodeLossy (Text.Utf8.encode value)))

theorem Response.flatIn_flatHeaders (r : Response) : r.headers.FlatIn r.flatHeaders where
  ascending := Table.ascending_ofList _
  get?_eq name := by
    simp only [Text.Utf8.decodeLossy_encode, List.map_id']
    rw [flatHeaders, Table.get?_ofList_map]
    by_cases absent : r.headers.values name = []
    · rw [if_pos absent, if_neg (by rw [Headers.mem_names_iff, not_not, absent])]
    · rw [if_neg absent, if_pos ((r.headers.mem_names_iff name).2 absent)]

/-- The member of this name in a body that is a JSON object. -/
def Response.bodyMember? (r : Response) (key : String) : Option Json :=
  (Json.parse? r.body).bind (·.member? key)

end Http

theorem Json.member?_object_concat (rows : List (String × Json)) (key : String) (value : Json) :
    (Json.object (rows ++ [(key, value)])).member? key = some value := by
  rw [object, Table.ofList_concat, member?, Table.get?_insert, if_pos rfl]

theorem Server.bodyMember?_notFound (cause : Route.Mismatch) :
    (notFound cause).bodyMember? "message" = some (.str cause.text) := by
  have plain : Json.Plain 127 (.object [("error", .str "not_found"), ("message", .str cause.text)]) := by
    refine Json.plain_object fun row inList => ?_
    simp only [List.mem_cons, List.not_mem_nil, or_false] at inList
    rcases inList with rfl | rfl <;> exact .str _
  change (Json.parse? (Json.compact _)).bind _ = _
  rw [Json.parse?_compact plain, Option.bind_some]
  exact Json.member?_object_concat [("error", .str "not_found")] "message" _

/-! ## Records -/

namespace History

theorem getLast?_push {α : Type} (capacity : Nat) (xs : List α) (x : α) :
    (Queue.push capacity xs x).getLast? = some x := by
  rw [push_eq_lastWithin]
  unfold lastWithin
  split
  · exact List.getLast?_concat
  · next limited =>
    obtain ⟨n, rfl⟩ := Nat.exists_eq_succ_of_ne_zero limited
    rw [List.rtake_concat_succ]
    exact List.getLast?_concat

theorem getLast?_addMatch (h : History) (id : String) (record : MatchRecord) :
    ((h.addMatches [(id, [record])]).matchRecords id).getLast? = some record := by
  rw [matchRecords_addMatches]
  simp only [rowsOf, List.flatMap_cons, List.flatMap_nil, if_true, List.append_nil]
  exact getLast?_push ..

theorem getLast?_addMismatch (h : History) (record : MismatchRecord) :
    (h.addMismatches [record]).mismatchRecords.getLast? = some record :=
  getLast?_push ..

/-- The record keeps what a request looks like. -/
structure RecordedRequest.Shows (r : RecordedRequest) (request : Http.Request) : Prop where
  method : r.method = request.method
  url : r.url = request.url
  host : r.host = request.host
  headers : r.headers = request.flatHeaders

theorem RecordedRequest.shows_ofRequest (request : Http.Request) : (ofRequest request).Shows request :=
  ⟨rfl, rfl, rfl, rfl⟩

/-- The record keeps what a response looks like. -/
structure RecordedResponse.Shows (r : RecordedResponse) (response : Http.Response) : Prop where
  status : r.status = response.status
  headers : response.headers.FlatIn r.headers

theorem RecordedResponse.shows_ofResponse (response : Http.Response) :
    (ofResponse response).Shows response :=
  ⟨rfl, response.flatIn_flatHeaders⟩

end History

namespace Server

variable {s : Server} {h : History} (held : s.history = .held h)

include held

theorem history_recordMatch (records : h.options.matchesCountOnly = false) (now : Time.Instant)
    (id : String) (request : Http.Request) (response : Http.Response) :
    (s.recordMatch now id request response).history =
      .held (h.addMatches [(id, [⟨id, now, .ofRequest request, .ofResponse response⟩])]) := by
  unfold recordMatch History.Store.recordMatch
  simp only [held, History.Store.matchesCountOnly, records, Bool.false_eq_true, if_false]
  rfl

theorem history_recordMismatch (records : h.options.mismatchesCountOnly = false) (now : Time.Instant)
    (request : Http.Request) (cause : Route.Mismatch) :
    (s.recordMismatch now request cause).history =
      .held (h.addMismatches [⟨now, .ofRequest request, cause.text⟩]) := by
  unfold recordMismatch History.Store.recordMismatch
  simp only [held, History.Store.mismatchesCountOnly, records, Bool.false_eq_true, if_false]
  rfl

variable {message : Http.Message} (notAdmin : s.below? message = none) (now : Time.Instant)

include notAdmin

theorem recorded_of_found (keeps : h.options.matchesCountOnly = false) {matched : Route.Matched}
    (found : s.snapshot.registry.findMatch (.capture message) = .ok matched) :
    ∃ h', (s.handle now message).1.history = .held h' ∧
      (s.handle now message).2 =
        (s.snapshot.respond now (.capture message) matched s.resources).1 ∧
      ∃ record, (h'.matchRecords matched.endpoint.id).getLast? = some record ∧
        record.response.Shows (s.handle now message).2 ∧ record.request.Shows (.capture message) := by
  have handled : s.handle now message = s.respond now (.capture message) ⟨s.snapshot, matched⟩ := by
    rw [handle, receive_of_found notAdmin found]
  rw [handled]
  let rendered := s.snapshot.respond now (.capture message) matched s.resources
  -- the record is made of the response that rendering has come to
  refine ⟨_, history_recordMatch (s := { s with resources := rendered.2 }) held keeps now
    matched.endpoint.id (.capture message) rendered.1, rfl, _, h.getLast?_addMatch .., ?_, ?_⟩
  · exact History.RecordedResponse.shows_ofResponse _
  · exact History.RecordedRequest.shows_ofRequest _

theorem recorded_of_lost (keeps : h.options.mismatchesCountOnly = false) {cause : Route.Mismatch}
    (lost : s.snapshot.registry.findMatch (.capture message) = .error cause) :
    ∃ h', (s.handle now message).1.history = .held h' ∧ (s.handle now message).2.status = 404 ∧
      ∃ record, h'.mismatchRecords.getLast? = some record ∧
        (s.handle now message).2.bodyMember? "message" = some (.str record.detail) ∧
        record.request.Shows (.capture message) := by
  have handled :
      s.handle now message = (s.recordMismatch now (.capture message) cause, notFound cause) := by
    rw [handle, receive_of_lost notAdmin lost]
  rw [handled]
  exact ⟨_, history_recordMismatch held keeps now (.capture message) cause, rfl, _,
    h.getLast?_addMismatch _, bodyMember?_notFound cause,
    History.RecordedRequest.shows_ofRequest _⟩

/-- Of a message that is not for an admin route, a history that keeps its records holds as its newest
what has been answered: under the endpoint that was matched the status and the headers of the response,
which is the one that rendering has come to, also where it has failed; or else the mismatch, with the
text that the body of the response has as its message. -/
theorem recorded_of_handle (keepsMatches : h.options.matchesCountOnly = false)
    (keepsMismatches : h.options.mismatchesCountOnly = false) :
    let request := Http.Request.capture message
    let after := (s.handle now message).1
    let response := (s.handle now message).2
    ∃ h', after.history = .held h' ∧
      match s.snapshot.registry.findMatch request with
      | .ok matched =>
        response = (s.snapshot.respond now request matched s.resources).1 ∧
        ∃ record, (h'.matchRecords matched.endpoint.id).getLast? = some record ∧
          record.response.Shows response ∧ record.request.Shows request
      | .error _ =>
        response.status = 404 ∧
        ∃ record, h'.mismatchRecords.getLast? = some record ∧
          response.bodyMember? "message" = some (.str record.detail) ∧
          record.request.Shows request := by
  intro request after response
  cases outcome : s.snapshot.registry.findMatch request with
  | ok matched => exact recorded_of_found held notAdmin now keepsMatches outcome
  | error cause => exact recorded_of_lost held notAdmin now keepsMismatches outcome

omit held notAdmin

/-- A failure to render a status is recorded with its status and with the headers that are left. -/
theorem recorded_of_handle_failure :
    let s : Server := { pageServer with snapshot := pageSnapshot "a" "id" "x" }
    let message : Http.Message := ⟨"GET", .ofText "/?q", [("x-trace", "1")], none⟩
    ∃ h' record, (s.handle ⟨0, 0⟩ message).1.history = .held h' ∧
      (h'.matchRecords "a").getLast? = some record ∧ record.response.status = 500 ∧
      Table.get? record.response.headers "id" = some "a" ∧ record.request.url = "/?q" ∧
      record.request.headers = [("x-trace", "1")] := by
  intro s message
  have notAdmin : s.below? message = none := by cbv
  have found : s.snapshot.registry.findMatch (.capture message) = .ok ⟨page "a" "x", []⟩ := by cbv
  have failed (data : Json) : (s.snapshot.templates.render ⟨0, 0⟩ data "a").run s.resources =
      (.error ⟨"a", .status, .notAStatus "x"⟩, s.resources) := by cbv
  obtain ⟨h', after, answered⟩ :=
    recorded_of_handle (s := s) (h := .empty .default) rfl notAdmin ⟨0, 0⟩ rfl rfl
  rw [found] at answered
  obtain ⟨response, record, newest, sent, asked⟩ := answered
  have text : (s.handle ⟨0, 0⟩ message).2 =
      .text 500 [("id", "a")] (RenderError.message ⟨"a", .status, .notAStatus "x"⟩) := by
    rw [response, Snapshot.respond]
    dsimp only
    rw [show (page "a" "x").id = "a" from rfl, failed]
    rfl
  rw [text] at sent
  refine ⟨h', record, after, newest, sent.status, ?_, ?_, ?_⟩
  · rw [sent.headers.get?_eq, show Http.Headers.values _ "id" = ["a"] from rfl,
      if_neg (List.cons_ne_nil _ _), List.map_singleton, Text.Utf8.decodeLossy_encode]
    rfl
  · rw [asked.url]
    cbv
  · rw [asked.headers]
    cbv

end Server

end StubServer
