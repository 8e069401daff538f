import StubServer.Proofs.Endpoint.Stages
import StubServer.Proofs.Endpoint.Writing
import StubServer.Proofs.Server.Accounting
import StubServer.Proofs.Server.Records

/-! # Failures to render

When a stage of a response fails, the request has been matched all the same: it is answered with
status 500 and the name of the stage, and counted and recorded like any other match
(`ShowsFailure`).  The documents stay as that stage has left them, and what is in force for other
requests stays as it is (`stages_of_respond`).
-/

namespace StubServer

open Template (runFrom)

namespace Server

/-- The answer to a match, and the server after it, are those for a stage that has failed with the
documents left as they are in `left`. -/
structure ShowsFailure (s : Server) (id : String) (stage : Stage) (reason : RenderReason)
    (left : Resources) (answer : Server × Http.Response) : Prop where
  status : answer.2.status = 500
  body : answer.2.body =
    "failed to render " ++ stage.name ++ " for endpoint '" ++ id ++ "': " ++ reason.message
  resources : answer.1.resources = left
  snapshot : answer.1.snapshot = s.snapshot
  counted : ∀ h, s.history = .held h → ∃ h', answer.1.history = .held h' ∧ h.Raises (.served id) h' ∧
    (h.options.matchesCountOnly = false →
      ∃ record, (h'.matchRecords id).getLast? = some record ∧ record.response.status = 500)

/-- The outcome of rendering the response to a match. -/
def rendered (s : Server) (now : Time.Instant) (request : Http.Request) (pending : PendingMatch) :
    Except RenderError Rendered × Resources :=
  runFrom (pending.snapshot.templates.render now
    (RequestData.ofRequest request pending.matched.params).toJson pending.matched.endpoint.id)
    s.resources

variable {s : Server} {now : Time.Instant} {request : Http.Request} {pending : PendingMatch}

theorem resources_recordMatch (s : Server) (now : Time.Instant) (id : String) (request : Http.Request)
    (response : Http.Response) : (s.recordMatch now id request response).resources = s.resources := by
  unfold recordMatch
  split <;> rfl

theorem resources_respond :
    (s.respond now request pending).1.resources = (s.rendered now request pending).2 :=
  resources_recordMatch ..

theorem showsFailure_respond {stage : Stage} {reason : RenderReason} {left : Resources}
    (failed : s.rendered now request pending =
      (.error ⟨pending.matched.endpoint.id, stage, reason⟩, left)) :
    s.ShowsFailure pending.matched.endpoint.id stage reason left (s.respond now request pending) := by
  let id := pending.matched.endpoint.id
  -- of a failed rendering nothing is sent but the text of the error
  have text : (s.respond now request pending).2 =
      .text 500 (pending.snapshot.baseHeaders id) (RenderError.message ⟨id, stage, reason⟩) := by
    show Http.Response.ofRendering _ _ (s.rendered now request pending).1 = _
    rw [failed]
    exact Http.Response.ofRendering_of_failsWith (.rendering _)
  refine ⟨by rw [text]; rfl, by rw [text]; rfl, by rw [resources_respond, failed],
    snapshot_respond .., fun h held => ?_⟩
  obtain ⟨h', after, raises⟩ := raises_respond held now request pending
  refine ⟨h', after, raises, fun keeps => ?_⟩
  have recorded := history_recordMatch (s := { s with resources := (s.rendered now request pending).2 })
    held keeps now id request (s.respond now request pending).2
  cases after.symm.trans recorded
  exact ⟨_, h.getLast?_addMatch .., by rw [text]; rfl⟩

/-- The response of a compiled endpoint is rendered stage by stage: headers, status and body, each from
the documents that the one before has left.  It succeeds when all three are through, with a status of
three digits; else the error is that of the first stage that fails, and the documents stay as this stage
has left them.  A server answers such an error with status 500 and the name of the stage, counts it as a
match of the endpoint, records it as such if it keeps records, and serves other requests as before. -/
theorem stages_of_respond {set set' : TemplateSet} {files : Files} {es : List Endpoint} {e : Endpoint}
    (compiled : set.compileAll files es = .ok set') (inList : e ∈ es) :
    (∀ now data r,
      (∃ x r', runFrom (set'.render now data e.id) r = (.ok x, r') ∧
        set'.Renders now data e.id x Stage.order r r' ∧ 100 ≤ x.status ∧ x.status ≤ 999) ∨
      ∃ stage reason r', runFrom (set'.render now data e.id) r = (.error ⟨e.id, stage, reason⟩, r') ∧
        set'.FailsFirst now data e.id r stage reason r') ∧
    ∀ (s : Server) now (pending : PendingMatch),
      pending.snapshot.templates = set' → pending.matched.endpoint = e →
      (∀ request, (s.respond now request pending).1.resources = (s.rendered now request pending).2 ∧
        ∀ stage reason r', s.rendered now request pending = (.error ⟨e.id, stage, reason⟩, r') →
          s.ShowsFailure e.id stage reason r' (s.respond now request pending)) ∧
      ∀ message, s.below? message = none → pending.snapshot = s.snapshot →
        s.snapshot.registry.findMatch (.capture message) = .ok pending.matched →
        s.handle now message = s.respond now (.capture message) pending := by
  have hasStatus := TemplateSet.isSome_status_compileAll compiled inList
  refine ⟨fun now data r => ?_, fun s now pending _ isServed => ?_⟩
  · rcases TemplateSet.render_cases hasStatus now data r with ⟨x, r', ran, renders⟩ | failed
    · obtain ⟨text, least, greatest, _⟩ : ∃ text, IsStatus text x.status :=
        renders.exists_isStatus (by decide)
      exact .inl ⟨x, r', ran, renders, least, greatest⟩
    · exact .inr failed
  · subst isServed
    refine ⟨fun request => ⟨resources_respond, fun stage reason r' => showsFailure_respond⟩,
      fun message notAdmin isInForce found => ?_⟩
    obtain ⟨snapshot, matched⟩ := pending
    cases isInForce
    rw [handle, receive_of_found notAdmin found]

/-- A page whose headers and body put a document, and whose status is none. -/
def countingPage : Endpoint :=
  { page "a" "x" with response := {
      status := "x"
      headers := some "\x7b\x7bkv_put 'seen' '1'\x7d\x7d"
      body := some "\x7b\x7bkv_put 'seen' '2'\x7d\x7d"
      bodyFile := none } }

def countingSnapshot : Snapshot where
  registry := .ofList [countingPage]
  templates := ((TemplateSet.empty ["a"] none).compile noFiles countingPage).1
  settings := .default
  idHeader := "id"

/-- The document that the headers have put stays when the status fails, for the body is not rendered. -/
theorem stages_of_respond_seen :
    let pending : PendingMatch := ⟨countingSnapshot, ⟨countingPage, []⟩⟩
    let data := (RequestData.ofRequest (.plain "GET" "/") []).toJson
    let left : Resources := ⟨.held (Documents.put [] "seen" "1"), 0⟩
    pending.snapshot.templates.FailsFirst ⟨0, 0⟩ data "a" ⟨.empty, 0⟩ .status (.notAStatus "x") left ∧
      pageServer.ShowsFailure "a" .status (.notAStatus "x") left
        (pageServer.respond ⟨0, 0⟩ (.plain "GET" "/") pending) := by
  intro pending data left
  have compiled : (TemplateSet.empty ["a"] none).compileAll noFiles [countingPage] =
      .ok pending.snapshot.templates := by cbv
  have failed (data : Json) : runFrom (pending.snapshot.templates.render ⟨0, 0⟩ data "a") ⟨.empty, 0⟩ =
      (.error ⟨"a", .status, .notAStatus "x"⟩, left) := by cbv
  obtain ⟨stages, served⟩ := stages_of_respond compiled (List.mem_singleton_self countingPage)
  refine ⟨?_, ((served pageServer ⟨0, 0⟩ pending rfl rfl).1 (.plain "GET" "/")).2 _ _ _ (failed data)⟩
  rcases stages ⟨0, 0⟩ data ⟨.empty, 0⟩ with ⟨x, r', ran, _⟩ | ⟨stage, reason, r', ran, failsFirst⟩
  · cases (failed data).symm.trans ran
  · cases (failed data).symm.trans ran
    exact failsFirst

end Server

end StubServer
