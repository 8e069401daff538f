import StubServer.Config.Validate
import StubServer.Proofs.Endpoint.Writing
import StubServer.Proofs.Server.Isolation

/-! # The label of a response

The response to a request that has been matched names the endpoint in a header of its own, the label,
which is there before anything is rendered.  What is rendered comes behind it, and a failure to render
leaves it alone as well, unless the label is kept in the content type: a failure is sent as plain text,
and its content type takes the place of the label (`labelled_after`).  Validation asks only that the
name of the label is one that a header can have.
-/

namespace StubServer

namespace Snapshot

variable {s : Snapshot} {id : String}

theorem head?_values_baseHeaders (isValue : Http.isHeaderValue id = true) :
    ((s.baseHeaders id).values s.idHeader).head? = some id := by
  rw [baseHeaders, if_pos isValue]
  simp [Http.Headers.values]

/-- What rendering comes to for a request that has been matched. -/
def rendering (s : Snapshot) (now : Time.Instant) (request : Http.Request) (matched : Route.Matched)
    (resources : Resources) : Except RenderError Rendered :=
  let data := (RequestData.ofRequest request matched.params).toJson
  ((s.templates.render now data matched.endpoint.id).run resources).1

theorem respond_eq (s : Snapshot) (now : Time.Instant) (request : Http.Request)
    (matched : Route.Matched) (resources : Resources) :
    (s.respond now request matched resources).1 =
      .ofRendering (s.baseHeaders matched.endpoint.id) matched.endpoint.id
        (s.rendering now request matched resources) := rfl

/-- The response has the label of the snapshot, and its first value is the id. -/
def Labels (s : Snapshot) (response : Http.Response) (id : String) : Prop :=
  (response.headers.values s.idHeader).head? = some id

theorem labels_respond_iff {now : Time.Instant} {request : Http.Request} {matched : Route.Matched}
    {resources : Resources} (isValue : Http.isHeaderValue matched.endpoint.id = true) :
    s.Labels (s.respond now request matched resources).1 matched.endpoint.id ↔
      s.idHeader ≠ "content-type" ∨
      (∃ r, s.rendering now request matched resources = .ok r ∧ r.Sendable) ∨
      matched.endpoint.id = "text/plain; charset=utf-8" := by
  rw [Labels, respond_eq]
  exact Http.Response.head?_values_ofRendering (head?_values_baseHeaders isValue)

end Snapshot

namespace Traffic

/-- In any run, a response is labelled with the id of the endpoint that was matched, under the name that
the configuration at the match gives to the label; rendering may have succeeded, failed in any of its
stages or come to what no header can be.  The one exception is a label in the content type: there the
failures replace it, if it is not the very text that they put there. -/
theorem labelled_after {files : Files} {config : Config} {history : History.Store}
    {resources : Resources} {server : Server}
    (started : Server.start files config history resources = .ok server) (events : List Event)
    (e : Event) {id : String} {response : Http.Response}
    (served : ((ofServer server).after events).observe e = .served id response)
    (isValue : Http.isHeaderValue id = true) :
    let start := ofServer server
    let present := (start.after events).server.resources
    (∃ before m, MatchedBy start events e before m) ∧
    ∀ before m, MatchedBy start events e before m →
      let configured := (start.lastBuilt ⟨files, config, 0⟩ before).config
      let snapshot := (start.after before).server.snapshot
      Http.headerName? configured.settings.endpointIdHeader = some snapshot.idHeader ∧
      ∃ request matched, AnsweredFrom snapshot present m e id response request matched ∧
        (snapshot.Labels response id ↔
          snapshot.idHeader ≠ "content-type" ∨
          (∃ r, snapshot.rendering e.now (e.action.answered request) matched present = .ok r ∧
            r.Sendable) ∨
          id = "text/plain; charset=utf-8") := by
  intro start present
  refine ⟨exists_matchedBy rfl served, fun before m matchedBy => ?_⟩
  have inForce : Source.build ⟨files, config, 0⟩ = .ok start.server.snapshot :=
    (Server.start_eq_ok started).1
  obtain ⟨endpoints, builtFrom⟩ := Snapshot.builtFrom_of_build (build_after inForce before)
  obtain ⟨request, matched, answered⟩ := answeredFrom_of_matchedBy matchedBy served
  refine ⟨builtFrom.idHeader, request, matched, answered, ?_⟩
  have isMatched : id = matched.endpoint.id := answered.id_eq
  subst isMatched
  rw [answered.response_eq]
  exact Snapshot.labels_respond_iff isValue

/-! ## A page that cannot be rendered -/

/-- The page of this server has a status that is none. -/
def failingServer (header : String) : Server :=
  { pageServer with snapshot := pageSnapshot "a" header "x" }

def askForPage : Event := ⟨⟨0, 0⟩, .matchRequest (.plain "GET" "/")⟩

def respondToPage : Event := ⟨⟨1, 0⟩, .respond 0 (.plain "GET" "/")⟩

/-- What the server sends instead of the page. -/
def failedPage (header : String) : Http.Response :=
  .text 500 [(header, "a")] (RenderError.message ⟨"a", .status, .notAStatus "x"⟩)

theorem observe_failing (header : String) :
    ((ofServer (failingServer header)).after [askForPage]).observe respondToPage =
      .served "a" (failedPage header) := by
  have waits : ((ofServer (failingServer header)).after [askForPage]).waitingAt 0 =
      some ⟨.plain "GET" "/", pageSnapshot "a" header "x", ⟨page "a" "x", []⟩⟩ := by cbv
  have failed (data : Json) (resources : Resources) :
      ((pageSnapshot "a" header "x").templates.render ⟨1, 0⟩ data "a").run resources =
        (.error ⟨"a", .status, .notAStatus "x"⟩, resources) := by cbv
  rw [observe_of_place rfl, waits]
  simp only [Snapshot.respond]
  rw [show (page "a" "x").id = "a" from rfl, show respondToPage.now = ⟨1, 0⟩ from rfl, failed]
  rfl

/-- A response that could not be rendered has its label. -/
theorem labelled_after_failure :
    ((ofServer (failingServer "id")).after [askForPage]).observe respondToPage =
        .served "a" (failedPage "id") ∧
      Http.isHeaderValue "a" = true ∧ ((failedPage "id").headers.values "id").head? = some "a" := by
  have started : Server.start noFiles (onePage "a" "id" "x") (.ofOptions .default) ⟨.empty, 0⟩ =
      .ok (failingServer "id") := by cbv
  have isValue : Http.isHeaderValue "a" = true := by decide
  have held : (ofServer (failingServer "id")).observe askForPage = .held 0 := by cbv
  obtain ⟨_, labelled⟩ :=
    labelled_after started [askForPage] respondToPage (observe_failing "id") isValue
  obtain ⟨_, _, _, _, labels⟩ := labelled [] askForPage (.earlier rfl held rfl)
  exact ⟨observe_failing "id", isValue, labels.2 (.inl (by decide))⟩

/-- A configuration that passes validation puts the label into the content type; the response to a
request that was matched has another content type when its status cannot be rendered. -/
theorem labelled_after_replaced :
    (onePage "a" "content-type" "x").validate = .ok () ∧
      Server.start noFiles (onePage "a" "content-type" "x") (.ofOptions .default) ⟨.empty, 0⟩ =
        .ok (failingServer "content-type") ∧
      Http.isHeaderValue "a" = true ∧
      ((ofServer (failingServer "content-type")).after [askForPage]).observe respondToPage =
        .served "a" (failedPage "content-type") ∧
      (failedPage "content-type").headers.values "content-type" = ["text/plain; charset=utf-8"] :=
  ⟨by cbv, by cbv, by decide, observe_failing _, by decide⟩

end Traffic

end StubServer
