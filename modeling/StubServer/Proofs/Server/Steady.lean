import StubServer.Proofs.Endpoint.Stages
import StubServer.Server.Snapshot

/-! # Steady responses

When the templates of an endpoint are steady, its response to a matched request depends on the stored
documents and on nothing else that is outside of the snapshot: the time and the source of drawn
numbers change neither the response nor the documents that it leaves (`Snapshot.respond_steady`).
-/

namespace StubServer

open Template (AgreeOn SteadyAmong agree_bind agree_pure agree_throw)

/-- The resources differ in the source of drawn numbers alone. -/
def SameStore (a b : Resources) : Prop := a.store = b.store

namespace TemplateSet

/-- The templates of the endpoint with this id are steady. -/
def SteadyFor (set : TemplateSet) (id : String) : Prop :=
  ∀ stage t, Table.get? set.templates (templateName id stage) = some t → SteadyAmong set.templates t

section Rendering

variable {set : TemplateSet} {id : String} (steady : set.SteadyFor id) (now now' : Time.Instant)
  (data : Json)

include steady

theorem agree_renderStage (stage : Stage) :
    AgreeOn SameStore (set.renderStage now data id stage) (set.renderStage now' data id stage) := by
  cases found : Table.get? set.templates (templateName id stage) with
  | none =>
    unfold renderStage
    rw [found]
    exact agree_pure none
  | some t =>
    intro a b same
    obtain ⟨stores, results⟩ := Template.render_steady ⟨data, set.endpointIds, set.templates, now⟩ now'
      (steady stage t found) a.store a.chance b.chance
    rw [runFrom_renderStage, runFrom_renderStage, output, output, found, ← same]
    dsimp only
    generalize t.render ⟨data, set.endpointIds, set.templates, now⟩ a.store a.chance = left
      at stores results
    generalize t.render ⟨data, set.endpointIds, set.templates, now'⟩ a.store b.chance = right
      at stores results
    obtain ⟨store, chance, result⟩ := left
    obtain ⟨store', chance', result'⟩ := right
    cases stores
    cases results
    cases result with
    | ok text => exact ⟨rfl, rfl⟩
    | error failure => exact ⟨rfl, rfl⟩

theorem agree_render : AgreeOn SameStore (set.render now data id) (set.render now' data id) := by
  unfold render renderHeaders renderStatus
  refine agree_bind (agree_bind (agree_renderStage steady now now' data .headers) fun block? => ?_)
    fun headers => ?_
  · cases block? with
    | none => exact agree_pure []
    | some block =>
      dsimp only
      cases readHeaderBlock block with
      | ok headers => exact agree_pure headers
      | error reason => exact agree_throw _
  refine agree_bind (agree_bind (agree_renderStage steady now now' data .status) fun text? => ?_)
    fun status => ?_
  · cases text? with
    | none => exact agree_throw _
    | some text =>
      dsimp only
      cases readStatus? text with
      | some status => exact agree_pure status
      | none => exact agree_throw _
  refine agree_bind (agree_renderStage steady now now' data .body) fun body => ?_
  exact agree_pure _

end Rendering

end TemplateSet

/-- Neither the time nor the source of drawn numbers shows in the response, or in the documents. -/
theorem Snapshot.respond_steady {s : Snapshot} {matched : Route.Matched}
    (steady : s.templates.SteadyFor matched.endpoint.id) (now now' : Time.Instant)
    (request : Http.Request) (store : DocumentStore) (chance chance' : Nat) :
    (s.respond now request matched ⟨store, chance⟩).1 =
        (s.respond now' request matched ⟨store, chance'⟩).1 ∧
      (s.respond now request matched ⟨store, chance⟩).2.store =
        (s.respond now' request matched ⟨store, chance'⟩).2.store := by
  obtain ⟨same, stores⟩ := TemplateSet.agree_render steady now now'
    (RequestData.ofRequest request matched.params).toJson
    ⟨store, chance⟩ ⟨store, chance'⟩ rfl
  exact ⟨congrArg (Http.Response.ofRendering _ _) same, stores⟩

end StubServer
