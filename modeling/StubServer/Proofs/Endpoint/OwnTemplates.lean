import StubServer.Proofs.Endpoint.Stages
import StubServer.Proofs.Template.Inclusions

/-! # Own templates

All endpoints keep their templates in one set, under names that no two of them share.  So the response
of an endpoint is made of its own templates, whatever others there are: it is the one that a set would
give into which nothing but this endpoint has been compiled, unless one of the templates includes a
template of another endpoint by its name (`TemplateSet.render_own`).
-/

namespace StubServer

open Template (runFrom runFrom_bind)

namespace TemplateSet

/-! ## Compiling alone -/

section Alone

variable {set set' : TemplateSet} {files : Files} {e : Endpoint} {es : List Endpoint}

theorem register_congr (id : String) (texts : List (Stage × String)) :
    (set.register id texts).2 = (set'.register id texts).2 := by
  induction texts generalizing set set' with
  | nil => rfl
  | cons row rest ih =>
    obtain ⟨stage, text⟩ := row
    rw [register_cons, register_cons]
    split
    · rfl
    · exact ih

/-- Whether an endpoint can be compiled does not depend on what has been compiled before. -/
theorem compile_congr (same : set.bodyFilesDir = set'.bodyFilesDir) :
    (set.compile files e).2 = (set'.compile files e).2 := by
  have sameText : set.bodyText files e = set'.bodyText files e := by rw [bodyText, bodyText, same]
  unfold compile
  rw [sameText]
  split
  · rfl
  · exact register_congr ..

theorem compile_of_compileAll (compiled : set.compileAll files es = .ok set') (inList : e ∈ es) :
    (set.compile files e).2 = .ok () := by
  induction es generalizing set with
  | nil => cases inList
  | cons first rest ih =>
    obtain ⟨one, others⟩ := compileAll_cons_eq_ok_iff.1 compiled
    rcases List.mem_cons.1 inList with rfl | inRest
    · exact one
    · rw [← ih others inRest]
      exact compile_congr sameBesides_compile.bodyFilesDir.symm

end Alone

/-! ## Rendering in another set -/

section Rendering

variable {set set' : TemplateSet} {now : Time.Instant} {data : Json} {id : String} {r : Resources}

theorem runFrom_renderHeaders_congr
    (same : set.output now data id .headers r = set'.output now data id .headers r) :
    runFrom (set.renderHeaders now data id) r = runFrom (set'.renderHeaders now data id) r := by
  rw [renderHeaders, renderHeaders, runFrom_bind, runFrom_bind, runFrom_renderStage,
    runFrom_renderStage, same]

theorem runFrom_renderStatus_congr
    (same : set.output now data id .status r = set'.output now data id .status r) :
    runFrom (set.renderStatus now data id) r = runFrom (set'.renderStatus now data id) r := by
  rw [renderStatus, renderStatus, runFrom_bind, runFrom_bind, runFrom_renderStage,
    runFrom_renderStage, same]

/-- The rendering is the same in both sets if each stage is that is come to. -/
theorem render_congr (compiled : (Table.get? set.templates (templateName id .status)).isSome)
    (same : ∀ x before stage after middle, Stage.order = before ++ stage :: after →
      set.Renders now data id x before r middle →
      set.output now data id stage middle = set'.output now data id stage middle) :
    runFrom (set.render now data id) r = runFrom (set'.render now data id) r := by
  rw [render, render, runFrom_bind, runFrom_bind]
  -- parts of the response that are still to come are left empty
  rw [← runFrom_renderHeaders_congr (same ⟨0, [], ""⟩ [] .headers _ r rfl .nil)]
  rcases headers_cases r with ⟨rows, r₁, ran, headers⟩ | ⟨reason, r₁, ran, _⟩
  · rw [ran]
    dsimp only
    rw [runFrom_bind, runFrom_bind, ← runFrom_renderStatus_congr
      (same ⟨0, rows, ""⟩ [.headers] .status _ r₁ rfl (headers _ rfl))]
    rcases status_cases compiled r₁ with ⟨code, r₂, ran, status⟩ | ⟨reason, r₂, ran, _⟩
    · rw [ran]
      dsimp only
      have both : set.Renders now data id ⟨code, rows, ""⟩ [.headers, .status] r r₂ :=
        (headers _ rfl).append (status _ rfl)
      rw [runFrom_bind, runFrom_bind, runFrom_renderStage, runFrom_renderStage,
        same _ [.headers, .status] .body _ r₂ rfl both]
    · rw [ran]
  · rw [ran]

end Rendering

/-! ## Templates of others -/

/-- The name is that of a template, but of none that belongs to the endpoint. -/
def isForeign (set : TemplateSet) (id name : String) : Bool :=
  (Table.get? set.templates name).isSome && !(Stage.order.map (templateName id)).contains name

/-- In one of the stages that it comes to, the response of the endpoint includes a template that is not
its own. -/
def IncludesForeign (set : TemplateSet) (now : Time.Instant) (data : Json) (id : String)
    (r : Resources) : Prop :=
  ∃ x before stage after middle t, Stage.order = before ++ stage :: after ∧
    set.Renders now data id x before r middle ∧
    Table.get? set.templates (templateName id stage) = some t ∧
    t.Includes ⟨data, set.endpointIds, set.templates, now⟩ (set.isForeign id) middle.store middle.chance

section Own

variable {set alone : TemplateSet} {now : Time.Instant} {data : Json} {id : String} {r : Resources}

/-- The other set has the templates of the endpoint, and no others. -/
structure OnlyOwn (set : TemplateSet) (id : String) (alone : TemplateSet) : Prop where
  endpointIds : alone.endpointIds = set.endpointIds
  own : ∀ stage, Table.get? alone.templates (templateName id stage) =
    Table.get? set.templates (templateName id stage)
  others : ∀ name, (∀ stage, templateName id stage ≠ name) → Table.get? alone.templates name = none

theorem OnlyOwn.get?_eq (onlyOwn : set.OnlyOwn id alone) {name : String}
    (notForeign : set.isForeign id name = false) :
    Table.get? alone.templates name = Table.get? set.templates name := by
  by_cases isOwn : ∃ stage, templateName id stage = name
  · obtain ⟨stage, rfl⟩ := isOwn
    exact onlyOwn.own stage
  · have noStage : ∀ stage, templateName id stage ≠ name := fun stage same => isOwn ⟨stage, same⟩
    have notAmong : name ∉ Stage.order.map (templateName id) := by
      rw [List.mem_map]
      rintro ⟨stage, _, same⟩
      exact noStage stage same
    have absent : Table.get? set.templates name = none := by
      simpa [isForeign, notAmong] using notForeign
    rw [onlyOwn.others name noStage, absent]

theorem OnlyOwn.output_eq (onlyOwn : set.OnlyOwn id alone) {stage : Stage}
    (notIncluded : ∀ t, Table.get? set.templates (templateName id stage) = some t →
      ¬ t.Includes ⟨data, set.endpointIds, set.templates, now⟩ (set.isForeign id) r.store r.chance) :
    set.output now data id stage r = alone.output now data id stage r := by
  rw [output, output, onlyOwn.own, onlyOwn.endpointIds]
  cases found : Table.get? set.templates (templateName id stage) with
  | none => rfl
  | some t =>
    have sameOthers : ∀ name, set.isForeign id name = false →
        Table.get? alone.templates name = Table.get? set.templates name := fun name => onlyOwn.get?_eq
    have same := Template.render_of_not_includes sameOthers (notIncluded t found)
    rw [Template.Environment.withTemplates] at same
    dsimp only at same ⊢
    rw [same]

theorem OnlyOwn.render_eq (onlyOwn : set.OnlyOwn id alone)
    (compiled : (Table.get? set.templates (templateName id .status)).isSome)
    (notIncluded : ¬ set.IncludesForeign now data id r) :
    runFrom (set.render now data id) r = runFrom (alone.render now data id) r := by
  refine render_congr compiled fun x before stage after middle isSplit renders => ?_
  refine onlyOwn.output_eq fun t found includes => ?_
  exact notIncluded ⟨x, before, stage, after, middle, t, isSplit, renders, found, includes⟩

end Own

theorem exists_onlyOwn {files : Files} {ids : List String} {dir : Option String} {es : List Endpoint}
    {set : TemplateSet} {e : Endpoint} (distinct : (es.map (·.id)).Nodup)
    (compiled : (empty ids dir).compileAll files es = .ok set) (inList : e ∈ es) :
    ∃ alone, (empty ids dir).compileAll files [e] = .ok alone ∧ set.OnlyOwn e.id alone := by
  have one : ((empty ids dir).compile files e).2 = .ok () := compile_of_compileAll compiled inList
  have compiledAlone : (empty ids dir).compileAll files [e] = .ok ((empty ids dir).compile files e).1 :=
    compileAll_cons_eq_ok_iff.2 ⟨one, rfl⟩
  refine ⟨_, compiledAlone, ?_, fun stage => ?_, fun name noStage => ?_⟩
  · rw [(sameBesides_compileAll compiled).endpointIds,
      (sameBesides_compileAll compiledAlone).endpointIds]
  · have distinctAlone : ([e].map (·.id)).Nodup := List.nodup_singleton e.id
    rw [get?_compileAll distinct (fun _ _ _ => rfl) compiled inList,
      get?_compileAll distinctAlone (fun _ _ _ => rfl) compiledAlone (List.mem_singleton_self e)]
  · rw [get?_compile_other noStage]
    rfl

/-- Endpoints with distinct ids have been compiled into one set, in any order.  Then each of them could
be compiled into a set of its own, and unless its response comes to include a template of another
endpoint, it is the same in both and leaves the same documents; and a stage for which it declares no
template has none. -/
theorem render_own {files : Files} {ids : List String} {dir : Option String} {es : List Endpoint}
    {set : TemplateSet} (distinct : (es.map (·.id)).Nodup)
    (compiled : (empty ids dir).compileAll files es = .ok set) {e : Endpoint} (inList : e ∈ es) :
    ∃ alone, (empty ids dir).compileAll files [e] = .ok alone ∧
      (∀ now data r, ¬ set.IncludesForeign now data e.id r →
        (set.render now data e.id).run r = (alone.render now data e.id).run r) ∧
      ∀ stage, e.response.text? files dir stage = none →
        ∀ now data r, (set.renderStage now data e.id stage).run r = (.ok none, r) := by
  obtain ⟨alone, compiledAlone, onlyOwn⟩ := exists_onlyOwn distinct compiled inList
  refine ⟨alone, compiledAlone, fun now data r => ?_, fun stage declaresNone now data r => ?_⟩
  · exact onlyOwn.render_eq (isSome_status_compileAll compiled inList)
  · have absent : Table.get? set.templates (templateName e.id stage) = none := by
      rw [get?_compileAll distinct (fun _ _ _ => rfl) compiled inList, own?]
      exact (congrArg (Option.bind · _) declaresNone)
    rw [renderStage, absent]
    rfl

/-- An endpoint that is reached under `/entry`. -/
def entry (id : String) (response : Config.ResponseDefinition) : Endpoint where
  id := id
  priority := 0
  mock := "entries"
  request := ⟨none, none, "GET", "/entry",
    ⟨[.literal "entry"], by simp [Route.Segment.WellFormed, Route.Segment.isBrace]⟩, [], [], none⟩
  response := response

/-- The ids of these two endpoints differ by the name of a stage, and the first declares no body. -/
def neighbours : List Endpoint :=
  [entry "a" ⟨"200", none, none, none⟩, entry "a#body" ⟨"404", some "b: c", some "d", none⟩]

def neighbourSet : TemplateSet where
  templates := Table.ofList [("a#status", .mk (some "a#status") [(none, .text "200")]),
    ("a#body#status", .mk (some "a#body#status") [(none, .text "404")]),
    ("a#body#headers", .mk (some "a#body#headers") [(none, .text "b: c")]),
    ("a#body#body", .mk (some "a#body#body") [(none, .text "d")])]
  endpointIds := ["a", "a#body"]
  bodyFilesDir := none

/-- What the second endpoint declares is not taken for the body of the first. -/
theorem render_own_neighbours :
    let files : Files := ⟨fun _ => .error .notFound⟩
    (empty ["a", "a#body"] none).compileAll files neighbours = .ok neighbourSet ∧
      ∃ alone, (empty ["a", "a#body"] none).compileAll files (neighbours.take 1) = .ok alone ∧
      (∀ data r, (neighbourSet.render ⟨0, 0⟩ data "a").run r = (alone.render ⟨0, 0⟩ data "a").run r) ∧
      ∀ data r, (neighbourSet.renderStage ⟨0, 0⟩ data "a" .body).run r = (.ok none, r) := by
  intro files
  have compiled : (empty ["a", "a#body"] none).compileAll files neighbours = .ok neighbourSet := by rfl
  obtain ⟨alone, compiledAlone, same, absent⟩ :=
    render_own (by decide) compiled (List.mem_cons_self ..)
  refine ⟨compiled, alone, compiledAlone, fun data r => same _ data r ?_,
    fun data r => absent .body (by rfl) _ data r⟩
  rintro ⟨x, before, stage, after, middle, t, _, _, found, includes⟩
  -- the one template is a text, which stops for nothing
  have templates : Table.get? neighbourSet.templates (templateName "a" stage) =
      if stage = .status then some (.mk (some "a#status") [(none, .text "200")]) else none := by
    cases stage <;> rfl
  rw [show Table.get? neighbourSet.templates (templateName "a" stage) = some t from found] at templates
  split at templates
  · cases templates
    obtain ⟨failure, s', stops, _⟩ := includes .tooDeep
    cases stops
  · cases templates

end TemplateSet

end StubServer
