import StubServer.Endpoint.Templates

/-! # Compiled templates

Templates are kept under a name that is made of the id of the endpoint and of the stage, and no two
pairs of these make the same name, whatever characters the ids have (`templateName_injective`).  So in
a set into which endpoints with distinct ids have been compiled, each endpoint has exactly the
templates that it declares (`get?_compileAll`).
-/

namespace StubServer

/-! ## Texts of templates -/

/-- The text can be read as a template. -/
def Template.IsTemplate (text : String) : Prop := ∃ t, Tree.parse? "" text = some t

/-- Under which name a text is read makes no difference to whether it can be. -/
theorem Template.exists_parse?_iff {name text : String} :
    (∃ t, Tree.parse? name text = some t) ↔ IsTemplate text := by
  unfold IsTemplate Tree.parse?
  cases Pieces.read? text with
  | none => simp
  | some pieces =>
    simp only [Option.bind_some, Tree.ofItems?]
    rcases readElements (2 * pieces.layOut.length + 2) pieces.layOut with _ | ⟨elements, _ | _⟩ <;> simp

namespace Config.ResponseDefinition

/-- The text of the template that a response declares for a stage; that of the body may be in a file. -/
def text? (r : ResponseDefinition) (files : Files) (dir : Option String) : Stage → Option String
  | .status => some r.status
  | .headers => r.headers
  | .body =>
    r.body.or (r.bodyFile.bind fun file => (files.readText (TemplateSet.bodyPath dir file)).toOption)

end Config.ResponseDefinition

/-! ## Names -/

theorem Stage.name_suffix {a b : List Char} {stage stage' : Stage}
    (same : a ++ stage.name.toList = b ++ stage'.name.toList) : stage = stage' := by
  have reversed : stage.name.toList.reverse ++ a.reverse = stage'.name.toList.reverse ++ b.reverse := by
    rw [← List.reverse_append, same, List.reverse_append]
  -- the last two characters tell the stages apart
  cases stage <;> cases stage' <;> first | rfl | simp [Stage.name] at reversed

namespace TemplateSet

theorem templateName_injective {id id' : String} {stage stage' : Stage}
    (same : templateName id stage = templateName id' stage') : id = id' ∧ stage = stage' := by
  have sameStage : stage = stage' := by
    have chars := congrArg String.toList same
    simp only [templateName, String.toList_append] at chars
    exact Stage.name_suffix chars
  subst sameStage
  exact ⟨(String.append_left_inj _).1 ((String.append_left_inj _).1 same), rfl⟩

/-! ## One endpoint -/

/-- The template that an endpoint declares for a stage. -/
def own? (files : Files) (dir : Option String) (e : Endpoint) (stage : Stage) :
    Option Template.Tree :=
  (e.response.text? files dir stage).bind (Template.Tree.parse? (templateName e.id stage))

/-- All that the sets can differ in is the templates. -/
structure SameBesides (set set' : TemplateSet) : Prop where
  endpointIds : set'.endpointIds = set.endpointIds
  bodyFilesDir : set'.bodyFilesDir = set.bodyFilesDir

section Register

variable {set set' : TemplateSet} {id : String} {texts : List (Stage × String)}

theorem register_cons {stage : Stage} {text : String} :
    set.register id ((stage, text) :: texts) =
      match Template.Tree.parse? (templateName id stage) text with
      | none => (set, .error (.invalidTemplate id stage))
      | some t =>
        let templates := Table.insert set.templates (templateName id stage) t
        register { set with templates := templates } id texts :=
  rfl

theorem sameBesides_register : SameBesides set (set.register id texts).1 := by
  induction texts generalizing set with
  | nil => exact ⟨rfl, rfl⟩
  | cons row rest ih =>
    obtain ⟨stage, text⟩ := row
    rw [register_cons]
    split
    · exact ⟨rfl, rfl⟩
    · exact ⟨ih.endpointIds, ih.bodyFilesDir⟩

/-- The templates of other stages and other ids stay as they are. -/
theorem get?_register_other {name : String} (other : ∀ row ∈ texts, templateName id row.1 ≠ name) :
    Table.get? (set.register id texts).1.templates name = Table.get? set.templates name := by
  induction texts generalizing set with
  | nil => rfl
  | cons row rest ih =>
    obtain ⟨stage, text⟩ := row
    obtain ⟨here, later⟩ := List.forall_mem_cons.1 other
    rw [register_cons]
    split
    · rfl
    · rw [ih later]
      exact (Table.get?_insert ..).trans (if_neg here)

theorem get?_register_of_mem (distinct : (texts.map (·.1)).Nodup)
    (registered : (set.register id texts).2 = .ok ()) {stage : Stage} {text : String}
    (inList : (stage, text) ∈ texts) :
    Table.get? (set.register id texts).1.templates (templateName id stage) =
      Template.Tree.parse? (templateName id stage) text := by
  induction texts generalizing set with
  | nil => cases inList
  | cons row rest ih =>
    obtain ⟨first, firstText⟩ := row
    rw [List.map_cons, List.nodup_cons] at distinct
    rw [register_cons] at registered ⊢
    cases parsed : Template.Tree.parse? (templateName id first) firstText with
    | none =>
      rw [parsed] at registered
      cases registered
    | some t =>
      rw [parsed] at registered
      rcases List.mem_cons.1 inList with isFirst | later
      · cases isFirst
        -- none of the later texts is for this stage
        have other : ∀ row ∈ rest, templateName id row.1 ≠ templateName id stage := by
          intro row inRest same
          exact distinct.1 (List.mem_map.2 ⟨row, inRest, (templateName_injective same).2⟩)
        exact (get?_register_other other).trans <| (Table.get?_insert ..).trans <|
          (if_pos rfl).trans parsed.symm
      · exact ih distinct.2 registered later

/-- Under a name that a template has been kept under, one is kept. -/
theorem isSome_get?_register {name : String} (isKept : (Table.get? set.templates name).isSome) :
    (Table.get? (set.register id texts).1.templates name).isSome := by
  induction texts generalizing set with
  | nil => exact isKept
  | cons row rest ih =>
    obtain ⟨stage, text⟩ := row
    rw [register_cons]
    split
    · exact isKept
    · refine ih ?_
      rw [Table.get?_insert]
      split
      · rfl
      · exact isKept

theorem isSome_get?_register_of_mem (registered : (set.register id texts).2 = .ok ())
    {stage : Stage} {text : String} (inList : (stage, text) ∈ texts) :
    (Table.get? (set.register id texts).1.templates (templateName id stage)).isSome := by
  induction texts generalizing set with
  | nil => cases inList
  | cons row rest ih =>
    obtain ⟨first, firstText⟩ := row
    rw [register_cons] at registered ⊢
    cases parsed : Template.Tree.parse? (templateName id first) firstText with
    | none =>
      rw [parsed] at registered
      cases registered
    | some t =>
      rw [parsed] at registered
      rcases List.mem_cons.1 inList with isFirst | later
      · cases isFirst
        refine isSome_get?_register ?_
        rw [Table.get?_insert, if_pos rfl]
        rfl
      · exact ih registered later

end Register

section Compile

variable {set set' : TemplateSet} {files : Files} {e : Endpoint} {body : Option String}

/-- The text of the body is what the response declares for this stage. -/
theorem text?_body (found : set.bodyText files e = .ok body) :
    e.response.text? files set.bodyFilesDir .body = body := by
  unfold bodyText at found
  unfold Config.ResponseDefinition.text?
  split at found
  · cases found
  · next isBody _ =>
    cases found
    rw [isBody]
    rfl
  · next noBody isFile =>
    dsimp only at found
    split at found
    · next text isRead =>
      cases found
      rw [noBody, isFile, Option.none_or, Option.bind_some, isRead]
      rfl
    · cases found
  · next noBody noFile =>
    cases found
    rw [noBody, noFile]
    rfl

theorem mem_declared_iff (found : set.bodyText files e = .ok body) {stage : Stage} {text : String} :
    (stage, text) ∈ declared e body ↔ e.response.text? files set.bodyFilesDir stage = some text := by
  cases stage with
  | status => simp [declared, Config.ResponseDefinition.text?, eq_comm]
  | headers => simp [declared, Config.ResponseDefinition.text?]
  | body => simp [declared, text?_body found]

theorem nodup_declared (e : Endpoint) (body : Option String) : ((declared e body).map (·.1)).Nodup := by
  unfold declared
  cases e.response.headers <;> cases body <;> simp

theorem sameBesides_compile : SameBesides set (set.compile files e).1 := by
  unfold compile
  split
  · exact ⟨rfl, rfl⟩
  · exact sameBesides_register

theorem get?_compile_other {name : String} (other : ∀ stage, templateName e.id stage ≠ name) :
    Table.get? (set.compile files e).1.templates name = Table.get? set.templates name := by
  unfold compile
  split
  · rfl
  · exact get?_register_other fun row _ => other row.1

/-- What an endpoint declares takes the place of what was there under its names, if anything was. -/
theorem get?_compile (compiled : (set.compile files e).2 = .ok ()) (stage : Stage) :
    Table.get? (set.compile files e).1.templates (templateName e.id stage) =
      if e.response.text? files set.bodyFilesDir stage = none then
        Table.get? set.templates (templateName e.id stage)
      else own? files set.bodyFilesDir e stage := by
  unfold compile at compiled ⊢
  cases found : set.bodyText files e with
  | error cause =>
    rw [found] at compiled
    cases compiled
  | ok body =>
    rw [found] at compiled
    cases declares : e.response.text? files set.bodyFilesDir stage with
    | some text =>
      rw [if_neg (Option.some_ne_none text), own?, declares, Option.bind_some]
      exact get?_register_of_mem (nodup_declared e body) compiled ((mem_declared_iff found).2 declares)
    | none =>
      rw [if_pos rfl]
      refine get?_register_other fun row inList same => ?_
      -- a text under this name would be one for this stage
      rw [← (templateName_injective same).2, (mem_declared_iff found).1 inList] at declares
      cases declares

theorem isSome_get?_compile {name : String} (isKept : (Table.get? set.templates name).isSome) :
    (Table.get? (set.compile files e).1.templates name).isSome := by
  unfold compile
  split
  · exact isKept
  · exact isSome_get?_register isKept

/-- Every endpoint declares a status. -/
theorem isSome_status_compile (compiled : (set.compile files e).2 = .ok ()) :
    (Table.get? (set.compile files e).1.templates (templateName e.id .status)).isSome := by
  unfold compile at compiled ⊢
  cases found : set.bodyText files e with
  | error cause =>
    rw [found] at compiled
    cases compiled
  | ok body =>
    rw [found] at compiled
    exact isSome_get?_register_of_mem compiled (List.mem_cons_self ..)

end Compile

/-! ## Several endpoints -/

section CompileAll

variable {set set' : TemplateSet} {files : Files} {e : Endpoint} {es : List Endpoint}

theorem compileAll_cons : set.compileAll files (e :: es) =
    (set.compile files e).2.bind fun _ => (set.compile files e).1.compileAll files es := by
  rw [compileAll]
  rcases set.compile files e with ⟨_, _ | _⟩ <;> rfl

theorem compileAll_cons_eq_ok_iff : set.compileAll files (e :: es) = .ok set' ↔
    (set.compile files e).2 = .ok () ∧ (set.compile files e).1.compileAll files es = .ok set' := by
  rw [compileAll_cons]
  cases (set.compile files e).2 <;> simp [Except.bind]

theorem sameBesides_compileAll (compiled : set.compileAll files es = .ok set') :
    SameBesides set set' := by
  induction es generalizing set with
  | nil =>
    cases compiled
    exact ⟨rfl, rfl⟩
  | cons e rest ih =>
    have first : SameBesides set (set.compile files e).1 := sameBesides_compile
    have others := ih (compileAll_cons_eq_ok_iff.1 compiled).2
    exact ⟨others.endpointIds.trans first.endpointIds, others.bodyFilesDir.trans first.bodyFilesDir⟩

theorem get?_compileAll_other {name : String}
    (other : ∀ e ∈ es, ∀ stage, templateName e.id stage ≠ name)
    (compiled : set.compileAll files es = .ok set') :
    Table.get? set'.templates name = Table.get? set.templates name := by
  induction es generalizing set with
  | nil => cases compiled; rfl
  | cons e rest ih =>
    obtain ⟨here, later⟩ := List.forall_mem_cons.1 other
    rw [ih later (compileAll_cons_eq_ok_iff.1 compiled).2, get?_compile_other here]

/-- Of endpoints with distinct ids that have been compiled into one set, each finds under its names what
it declares, wherever it stands among the others. -/
theorem get?_compileAll (distinct : (es.map (·.id)).Nodup)
    (isNew : ∀ e ∈ es, ∀ stage, Table.get? set.templates (templateName e.id stage) = none)
    (compiled : set.compileAll files es = .ok set') (inList : e ∈ es) (stage : Stage) :
    Table.get? set'.templates (templateName e.id stage) = own? files set.bodyFilesDir e stage := by
  induction es generalizing set with
  | nil => cases inList
  | cons first rest ih =>
    rw [List.map_cons, List.nodup_cons] at distinct
    have apart : ∀ e ∈ rest, ∀ stage stage', templateName first.id stage ≠ templateName e.id stage' :=
      fun e inRest _ _ same =>
        distinct.1 (List.mem_map.2 ⟨e, inRest, (templateName_injective same).1.symm⟩)
    obtain ⟨newHere, newLater⟩ := List.forall_mem_cons.1 isNew
    obtain ⟨one, others⟩ := compileAll_cons_eq_ok_iff.1 compiled
    rcases List.mem_cons.1 inList with rfl | inRest
    · rw [get?_compileAll_other (fun e inRest stage' => (apart e inRest stage stage').symm) others,
        get?_compile one, newHere]
      split
      · next declaresNone => rw [own?, declaresNone, Option.bind_none]
      · rfl
    · have newBehind : ∀ e ∈ rest, ∀ stage,
          Table.get? (set.compile files first).1.templates (templateName e.id stage) = none := by
        intro e inRest stage
        rw [get?_compile_other fun stage' => apart e inRest stage' stage, newLater e inRest stage]
      rw [ih distinct.2 newBehind others inRest, sameBesides_compile.bodyFilesDir]

theorem isSome_get?_compileAll {name : String} (compiled : set.compileAll files es = .ok set')
    (isKept : (Table.get? set.templates name).isSome) : (Table.get? set'.templates name).isSome := by
  induction es generalizing set with
  | nil => cases compiled; exact isKept
  | cons e rest ih => exact ih (compileAll_cons_eq_ok_iff.1 compiled).2 (isSome_get?_compile isKept)

theorem isSome_status_compileAll (compiled : set.compileAll files es = .ok set') (inList : e ∈ es) :
    (Table.get? set'.templates (templateName e.id .status)).isSome := by
  induction es generalizing set with
  | nil => cases inList
  | cons first rest ih =>
    obtain ⟨one, others⟩ := compileAll_cons_eq_ok_iff.1 compiled
    rcases List.mem_cons.1 inList with rfl | inRest
    · exact isSome_get?_compileAll others (isSome_status_compile one)
    · exact ih others inRest

end CompileAll

end TemplateSet

end StubServer
