import StubServer.Template.Render

/-! # Renderings that agree

A template is steady when no call in it can come to a helper whose result depends on the time or on
drawn numbers, and neither can one in a template that it may include.  Two runs agree when they give
the same result and leave sessions alike, from any two sessions that differ in the source of drawn
numbers alone.  Everything that renders a steady template agrees with itself at any other time
(`agree_renderElement`), so the time and the source make no difference to the rendering
(`render_steady`).
-/

namespace StubServer.Template

/-! ## Steady templates -/

/-- The result depends on the time or on drawn numbers. -/
def Helper.varies : Helper → Bool
  | .uuid => true
  | .now => true
  | .random => true
  | _ => false

/-- The name is not that of a helper whose result varies. -/
def SteadyName (name : String) : Prop :=
  ∀ helper, Helper.ofName? name = some helper → helper.varies = false

/-- What calls a helper names a steady one.  A name that comes out of a call is known only when it is
rendered, and may be any. -/
inductive SteadyHead : Expr → Prop where
  | constant {value : Json} : SteadyName (valueText value) → SteadyHead (.constant value)
  | path {path : Path} : SteadyName path.text → SteadyHead (.path path)
  | word {text : String} : SteadyName text → SteadyHead (.word text)

inductive SteadyExpr : Expr → Prop where
  | constant {value : Json} : SteadyExpr (.constant value)
  | path {path : Path} : SteadyExpr (.path path)
  | word {text : String} : SteadyExpr (.word text)
  | call {head : Expr} {params : List Expr} {named : List (String × Expr)} : SteadyHead head →
      (∀ e ∈ params, SteadyExpr e) → (∀ row ∈ named, SteadyExpr row.2) →
      SteadyExpr (.call head params named)

structure Call.SteadyOperands (call : Call) : Prop where
  params : ∀ e ∈ call.params, SteadyExpr e
  named : ∀ row ∈ call.named, SteadyExpr row.2

/-- Every call of a helper in the element is steady.  The names of inclusions and of named bodies are
not those of helpers; `others` is what an inclusion takes for granted of all that can be included. -/
inductive SteadyCalls (others : Prop) : Element → Prop where
  | text {text : String} : SteadyCalls others (.text text)
  | output {call : Call} : SteadyHead call.head → call.SteadyOperands →
      SteadyCalls others (.output call)
  | block {call : Call} {names : List String} {beginsLine : BeginsLine} {body : Tree}
      {otherwise : Option Tree} : SteadyHead call.head → call.SteadyOperands →
      SteadyCalls others (.block call names beginsLine body otherwise)
  | decorator {call : Call} {body : Option Tree} : SteadyExpr call.head → call.SteadyOperands →
      SteadyCalls others (.decorator call body)
  | inclusion {call : Call} {blanks : Option String} {beginsLine : BeginsLine}
      {body : Option Tree} : others → SteadyExpr call.head → call.SteadyOperands →
      SteadyCalls others (.inclusion call blanks beginsLine body)

/-- The bodies that stand in an element. -/
def Element.bodies : Element → List Tree
  | .text _ => []
  | .output _ => []
  | .block _ _ _ body otherwise => body :: otherwise.toList
  | .decorator _ body => body.toList
  | .inclusion _ _ _ body => body.toList

/-- No call in the template or in a body of it can come to a helper whose result varies. -/
inductive Steady (others : Prop) : Tree → Prop where
  | mk {name : Option String} {elements : List PlacedElement} :
      (∀ placed ∈ elements, SteadyCalls others placed.2) →
      (∀ placed ∈ elements, ∀ body ∈ placed.2.bodies, Steady others body) →
      Steady others (.mk name elements)

def SteadyTable (others : Prop) (templates : Table Tree) : Prop :=
  ∀ name t, Table.get? templates name = some t → Steady others t

/-- No rendering of the template comes to a helper whose result varies: the template is steady, and if
anything is included, then whatever it is. -/
def SteadyAmong (templates : Table Tree) : Tree → Prop := Steady (SteadyTable True templates)

structure SteadyScope (others : Prop) (scope : Scope) : Prop where
  bodies : SteadyTable others scope.bodies
  enclosed : ∀ t ∈ scope.enclosed, Steady others t

variable {others : Prop}

theorem SteadyCalls.mono {others' : Prop} (implies : others → others') {e : Element}
    (calls : SteadyCalls others e) : SteadyCalls others' e := by
  cases calls with
  | text => exact .text
  | output head operands => exact .output head operands
  | block head operands => exact .block head operands
  | decorator head operands => exact .decorator head operands
  | inclusion allowed head operands => exact .inclusion (implies allowed) head operands

theorem Steady.mono {others' : Prop} (implies : others → others') {t : Tree}
    (steady : Steady others t) : Steady others' t := by
  induction steady with
  | mk calls _ inner => exact .mk (fun placed inList => (calls placed inList).mono implies) inner

/-! ## Agreement -/

section Agreement

variable {σ ε α β : Type}

def runFrom (r : ExceptT ε (StateM σ) α) (s : σ) : Except ε α × σ := r.run s

/-- From related states the runs come to the same result and to related states. -/
def AgreeOn (related : σ → σ → Prop) (r r' : ExceptT ε (StateM σ) α) : Prop :=
  ∀ s s', related s s' →
    (runFrom r s).1 = (runFrom r' s').1 ∧ related (runFrom r s).2 (runFrom r' s').2

variable {related : σ → σ → Prop}

theorem agree_pure (a : α) : AgreeOn related (pure a : ExceptT ε (StateM σ) α) (pure a) :=
  fun _ _ start => ⟨rfl, start⟩

theorem agree_throw (e : ε) : AgreeOn related (throw e : ExceptT ε (StateM σ) α) (throw e) :=
  fun _ _ start => ⟨rfl, start⟩

theorem runFrom_bind (r : ExceptT ε (StateM σ) α) (f : α → ExceptT ε (StateM σ) β) (s : σ) :
    runFrom (r >>= f) s = match runFrom r s with
      | (.ok a, s) => runFrom (f a) s
      | (.error e, s) => (.error e, s) := by
  show (ExceptT.bindCont f (runFrom r s).1 : StateM σ (Except ε β)) (runFrom r s).2 = _
  rcases runFrom r s with ⟨_ | _, _⟩ <;> rfl

theorem runFrom_get (s : σ) : runFrom (get : ExceptT ε (StateM σ) σ) s = (.ok s, s) := rfl

theorem agree_bind {r r' : ExceptT ε (StateM σ) α} {f f' : α → ExceptT ε (StateM σ) β}
    (first : AgreeOn related r r') (rest : ∀ a, AgreeOn related (f a) (f' a)) :
    AgreeOn related (r >>= f) (r' >>= f') := by
  intro s s' start
  obtain ⟨same, after⟩ := first s s' start
  rw [runFrom_bind, runFrom_bind]
  generalize runFrom r s = left at same after
  generalize runFrom r' s' = right at same after
  obtain ⟨outcome, t⟩ := left
  obtain ⟨outcome', t'⟩ := right
  cases same
  cases outcome with
  | ok a => exact rest a t t' after
  | error e => exact ⟨rfl, after⟩

end Agreement

/-! ## Runs -/

/-- The sessions differ in the source of drawn numbers alone. -/
structure Alike (others : Prop) (s s' : Session) : Prop where
  store : s.store = s'.store
  scope : s.scope = s'.scope
  steady : SteadyScope others s.scope

/-- The runs agree from sessions alike. -/
abbrev Agree (others : Prop) {α : Type} (r r' : Run α) : Prop := AgreeOn (Alike others) r r'

section Runs

variable {α β : Type}

theorem agree_fail (cause : Cause) : Agree others (Run.fail cause : Run α) (Run.fail cause) :=
  agree_throw _

/-- The scope that a run goes on with is steady. -/
theorem agree_scope {f f' : Scope → Run β}
    (rest : ∀ scope, SteadyScope others scope → Agree others (f scope) (f' scope)) :
    Agree others (Run.scope >>= f) (Run.scope >>= f') := by
  intro s s' alike
  have read : ∀ (g : Scope → Run β) (s : Session),
      runFrom (Run.scope >>= g) s = runFrom (g s.scope) s := fun _ _ => rfl
  rw [read, read, ← alike.scope]
  exact rest s.scope alike.steady s s' alike

theorem agree_changeScope {f : Scope → Scope}
    (steady : ∀ scope, SteadyScope others scope → SteadyScope others (f scope)) :
    Agree others (Run.changeScope f) (Run.changeScope f) :=
  fun s _ alike => ⟨rfl, alike.store, congrArg f alike.scope, steady s.scope alike.steady⟩

theorem agree_setScope {scope : Scope} (steady : SteadyScope others scope) :
    Agree others (Run.setScope scope) (Run.setScope scope) :=
  fun _ _ alike => ⟨rfl, alike.store, rfl, steady⟩

theorem agree_setProgress (progress : Progress) :
    Agree others (Run.setProgress progress) (Run.setProgress progress) :=
  agree_changeScope fun _ steady => ⟨steady.bodies, steady.enclosed⟩

theorem agree_ofResult (result : Except Cause α) :
    Agree others (Run.ofResult result) (Run.ofResult result) := by
  cases result with
  | ok a => exact agree_pure a
  | error cause => exact agree_fail cause

theorem runFrom_documents (helper : String) (request : DocumentRequest) (s : Session) :
    runFrom (Run.documents helper request) s =
      ((s.store.run request).2.mapError fun cause => Failure.ofCause (.documents helper cause),
        { s with store := (s.store.run request).1 }) := by
  rw [Run.documents, runFrom_bind, runFrom_get]
  dsimp only
  rcases s.store.run request with ⟨store, _ | _⟩ <;> rfl

theorem agree_documents (helper : String) (request : DocumentRequest) :
    Agree others (Run.documents helper request) (Run.documents helper request) := by
  intro s s' alike
  rw [runFrom_documents, runFrom_documents, ← alike.store]
  exact ⟨rfl, rfl, alike.scope, alike.steady⟩

theorem runFrom_placed (name : Option String) (place : Option Position) (r : Run α) (s : Session) :
    runFrom (placed name place r) s =
      ((runFrom r s).1.mapError fun failure => failure.within place name, (runFrom r s).2) := by
  simp only [placed, runFrom, tryCatch, tryCatchThe, MonadExceptOf.tryCatch, ExceptT.tryCatch,
    ExceptT.run, ExceptT.mk, bind, StateT.bind, throw, throwThe, MonadExceptOf.throw]
  rcases r s with ⟨_ | _, _⟩ <;> rfl

theorem agree_placed {r r' : Run α} (name : Option String) (place : Option Position)
    (agree : Agree others r r') : Agree others (placed name place r) (placed name place r') := by
  intro s s' alike
  obtain ⟨same, after⟩ := agree s s' alike
  rw [runFrom_placed, runFrom_placed, same]
  exact ⟨rfl, after⟩

theorem agree_write (text : String) : Agree others (Run.write text) (Run.write text) := by
  unfold Run.write
  dsimp only
  split
  · exact agree_pure ""
  · refine agree_scope fun scope _ => agree_bind (agree_setProgress _) fun _ => ?_
    split
    · exact agree_pure text
    · exact agree_pure _

theorem agree_part (blanksDue : Progress → Bool) {r r' : Run String} (agree : Agree others r r') :
    Agree others (Run.part blanksDue r) (Run.part blanksDue r') := by
  unfold Run.part
  refine agree_scope fun before _ => agree_bind (agree_setProgress _) fun _ => ?_
  refine agree_bind agree fun text => agree_scope fun after _ => ?_
  dsimp only
  split
  · exact agree_bind (agree_setProgress _) fun _ => agree_pure text
  · exact agree_bind (agree_setProgress _) fun _ => agree_pure text

theorem agree_inside (frame : Frame) {r r' : Run String} (agree : Agree others r r') :
    Agree others (Run.inside frame r) (Run.inside frame r') := by
  unfold Run.inside
  have same : ∀ f : List Frame → List Frame,
      Agree others (Run.changeScope fun scope => { scope with frames := f scope.frames })
        (Run.changeScope fun scope => { scope with frames := f scope.frames }) :=
    fun _ => agree_changeScope fun _ steady => ⟨steady.bodies, steady.enclosed⟩
  refine agree_bind (same (frame :: ·)) fun _ => agree_bind agree fun text => ?_
  exact agree_bind (same (·.drop 1)) fun _ => agree_pure text

end Runs

/-! ## Helpers -/

section Helpers

variable (args : Arguments)

theorem agree_required (helper : String) (i : Nat) :
    Agree others (args.required helper i) (args.required helper i) := by
  unfold Arguments.required
  split
  · exact agree_pure _
  · exact agree_fail _

theorem agree_requiredNamed (helper name : String) (i : Nat) :
    Agree others (args.requiredNamed helper name i) (args.requiredNamed helper name i) := by
  unfold Arguments.requiredNamed
  split
  · exact agree_pure _
  · exact agree_fail _

theorem agree_requiredText (helper name : String) (i : Nat) :
    Agree others (args.requiredText helper name i) (args.requiredText helper name i) := by
  unfold Arguments.requiredText
  refine agree_bind (agree_requiredNamed args helper name i) fun value => ?_
  split
  · exact agree_pure _
  · exact agree_fail _

theorem agree_written (helper : String) (i : Nat) :
    Agree others (args.written helper i) (args.written helper i) := by
  unfold Arguments.written
  split
  · exact agree_pure _
  · exact agree_pure _
  · exact agree_fail _

theorem agree_requiredInt (helper : String) (i : Nat) :
    Agree others (args.requiredInt helper i) (args.requiredInt helper i) := by
  unfold Arguments.requiredInt
  split
  · exact agree_pure _
  · exact agree_fail _

theorem agree_test (test : Test) : Agree others (test.run args) (test.run args) := by
  unfold Test.run
  refine agree_bind (agree_requiredNamed args _ _ _) fun x => ?_
  split
  · exact agree_pure _
  · exact agree_bind (agree_requiredNamed args _ _ _) fun y => agree_pure _

theorem agree_store (helper : StoreHelper) : Agree others (helper.run args) (helper.run args) := by
  unfold StoreHelper.run
  refine agree_bind (agree_written args _ _) fun key => ?_
  cases helper with
  | get => exact agree_bind (agree_documents _ _) fun _ => agree_pure _
  | put =>
    refine agree_bind (agree_written args _ _) fun value => ?_
    exact agree_bind (agree_documents _ _) fun _ => agree_pure _
  | add =>
    refine agree_bind (agree_written args _ _) fun path => ?_
    refine agree_bind (agree_written args _ _) fun value => ?_
    exact agree_bind (agree_documents _ _) fun _ => agree_pure _
  | remove =>
    refine agree_bind (agree_written args _ _) fun path => ?_
    exact agree_bind (agree_documents _ _) fun _ => agree_pure _
  | lookup =>
    refine agree_bind (agree_written args _ _) fun expression => ?_
    exact agree_bind (agree_documents _ _) fun _ => agree_pure _

theorem agree_checkLevel : Agree others (checkLevel args) (checkLevel args) := by
  unfold checkLevel
  dsimp only
  split
  · exact agree_pure _
  · exact agree_fail _

theorem agree_arithmetic (helper sign : String) (f : Int → Int → Int) :
    Agree others (arithmetic args helper sign f) (arithmetic args helper sign f) := by
  unfold arithmetic
  refine agree_bind (agree_requiredInt args _ _) fun a => ?_
  refine agree_bind (agree_requiredInt args _ _) fun b => ?_
  split
  · exact agree_pure _
  · exact agree_fail _

theorem agree_decodeBase64 (text : String) : Agree others (decodeBase64 text) (decodeBase64 text) := by
  unfold decodeBase64
  split
  · exact agree_pure _
  · exact agree_fail _

/-- A helper that does not vary makes nothing of the time. -/
theorem agree_call {helper : Helper} (steady : helper.varies = false) (env : Environment)
    (now : Time.Instant) :
    Agree others (helper.call env args) (helper.call { env with now := now } args) := by
  cases helper with
  | block b =>
    cases b with
    | raw => exact agree_pure _
    | branch => exact agree_bind (agree_required args _ _) fun _ => agree_pure _
    | each => exact agree_bind (agree_required args _ _) fun _ => agree_pure _
    | subject => exact agree_bind (agree_required args _ _) fun _ => agree_pure _
  | test t => exact agree_bind (agree_test args t) fun _ => agree_pure _
  | store h => exact agree_bind (agree_store args h) fun _ => agree_pure _
  | lookup =>
    refine agree_bind (agree_required args _ _) fun _ => ?_
    exact agree_bind (agree_required args _ _) fun _ => agree_pure _
  | length => exact agree_bind (agree_requiredNamed args _ _ _) fun _ => agree_pure _
  | log => exact agree_bind (agree_checkLevel args) fun _ => agree_pure _
  | uuid => cases steady
  | now => cases steady
  | random => cases steady
  | trim => exact agree_bind (agree_requiredText args _ _ _) fun _ => agree_pure _
  | replace =>
    refine agree_bind (agree_requiredText args _ _ _) fun _ => ?_
    refine agree_bind (agree_requiredText args _ _ _) fun _ => ?_
    exact agree_bind (agree_requiredText args _ _ _) fun _ => agree_pure _
  | add => exact agree_bind (agree_arithmetic args _ _ _) fun _ => agree_pure _
  | subtract => exact agree_bind (agree_arithmetic args _ _ _) fun _ => agree_pure _
  | base64Encode => exact agree_bind (agree_requiredText args _ _ _) fun _ => agree_pure _
  | base64Decode => exact agree_bind (agree_decodeBase64 _) fun _ => agree_pure _
  | _ => exact agree_pure _

end Helpers

/-! ## Expressions -/

section Expressions

variable (env : Environment) (now : Time.Instant)

/-- A steady head is a name that is known without rendering. -/
theorem nameOf_head {head : Expr} (steady : SteadyHead head) :
    ∃ name, SteadyName name ∧ ∀ env : Environment, nameOf env head = pure name := by
  cases steady with
  | constant named => exact ⟨_, named, fun _ => by rw [nameOf]⟩
  | path named => exact ⟨_, named, fun _ => by rw [nameOf]⟩
  | word named => exact ⟨_, named, fun _ => by rw [nameOf]⟩

/-- What goes on with the product of a helper that a steady name stands for. -/
theorem agree_callNamed {α : Type} {name : String} (steady : SteadyName name) (args : Arguments)
    (f : Product → α) :
    Agree others
      (match Helper.ofName? name with
        | none => Run.fail (.helperNotFound name)
        | some helper => do return f (← helper.call env args))
      (match Helper.ofName? name with
        | none => Run.fail (.helperNotFound name)
        | some helper => do return f (← helper.call { env with now := now } args)) := by
  cases found : Helper.ofName? name with
  | none => exact agree_fail _
  | some helper => exact agree_bind (agree_call args (steady helper found) env now) fun _ => agree_pure _

mutual

theorem agree_evaluate {e : Expr} (steady : SteadyExpr e) :
    Agree others (evaluate env e) (evaluate { env with now := now } e) := by
  cases e with
  | constant value => rw [evaluate, evaluate]; exact agree_pure _
  | word text => rw [evaluate, evaluate]; exact agree_pure _
  | path path =>
    rw [evaluate, evaluate]
    exact agree_scope fun scope _ => agree_ofResult _
  | call head params named =>
    rw [evaluate, evaluate]
    obtain _ | _ | _ | ⟨steadyHead, steadyParams, steadyNamed⟩ := steady
    obtain ⟨name, steadyName, known⟩ := nameOf_head steadyHead
    rw [known, known, pure_bind, pure_bind]
    refine agree_bind (agree_evaluateAll steadyParams) fun params => ?_
    refine agree_bind (agree_evaluateNamed steadyNamed) fun named => ?_
    exact agree_callNamed env now steadyName ⟨params, named⟩ fun product => Found.ofValue product.json

theorem agree_evaluateAll {es : List Expr} (steady : ∀ e ∈ es, SteadyExpr e) :
    Agree others (evaluateAll env es) (evaluateAll { env with now := now } es) := by
  cases es with
  | nil => rw [evaluateAll, evaluateAll]; exact agree_pure _
  | cons e rest =>
    rw [evaluateAll, evaluateAll]
    refine agree_bind (agree_evaluate (steady e (List.mem_cons_self ..))) fun found => ?_
    refine agree_bind (agree_evaluateAll fun e inRest => steady e (List.mem_cons_of_mem _ inRest)) ?_
    exact fun more => agree_pure _

theorem agree_evaluateNamed {rows : List (String × Expr)}
    (steady : ∀ row ∈ rows, SteadyExpr row.2) :
    Agree others (evaluateNamed env rows) (evaluateNamed { env with now := now } rows) := by
  match rows with
  | [] => rw [evaluateNamed, evaluateNamed]; exact agree_pure _
  | (name, e) :: rest =>
    rw [evaluateNamed, evaluateNamed]
    refine agree_bind (agree_evaluate (steady (name, e) (List.mem_cons_self ..))) fun found => ?_
    refine agree_bind (agree_evaluateNamed fun row inRest =>
      steady row (List.mem_cons_of_mem _ inRest)) ?_
    exact fun more => agree_pure _

end

theorem agree_nameOf {e : Expr} (steady : SteadyExpr e) :
    Agree others (nameOf env e) (nameOf { env with now := now } e) := by
  cases steady with
  | constant => rw [nameOf, nameOf]; exact agree_pure _
  | word => rw [nameOf, nameOf]; exact agree_pure _
  | path => rw [nameOf, nameOf]; exact agree_pure _
  | call steadyHead steadyParams steadyNamed =>
    rw [nameOf, nameOf]
    obtain ⟨name, steadyName, known⟩ := nameOf_head steadyHead
    rw [known, known, pure_bind, pure_bind]
    refine agree_bind (agree_evaluateAll env now steadyParams) fun params => ?_
    refine agree_bind (agree_evaluateNamed env now steadyNamed) fun named => ?_
    exact agree_callNamed env now steadyName ⟨params, named⟩ fun product => valueText product.json

theorem agree_evaluateCall {call : Call} (head : SteadyExpr call.head)
    (operands : call.SteadyOperands) :
    Agree others (evaluateCall env call) (evaluateCall { env with now := now } call) := by
  unfold evaluateCall
  refine agree_bind (agree_nameOf env now head) fun name => ?_
  refine agree_bind (agree_evaluateAll env now operands.params) fun params => ?_
  refine agree_bind (agree_evaluateNamed env now operands.named) fun named => ?_
  exact agree_pure _

end Expressions

/-! ## Blocks -/

section Blocks

/-- A body renders the same way whenever it is steady. -/
def AgreeOnBodies (others : Prop) (body body' : RenderBody) : Prop :=
  ∀ t, Steady others t → Agree others (body t) (body' t)

variable {body body' : RenderBody} (bodies : AgreeOnBodies others body body') {block : Block}
  (steadyBody : Steady others block.body)
  (steadyOtherwise : ∀ t, block.otherwise = some t → Steady others t)

include bodies

theorem agree_renderOptional {t? : Option Tree} (steady : ∀ t, t? = some t → Steady others t) :
    Agree others (renderOptional body t?) (renderOptional body' t?) := by
  cases t? with
  | none => exact agree_pure _
  | some t => exact bodies t (steady t rfl)

include steadyBody

theorem agree_renderRounds (found : Found) (rounds : List Round) :
    Agree others (renderRounds body block found rounds) (renderRounds body' block found rounds) := by
  induction rounds with
  | nil => exact agree_pure _
  | cons r rest ih =>
    refine agree_bind (agree_inside _ (bodies block.body steadyBody)) fun text => ?_
    exact agree_bind ih fun more => agree_pure _

include steadyOtherwise

theorem agree_renderEach (found : Found) :
    Agree others (renderEach body block found) (renderEach body' block found) := by
  unfold renderEach
  split
  · exact agree_renderOptional bodies steadyOtherwise
  · exact agree_renderOptional bodies steadyOtherwise
  · exact agree_renderRounds bodies steadyBody found _

theorem agree_renderSubject (found : Found) :
    Agree others (renderSubject body block found) (renderSubject body' block found) := by
  unfold renderSubject
  split
  · exact agree_inside _ (bodies block.body steadyBody)
  · exact agree_renderOptional bodies steadyOtherwise

theorem agree_renderBranch (takesBody : Bool) :
    Agree others (renderBranch body block takesBody) (renderBranch body' block takesBody) := by
  unfold renderBranch
  split
  · exact bodies block.body steadyBody
  · exact agree_renderOptional bodies steadyOtherwise

theorem agree_renderBlock (helper : BlockHelper) (args : Arguments) :
    Agree others (renderBlock body helper args block) (renderBlock body' helper args block) := by
  cases helper with
  | raw => exact bodies block.body steadyBody
  | branch wanted =>
    refine agree_bind (agree_required args _ _) fun found => ?_
    exact agree_renderBranch bodies steadyBody steadyOtherwise _
  | each =>
    refine agree_bind (agree_required args _ _) fun found => ?_
    exact agree_renderEach bodies steadyBody steadyOtherwise found
  | subject =>
    refine agree_bind (agree_required args _ _) fun found => ?_
    exact agree_renderSubject bodies steadyBody steadyOtherwise found

end Blocks

/-! ## Elements -/

theorem SteadyHead.expr {e : Expr} (steady : SteadyHead e) : SteadyExpr e := by
  cases steady with
  | constant _ => exact .constant
  | path _ => exact .path
  | word _ => exact .word

theorem SteadyTable.insert {templates : Table Tree} {name : String} {t : Tree}
    (table : SteadyTable others templates) (steady : Steady others t) :
    SteadyTable others (Table.insert templates name t) := by
  intro other found stored
  rw [Table.get?_insert] at stored
  split at stored
  · cases stored; exact steady
  · exact table other found stored

theorem agree_product (product : Product) :
    Agree others
      (match product with
        | .value j => Run.write (valueText j)
        | .text text => pure text)
      (match product with
        | .value j => Run.write (valueText j)
        | .text text => pure text) := by
  cases product with
  | value j => exact agree_write _
  | text text => exact agree_pure text

section Elements

variable (env : Environment) (now : Time.Instant) {body body' : RenderBody}
  (bodies : AgreeOnBodies others body body') {call : Call}

include bodies

theorem agree_renderHelper {block? : Option Block} (head : SteadyHead call.head)
    (operands : call.SteadyOperands)
    (steady : ∀ block, block? = some block →
      Steady others block.body ∧ ∀ t, block.otherwise = some t → Steady others t) :
    Agree others (renderHelper env body call block?)
      (renderHelper { env with now := now } body' call block?) := by
  -- a steady head names its helper without being rendered, so both runs call the same one
  obtain ⟨name, steadyName, known⟩ := nameOf_head head
  simp only [renderHelper, evaluateCall, known, pure_bind, bind_assoc]
  refine agree_bind (agree_evaluateAll env now operands.params) fun params => ?_
  refine agree_bind (agree_evaluateNamed env now operands.named) fun named => ?_
  cases found : Helper.ofName? name with
  | none => exact agree_fail _
  | some helper =>
    have call : Agree others (helper.call env ⟨params, named⟩)
        (helper.call { env with now := now } ⟨params, named⟩) :=
      agree_call ⟨params, named⟩ (steadyName helper found) env now
    have called := agree_bind call agree_product
    cases block? with
    | none => cases helper <;> exact called
    | some block =>
      obtain ⟨steadyBody, steadyOtherwise⟩ := steady block rfl
      cases helper with
      | block helper => exact agree_renderBlock bodies steadyBody steadyOtherwise helper _
      | test test =>
        refine agree_bind (agree_test _ test) fun takesBody => ?_
        exact agree_renderBranch bodies steadyBody steadyOtherwise takesBody
      | _ => exact called

theorem agree_renderOutput (head : SteadyHead call.head) (operands : call.SteadyOperands) :
    Agree others (renderOutput env body call) (renderOutput { env with now := now } body' call) := by
  have helper : Agree others (renderHelper env body call none)
      (renderHelper { env with now := now } body' call none) :=
    agree_renderHelper env now bodies head operands (by simp)
  unfold renderOutput
  split
  · exact agree_part _ helper
  · refine agree_bind (agree_nameOf env now head.expr) fun name => ?_
    split
    · exact agree_part _ helper
    · refine agree_bind (agree_evaluate env now head.expr) fun found => ?_
      split
      · exact agree_write _
      · exact agree_pure _

omit bodies

theorem agree_runDecorator {named? : Option Tree} (head : SteadyExpr call.head)
    (operands : call.SteadyOperands) (steady : ∀ t, named? = some t → Steady others t) :
    Agree others (runDecorator env call named?) (runDecorator { env with now := now } call named?) := by
  unfold runDecorator
  refine agree_bind (agree_evaluateCall env now head operands) fun (name, args) => ?_
  dsimp only
  split
  · exact agree_fail _
  · refine agree_bind (agree_required args _ _) fun found => ?_
    split
    · exact agree_fail _
    · exact agree_fail _
    · next named _ =>
      refine agree_changeScope fun scope steadyScope => ⟨?_, steadyScope.enclosed⟩
      exact steadyScope.bodies.insert (steady named rfl)

theorem agree_nameBodies (name : Option String) {elements : List PlacedElement}
    (calls : ∀ placed ∈ elements, SteadyCalls others placed.2)
    (inner : ∀ placed ∈ elements, ∀ t ∈ placed.2.bodies, Steady others t) :
    Agree others (nameBodies env name elements) (nameBodies { env with now := now } name elements) := by
  induction elements with
  | nil => exact agree_pure _
  | cons placed rest ih =>
    have ih := ih (fun p inRest => calls p (List.mem_cons_of_mem _ inRest))
      fun p inRest => inner p (List.mem_cons_of_mem _ inRest)
    obtain ⟨place, e⟩ := placed
    have callsHere := calls (place, e) (List.mem_cons_self ..)
    have innerHere := inner (place, e) (List.mem_cons_self ..)
    cases callsHere with
    | decorator head operands =>
      refine agree_bind (agree_placed _ _ (agree_runDecorator env now head operands fun t isBody => ?_))
        fun _ => ih
      exact innerHere t (by rw [isBody]; exact List.mem_singleton_self t)
    | _ => exact ih

theorem steady_findIncluded {scope : Scope} {name : String} {body? : Option Tree} {t : Tree}
    (templates : SteadyTable others env.templates) (steadyScope : SteadyScope others scope)
    (steady : ∀ t, body? = some t → Steady others t)
    (included : findIncluded? env scope name body? = some t) : Steady others t := by
  simp only [findIncluded?, Option.or_eq_some_iff] at included
  rcases included with (named | ⟨_, registered⟩) | ⟨_, brought⟩
  · split at named
    · exact steadyScope.enclosed t (List.mem_of_getElem? named)
    · exact steadyScope.bodies name t named
  · exact templates name t registered
  · exact steady t brought

include bodies

theorem agree_renderIncluded (name : String) (args : Arguments) (blanks : Option String)
    {body? : Option Tree} (templates : SteadyTable others env.templates)
    (steady : ∀ t, body? = some t → Steady others t) :
    Agree others (renderIncluded env body name args blanks body?)
      (renderIncluded { env with now := now } body' name args blanks body?) := by
  unfold renderIncluded
  refine agree_scope fun scope steadyScope => ?_
  split
  · exact agree_fail _
  -- what is included does not depend on the time
  have sameChoice : findIncluded? { env with now := now } scope name body? =
      findIncluded? env scope name body? := rfl
  rw [sameChoice]
  cases found : findIncluded? env scope name body? with
  | none => exact agree_fail _
  | some included =>
    have steadyIncluded := steady_findIncluded env templates steadyScope steady found
    refine agree_bind (agree_ofResult _) fun frame => ?_
    -- inside, the body that was brought along stands before those of the outer inclusions
    refine agree_bind (agree_setScope ⟨steadyScope.bodies, fun t inList => ?_⟩) fun _ => ?_
    · rcases List.mem_append.1 inList with brought | inScope
      · exact steady t (Option.mem_toList.1 brought)
      · exact steadyScope.enclosed t inScope
    refine agree_bind (bodies included steadyIncluded) fun text => ?_
    refine agree_scope fun after steadyAfter => ?_
    exact agree_bind (agree_setScope ⟨steadyAfter.bodies, steadyScope.enclosed⟩) fun _ => agree_pure _

theorem agree_renderInclusion {blanks : Option String} {body? : Option Tree}
    (templates : SteadyTable others env.templates) (head : SteadyExpr call.head)
    (operands : call.SteadyOperands) (steady : ∀ t, body? = some t → Steady others t) :
    Agree others (renderInclusion env body call blanks body?)
      (renderInclusion { env with now := now } body' call blanks body?) := by
  unfold renderInclusion
  refine agree_bind (agree_evaluateCall env now head operands) fun (name, args) => ?_
  have included := agree_renderIncluded env now bodies name args blanks templates steady
  cases body? with
  | none => exact included
  | some t =>
    obtain ⟨calls, inner⟩ := steady t rfl
    exact agree_bind (agree_nameBodies env now _ calls inner) fun _ => included

end Elements

/-! ## Templates -/

section Templates

variable (env : Environment) (now : Time.Instant)

theorem agree_renderAll {element element' : Element → Run String} (name : Option String)
    {elements : List PlacedElement}
    (agree : ∀ placed ∈ elements, Agree others (element placed.2) (element' placed.2)) :
    Agree others (renderAll element name elements) (renderAll element' name elements) := by
  induction elements with
  | nil => exact agree_pure _
  | cons placed rest ih =>
    refine agree_bind (agree_placed _ _ (agree placed (List.mem_cons_self ..))) fun text => ?_
    refine agree_bind (ih fun p inRest => agree p (List.mem_cons_of_mem _ inRest)) fun more => ?_
    exact agree_pure _

theorem agree_renderWith {element element' : Element → Run String}
    (agree : ∀ e, SteadyCalls others e → (∀ t ∈ e.bodies, Steady others t) →
      Agree others (element e) (element' e)) :
    AgreeOnBodies others (renderWith element) (renderWith element') := by
  intro t steady
  obtain ⟨calls, inner⟩ := steady
  refine agree_bind (agree_changeScope fun _ steady => ⟨steady.bodies, steady.enclosed⟩) fun _ => ?_
  exact agree_renderAll _ fun placed inList =>
    agree placed.2 (calls placed inList) (inner placed inList)

/-- The induction is on the number of bodies that may still be entered; every body of a steady
element is itself steady. -/
theorem agree_renderElement (templates : others → SteadyTable others env.templates) (depth : Nat)
    {e : Element} (calls : SteadyCalls others e) (inner : ∀ t ∈ e.bodies, Steady others t) :
    Agree others (renderElement env depth e) (renderElement { env with now := now } depth e) := by
  induction depth generalizing e with
  | zero => exact agree_fail _
  | succ depth ih =>
    have bodies : AgreeOnBodies others (renderWith (renderElement env depth))
        (renderWith (renderElement { env with now := now } depth)) :=
      agree_renderWith fun _ calls inner => ih calls inner
    cases calls with
    | text => exact agree_write _
    | output head operands => exact agree_renderOutput env now bodies head operands
    | block head operands =>
      refine agree_part _ (agree_renderHelper env now bodies head operands ?_)
      rintro block ⟨⟩
      refine ⟨inner _ (List.mem_cons_self ..), fun t isOther => ?_⟩
      exact inner t (List.mem_cons_of_mem _ (Option.mem_toList.2 isOther))
    | decorator head operands =>
      refine agree_bind (agree_runDecorator env now head operands fun t isBody => ?_) fun _ =>
        agree_pure _
      exact inner t (Option.mem_toList.2 isBody)
    | inclusion allowed head operands =>
      refine agree_part _ (agree_renderInclusion env now bodies (templates allowed) head operands ?_)
      exact fun t isBody => inner t (Option.mem_toList.2 isBody)

theorem steadyScope_start : SteadyScope others Scope.start :=
  ⟨fun _ _ stored => (by cases stored), fun _ inList => (by cases inList)⟩

/-- The time and the source of drawn numbers make no difference to a steady template: neither to its
text or failure nor to the documents that it leaves. -/
theorem render_steady {t : Tree} (steady : SteadyAmong env.templates t)
    (store : DocumentStore) (chance chance' : Nat) :
    (t.render env store chance).1 = (t.render { env with now := now } store chance').1 ∧
      (t.render env store chance).2.2 = (t.render { env with now := now } store chance').2.2 := by
  -- what is included needs nothing more of the others than that they are steady
  have templates (table : SteadyTable True env.templates) :
      SteadyTable (SteadyTable True env.templates) env.templates :=
    fun name t stored => (table name t stored).mono fun _ => table
  have agree := agree_renderWith (fun _ calls inner =>
    agree_renderElement env now templates depthLimit calls inner) t steady
  obtain ⟨result, after⟩ := agree ⟨store, chance, Scope.start⟩ ⟨store, chance', Scope.start⟩
    ⟨rfl, rfl, steadyScope_start⟩
  exact ⟨after.store, result⟩

end Templates

end StubServer.Template
