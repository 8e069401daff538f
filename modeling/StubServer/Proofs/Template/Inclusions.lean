import StubServer.Proofs.Template.Agreement

/-! # Inclusions of other templates

Of the templates that are registered, a rendering sees those that it includes and no others.  To say
whether it includes some of the others, it is watched (`watchElement`): it goes on as it does, but stops
with a signal where it would include one of them.  Up to there it makes no difference what the others
are, or whether there are any (`unless_watchElement`); so a rendering that includes none of them is the
same wherever the remaining templates are the same (`render_of_not_includes`).
-/

namespace StubServer.Template

/-- The same but for the templates that are registered. -/
def Environment.withTemplates (env : Environment) (table : Table Tree) : Environment :=
  { env with templates := table }

/-! ## Watching -/

/-- The body that goes by a name in a scope, which comes before any registered template. -/
def Scope.named? (scope : Scope) (name : String) : Option Tree :=
  if name = enclosedName then scope.enclosed[scope.entered]? else Table.get? scope.bodies name

section Watch

variable (env : Environment) (others : String → Bool) (signal : Cause)

/-- Renders what a name includes, unless it is one of the other templates. -/
def watchIncluded (body : RenderBody) (name : String) (args : Arguments) (blanks : Option String)
    (body? : Option Tree) : Run String := do
  let scope ← Run.scope
  if others name && (scope.named? name).isNone then Run.fail signal
  else renderIncluded env body name args blanks body?

def watchInclusion (body : RenderBody) (call : Call) (blanks : Option String)
    (body? : Option Tree) : Run String := do
  let (name, args) ← evaluateCall env call
  match body? with
  | some (.mk own elements) => nameBodies env own elements
  | none => pure ()
  watchIncluded env others signal body name args blanks body?

/-- Renders an element up to where one of the other templates would be included. -/
def watchElement : Nat → Element → Run String
  | 0, _ => Run.fail .tooDeep
  | _ + 1, .text text => Run.write text
  | depth + 1, .output call => renderOutput env (renderWith (watchElement depth)) call
  | depth + 1, .block call names beginsLine body otherwise =>
    Run.part (isDue beginsLine)
      (renderHelper env (renderWith (watchElement depth)) call (some ⟨names, body, otherwise⟩))
  | _ + 1, .decorator call body => do
    runDecorator env call body
    return ""
  | depth + 1, .inclusion call blanks beginsLine body =>
    Run.part (fun _ => beginsLine)
      (watchInclusion env others signal (renderWith (watchElement depth)) call blanks body)

end Watch

/-- The run ends with the signal. -/
def Stops {α : Type} (signal : Cause) (r : Run α) (s : Session) : Prop :=
  ∃ failure s', runFrom r s = (.error failure, s') ∧ failure.cause = signal

/-- The rendering comes to include one of the other templates: it stops there, whatever the signal. -/
def Tree.Includes (t : Tree) (env : Environment) (others : String → Bool)
    (store : DocumentStore) (chance : Nat) : Prop :=
  ∀ signal, Stops signal (renderWith (watchElement env others signal depthLimit) t)
    ⟨store, chance, Scope.start⟩

/-! ## Expressions -/

section Expressions

variable (env : Environment) (table : Table Tree)

theorem call_withTemplates (helper : Helper) (args : Arguments) :
    helper.call (env.withTemplates table) args = helper.call env args := by
  cases helper <;> rfl

mutual

theorem evaluate_withTemplates (e : Expr) :
    evaluate (env.withTemplates table) e = evaluate env e := by
  cases e with
  | constant value => rw [evaluate, evaluate]
  | word text => rw [evaluate, evaluate]
  | path path => rw [evaluate, evaluate]; rfl
  | call head params named =>
    rw [evaluate, evaluate, nameOf_withTemplates head, evaluateAll_withTemplates params,
      evaluateNamed_withTemplates named]
    simp only [call_withTemplates]

theorem nameOf_withTemplates (e : Expr) : nameOf (env.withTemplates table) e = nameOf env e := by
  cases e with
  | constant value => rw [nameOf, nameOf]
  | word text => rw [nameOf, nameOf]
  | path path => rw [nameOf, nameOf]
  | call head params named =>
    rw [nameOf, nameOf, nameOf_withTemplates head, evaluateAll_withTemplates params,
      evaluateNamed_withTemplates named]
    simp only [call_withTemplates]

theorem evaluateAll_withTemplates (es : List Expr) :
    evaluateAll (env.withTemplates table) es = evaluateAll env es := by
  cases es with
  | nil => rw [evaluateAll, evaluateAll]
  | cons e rest =>
    rw [evaluateAll, evaluateAll, evaluate_withTemplates e, evaluateAll_withTemplates rest]

theorem evaluateNamed_withTemplates (rows : List (String × Expr)) :
    evaluateNamed (env.withTemplates table) rows = evaluateNamed env rows := by
  match rows with
  | [] => rw [evaluateNamed, evaluateNamed]
  | (name, e) :: rest =>
    rw [evaluateNamed, evaluateNamed, evaluate_withTemplates e, evaluateNamed_withTemplates rest]

end

theorem evaluateCall_withTemplates (call : Call) :
    evaluateCall (env.withTemplates table) call = evaluateCall env call := by
  rw [evaluateCall, evaluateCall, nameOf_withTemplates, evaluateAll_withTemplates,
    evaluateNamed_withTemplates]

theorem runDecorator_withTemplates (call : Call) (body? : Option Tree) :
    runDecorator (env.withTemplates table) call body? = runDecorator env call body? := by
  rw [runDecorator, runDecorator, evaluateCall_withTemplates]

theorem nameBodies_withTemplates (name : Option String) (elements : List PlacedElement) :
    nameBodies (env.withTemplates table) name elements = nameBodies env name elements := by
  induction elements with
  | nil => rfl
  | cons placed rest ih =>
    obtain ⟨place, e⟩ := placed
    cases e <;> simp only [nameBodies, ih, runDecorator_withTemplates]

end Expressions

/-! ## Runs -/

/-- From any session the first run ends with the signal, or both are the same. -/
def Unless {α : Type} (signal : Cause) (r r' : Run α) : Prop :=
  ∀ s, Stops signal r s ∨ runFrom r s = runFrom r' s

section Runs

variable {α β : Type} {signal : Cause}

theorem unless_refl (r : Run α) : Unless signal r r := fun _ => .inr rfl

theorem unless_bind {r r' : Run α} {f f' : α → Run β} (first : Unless signal r r')
    (rest : ∀ a, Unless signal (f a) (f' a)) : Unless signal (r >>= f) (r' >>= f') := by
  intro s
  rcases first s with ⟨failure, s', stops, isSignal⟩ | same
  · -- a failure passes through the rest as it is
    exact .inl ⟨failure, s', by rw [runFrom_bind, stops], isSignal⟩
  · rcases outcome : runFrom r' s with ⟨_ | a, s'⟩
    · exact .inr (by rw [runFrom_bind, runFrom_bind, same, outcome])
    · rcases rest a s' with ⟨failure, s'', stops, isSignal⟩ | sameRest
      · exact .inl ⟨failure, s'', by rw [runFrom_bind, same, outcome]; exact stops, isSignal⟩
      · exact .inr (by rw [runFrom_bind, runFrom_bind, same, outcome]; exact sameRest)

/-- What goes on with the result of one and the same run. -/
theorem unless_after (r : Run α) {f f' : α → Run β} (rest : ∀ a, Unless signal (f a) (f' a)) :
    Unless signal (r >>= f) (r >>= f') :=
  unless_bind (unless_refl r) rest

/-- What goes on with the scope of one session. -/
theorem unless_scope {f f' : Scope → Run α} {s : Session}
    (rest : Unless signal (f s.scope) (f' s.scope)) :
    Stops signal (Run.scope >>= f) s ∨ runFrom (Run.scope >>= f) s = runFrom (Run.scope >>= f') s :=
  rest s

theorem unless_placed {r r' : Run α} (name : Option String) (place : Option Position)
    (runs : Unless signal r r') : Unless signal (placed name place r) (placed name place r') := by
  intro s
  rw [runFrom_placed, runFrom_placed]
  rcases runs s with ⟨failure, s', stops, isSignal⟩ | same
  · -- a place is added to the failure, which keeps its cause
    exact .inl ⟨failure.within place name, s', by rw [runFrom_placed, stops]; rfl, isSignal⟩
  · exact .inr (by rw [same])

theorem unless_part (blanksDue : Progress → Bool) {r r' : Run String} (runs : Unless signal r r') :
    Unless signal (Run.part blanksDue r) (Run.part blanksDue r') :=
  unless_after _ fun _ => unless_after _ fun _ => unless_bind runs fun _ => unless_refl _

theorem unless_inside (frame : Frame) {r r' : Run String} (runs : Unless signal r r') :
    Unless signal (Run.inside frame r) (Run.inside frame r') :=
  unless_after _ fun _ => unless_bind runs fun _ => unless_refl _

end Runs

/-! ## Blocks -/

section Blocks

variable {signal : Cause} {body body' : RenderBody} (bodies : ∀ t, Unless signal (body t) (body' t))
  (block : Block)

include bodies

theorem unless_renderOptional (t? : Option Tree) :
    Unless signal (renderOptional body t?) (renderOptional body' t?) := by
  cases t? with
  | none => exact unless_refl _
  | some t => exact bodies t

theorem unless_renderRounds (found : Found) (rounds : List Round) :
    Unless signal (renderRounds body block found rounds) (renderRounds body' block found rounds) := by
  induction rounds with
  | nil => exact unless_refl _
  | cons r rest ih =>
    refine unless_bind (unless_inside _ (bodies block.body)) fun text => ?_
    exact unless_bind ih fun more => unless_refl _

theorem unless_renderEach (found : Found) :
    Unless signal (renderEach body block found) (renderEach body' block found) := by
  unfold renderEach
  split
  · exact unless_renderOptional bodies _
  · exact unless_renderOptional bodies _
  · exact unless_renderRounds bodies block found _

theorem unless_renderSubject (found : Found) :
    Unless signal (renderSubject body block found) (renderSubject body' block found) := by
  unfold renderSubject
  split
  · exact unless_inside _ (bodies block.body)
  · exact unless_renderOptional bodies _

theorem unless_renderBranch (takesBody : Bool) :
    Unless signal (renderBranch body block takesBody) (renderBranch body' block takesBody) := by
  unfold renderBranch
  split
  · exact bodies block.body
  · exact unless_renderOptional bodies _

theorem unless_renderBlock (helper : BlockHelper) (args : Arguments) :
    Unless signal (renderBlock body helper args block) (renderBlock body' helper args block) := by
  cases helper with
  | raw => exact bodies block.body
  | branch wanted => exact unless_after _ fun found => unless_renderBranch bodies block _
  | each => exact unless_after _ fun found => unless_renderEach bodies block found
  | subject => exact unless_after _ fun found => unless_renderSubject bodies block found

end Blocks

/-! ## Elements -/

section Elements

variable {env : Environment} {others : String → Bool} {signal : Cause} {table : Table Tree}
  {body body' : RenderBody} (bodies : ∀ t, Unless signal (body t) (body' t))

include bodies

theorem unless_renderHelper (call : Call) (block? : Option Block) :
    Unless signal (renderHelper env body call block?)
      (renderHelper (env.withTemplates table) body' call block?) := by
  unfold renderHelper
  rw [evaluateCall_withTemplates]
  refine unless_after _ fun (name, args) => ?_
  dsimp only
  cases Helper.ofName? name with
  | none => exact unless_refl _
  | some helper =>
    simp only [call_withTemplates]
    cases block? with
    | none => cases helper <;> exact unless_refl _
    | some block =>
      cases helper with
      | block helper => exact unless_renderBlock bodies block helper args
      | test test => exact unless_after _ fun takesBody => unless_renderBranch bodies block takesBody
      | _ => exact unless_refl _

theorem unless_renderOutput (call : Call) :
    Unless signal (renderOutput env body call) (renderOutput (env.withTemplates table) body' call) := by
  unfold renderOutput
  rw [nameOf_withTemplates, evaluate_withTemplates]
  split
  · exact unless_part _ (unless_renderHelper bodies call none)
  · refine unless_after _ fun name => ?_
    split
    · exact unless_part _ (unless_renderHelper bodies call none)
    · exact unless_refl _

theorem unless_renderIncluded {s : Session} {name : String} {body? : Option Tree}
    (same : findIncluded? (env.withTemplates table) s.scope name body? =
      findIncluded? env s.scope name body?) (args : Arguments) (blanks : Option String) :
    Stops signal (renderIncluded env body name args blanks body?) s ∨
      runFrom (renderIncluded env body name args blanks body?) s =
        runFrom (renderIncluded (env.withTemplates table) body' name args blanks body?) s := by
  unfold renderIncluded
  refine unless_scope ?_
  rw [same]
  split
  · exact unless_refl _
  · cases findIncluded? env s.scope name body? with
    | none => exact unless_refl _
    | some included =>
      refine unless_after _ fun frame => unless_after _ fun _ => ?_
      exact unless_bind (bodies included) fun text => unless_refl _

variable (same : ∀ name, others name = false → Table.get? table name = Table.get? env.templates name)

include same

/-- What is included is one of the other templates, or it is the same in both environments. -/
theorem unless_watchIncluded (name : String) (args : Arguments) (blanks : Option String)
    (body? : Option Tree) :
    Unless signal (watchIncluded env others signal body name args blanks body?)
      (renderIncluded (env.withTemplates table) body' name args blanks body?) := by
  intro s
  have watched : runFrom (watchIncluded env others signal body name args blanks body?) s =
      runFrom (if others name && (s.scope.named? name).isNone then Run.fail signal
        else renderIncluded env body name args blanks body?) s := rfl
  -- a body of that name comes before any registered template, so it is not one of the others
  by_cases isOther : (others name && (s.scope.named? name).isNone) = true
  · exact .inl ⟨Failure.ofCause signal, s, by rw [watched, if_pos isOther]; rfl, rfl⟩
  · rw [if_neg isOther] at watched
    rw [Stops, watched]
    refine unless_renderIncluded bodies ?_ args blanks
    show ((s.scope.named? name).or (Table.get? table name)).or body? =
      ((s.scope.named? name).or (Table.get? env.templates name)).or body?
    cases isNamed : s.scope.named? name with
    | some named => rfl
    | none =>
      rw [isNamed] at isOther
      rw [same name (by simpa using isOther)]

theorem unless_watchInclusion (call : Call) (blanks : Option String) (body? : Option Tree) :
    Unless signal (watchInclusion env others signal body call blanks body?)
      (renderInclusion (env.withTemplates table) body' call blanks body?) := by
  unfold watchInclusion renderInclusion
  rw [evaluateCall_withTemplates]
  refine unless_after _ fun (name, args) => ?_
  cases body? with
  | none => exact unless_watchIncluded bodies same name args blanks none
  | some t =>
    obtain ⟨own, elements⟩ := t
    dsimp only
    rw [nameBodies_withTemplates]
    exact unless_after _ fun _ => unless_watchIncluded bodies same name args blanks _

end Elements

/-! ## Templates -/

section Templates

variable {env : Environment} {others : String → Bool} {signal : Cause} {table : Table Tree}

theorem unless_renderAll {element element' : Element → Run String}
    (each : ∀ e, Unless signal (element e) (element' e)) (name : Option String)
    (elements : List PlacedElement) :
    Unless signal (renderAll element name elements) (renderAll element' name elements) := by
  induction elements with
  | nil => exact unless_refl _
  | cons placed rest ih =>
    obtain ⟨place, e⟩ := placed
    refine unless_bind (unless_placed _ _ (each e)) fun text => ?_
    exact unless_bind ih fun more => unless_refl _

theorem unless_renderWith {element element' : Element → Run String}
    (each : ∀ e, Unless signal (element e) (element' e)) (t : Tree) :
    Unless signal (renderWith element t) (renderWith element' t) :=
  unless_after _ fun _ => unless_renderAll each t.name? t.elements

variable (same : ∀ name, others name = false → Table.get? table name = Table.get? env.templates name)

include same

/-- The induction is on the number of bodies and inclusions that may still be entered. -/
theorem unless_watchElement (signal : Cause) (depth : Nat) (e : Element) :
    Unless signal (watchElement env others signal depth e)
      (renderElement (env.withTemplates table) depth e) := by
  induction depth generalizing e with
  | zero => exact unless_refl _
  | succ depth ih =>
    have bodies := unless_renderWith ih
    cases e with
    | text text => exact unless_refl _
    | output call => exact unless_renderOutput bodies call
    | block call names beginsLine body otherwise =>
      exact unless_part _ (unless_renderHelper bodies call _)
    | decorator call body =>
      rw [watchElement, renderElement, runDecorator_withTemplates]
      exact unless_refl _
    | inclusion call blanks beginsLine body =>
      exact unless_part _ (unless_watchInclusion bodies same call blanks body)

/-- A template that includes none of the others is rendered as if they were not there. -/
theorem render_of_not_includes {t : Tree} {store : DocumentStore} {chance : Nat}
    (notIncluded : ¬ t.Includes env others store chance) :
    t.render (env.withTemplates table) store chance = t.render env store chance := by
  obtain ⟨signal, goesOn⟩ := Classical.not_forall.1 notIncluded
  have agrees (table : Table Tree)
      (same : ∀ name, others name = false → Table.get? table name = Table.get? env.templates name) :=
    (unless_renderWith (unless_watchElement same signal depthLimit) t _).resolve_left goesOn
  -- both renderings are the one that is watched
  have sameRuns := (agrees table same).symm.trans (agrees env.templates fun _ _ => rfl)
  exact congrArg (fun (result, session) => (session.store, session.chance, result)) sameRuns

end Templates

end StubServer.Template
