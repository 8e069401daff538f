import StubServer.Template.Helper
import StubServer.Template.Reader

/-! # Rendering

A template is rendered by writing its texts, showing its values and calling its helpers from left
to right.  A body is rendered each time that its block asks for it.  Templates may include each
other and themselves, so the number of bodies and inclusions inside of each other is bounded.
-/

namespace StubServer.Template

/-! ## Expressions -/

mutual

/-- The value of an expression. -/
def evaluate (env : Environment) : Expr → Run Found
  | .constant value => pure (Found.ofValue value)
  | .word _ => pure Found.nothing
  | .path path => do
    let scope ← Run.scope
    Run.ofResult (path.find env.data scope.frames)
  | .call head params named => do
    let name ← nameOf env head
    let params ← evaluateAll env params
    let named ← evaluateNamed env named
    match Helper.ofName? name with
    | none => Run.fail (.helperNotFound name)
    | some helper => return Found.ofValue (← helper.call env ⟨params, named⟩).json

/-- The name that an expression stands for. -/
def nameOf (env : Environment) : Expr → Run String
  | .word text => pure text
  | .path path => pure path.text
  | .constant value => pure (valueText value)
  | .call head params named => do
    let name ← nameOf env head
    let params ← evaluateAll env params
    let named ← evaluateNamed env named
    match Helper.ofName? name with
    | none => Run.fail (.helperNotFound name)
    | some helper => return valueText (← helper.call env ⟨params, named⟩).json

def evaluateAll (env : Environment) : List Expr → Run (List Found)
  | [] => pure []
  | e :: rest => do
    let found ← evaluate env e
    return found :: (← evaluateAll env rest)

def evaluateNamed (env : Environment) : List (String × Expr) → Run (Table Found)
  | [] => pure []
  | (name, e) :: rest => do
    let found ← evaluate env e
    return (name, found) :: (← evaluateNamed env rest)

end

/-- The name of a call and its operands, in the order in which they are evaluated. -/
def evaluateCall (env : Environment) (call : Call) : Run (String × Arguments) := do
  let name ← nameOf env call.head
  let params ← evaluateAll env call.params
  let named ← evaluateNamed env call.named
  return (name, ⟨params, named⟩)

/-! ## Blocks -/

/-- How a body is rendered. -/
abbrev RenderBody := Tree → Run String

def renderOptional (body : RenderBody) : Option Tree → Run String
  | some template => body template
  | none => pure ""

/-- The bodies of a block, and the names for what it runs over. -/
structure Block where
  names : List String
  body : Tree
  otherwise : Option Tree

/-- One round of a block over items or members. -/
structure Round where
  /-- The index or the name of the member. -/
  key : String
  keyValue : Json
  value : Json
  locals : List (String × Json)

def position (index count : Nat) : List (String × Json) :=
  [("first", .bool (index == 0)), ("last", .bool (index + 1 == count))]

def itemRounds (items : List Json) : List Round :=
  items.zipIdx.map fun (value, i) =>
    ⟨toString i, .ofNat i, value, ("index", .ofNat i) :: position i items.length⟩

def memberRounds (members : List (String × Json)) : List Round :=
  members.zipIdx.map fun ((name, value), i) =>
    ⟨name, .str name, value,
      ("key", .str name) :: ("index", .ofNat i) :: position i members.length⟩

/-- The rounds over a value; absent when it is neither a list nor an object. -/
def rounds? : Json → Option (List Round)
  | .arr items => some (itemRounds items)
  | .obj members => some (memberRounds members)
  | _ => none

/-- What the first name of a block stands for. -/
def subjectBinding (found : Found) (value : Json) : Binding :=
  if found.place?.isSome then .subject else .value value

def Round.frame (r : Round) (found : Found) (names : List String) : Frame :=
  let base : Frame := match found.place? with
    | some place => { Frame.root with place := place ++ [r.key] }
    | none => { Frame.root with value := some r.value }
  let bound : List (String × Binding) := match names with
    | [] => []
    | [name] => [(name, subjectBinding found r.value)]
    | name :: key :: _ => [(name, subjectBinding found r.value), (key, .value r.keyValue)]
  { base with names := Table.ofList bound, locals := Table.ofList r.locals }

def renderRounds (body : RenderBody) (block : Block) (found : Found) : List Round → Run String
  | [] => pure ""
  | r :: rest => do
    let text ← Run.inside (r.frame found block.names) (body block.body)
    return text ++ (← renderRounds body block found rest)

def renderEach (body : RenderBody) (block : Block) (found : Found) : Run String :=
  match rounds? found.value with
  | none => renderOptional body block.otherwise
  | some [] => renderOptional body block.otherwise
  | some rounds => renderRounds body block found rounds

def renderSubject (body : RenderBody) (block : Block) (found : Found) : Run String :=
  if holds false found.value then
    let bound : List (String × Binding) := match block.names with
      | [name] => [(name, subjectBinding found found.value)]
      | _ => []
    Run.inside { found.frame with names := bound } (body block.body)
  else renderOptional body block.otherwise

def renderBranch (body : RenderBody) (block : Block) (takesBody : Bool) : Run String :=
  if takesBody then body block.body else renderOptional body block.otherwise

/-- Whether zero counts as true for a branch. -/
def zeroCounts (args : Arguments) : Bool :=
  ((Table.get? args.named "includeZero").bind fun f => f.value.asBool?).getD false

def renderBlock (body : RenderBody) (helper : BlockHelper) (args : Arguments) (block : Block) :
    Run String := do
  match helper with
  | .raw => body block.body
  | .branch wanted =>
    let found ← args.required helper.subjectName 0
    renderBranch body block (holds (zeroCounts args) found.value == wanted)
  | .each =>
    let found ← args.required helper.subjectName 0
    renderEach body block found
  | .subject =>
    let found ← args.required helper.subjectName 0
    renderSubject body block found

/-- Calls a helper where its result is written.  A helper that takes no body is called as if it
had none. -/
def renderHelper (env : Environment) (body : RenderBody) (call : Call) (block? : Option Block) :
    Run String := do
  let (name, args) ← evaluateCall env call
  match Helper.ofName? name, block? with
  | none, _ => Run.fail (.helperNotFound name)
  | some (.block helper), some block => renderBlock body helper args block
  | some (.test test), some block => renderBranch body block (← test.run args)
  | some helper, _ =>
    match ← helper.call env args with
    | .value j => Run.write (valueText j)
    | .text text => return text

def isDue (beginsLine : Bool) (before : Progress) : Bool :=
  before.blanksDue || (beginsLine && before.endedLine)

/-- Shows a value, or calls the helper of that name. -/
def renderOutput (env : Environment) (body : RenderBody) (call : Call) : Run String := do
  if !call.params.isEmpty || !call.named.isEmpty then
    Run.part (isDue false) (renderHelper env body call none)
  else
    let name ← nameOf env call.head
    if (Helper.ofName? name).isSome then Run.part (isDue false) (renderHelper env body call none)
    else
      let found ← evaluate env call.head
      match found.value? with
      | some value => Run.write (valueText value)
      | none => return ""

/-! ## Naming bodies -/

/-- Gives a body a name under which it can be included from here on. -/
def runDecorator (env : Environment) (call : Call) (body? : Option Tree) : Run Unit := do
  let (name, args) ← evaluateCall env call
  if name != "inline" then Run.fail (.decoratorNotFound name)
  else
    let found ← args.required "inline" 0
    match found.value.asText?, body? with
    | none, _ => Run.fail .nameNotText
    | some _, none => Run.fail .bodyMissing
    | some name, some body =>
      Run.changeScope fun scope => { scope with bodies := Table.insert scope.bodies name body }

/-- Runs with the place of an element, and the name of the template that it stands in, known to
any failure. -/
def placed {α : Type} (name : Option String) (place : Option Position) (run : Run α) : Run α :=
  tryCatch run fun failure => throw (failure.within place name)

/-- Gives names to the bodies that a template names at its top. -/
def nameBodies (env : Environment) (name : Option String) : List PlacedElement → Run Unit
  | [] => pure ()
  | (place, .decorator call body) :: rest => do
    placed name place (runDecorator env call body)
    nameBodies env name rest
  | _ :: rest => nameBodies env name rest

/-! ## Inclusions -/

/-- The name that stands for the body of the inclusion that led here. -/
def enclosedName : String := "@partial-block"

/-- The template to include: one that has been named, a registered one, or else the body that
the inclusion itself brings along. -/
def findIncluded? (env : Environment) (scope : Scope) (name : String) (body? : Option Tree) :
    Option Tree :=
  let named? :=
    if name = enclosedName then scope.enclosed[scope.entered]? else Table.get? scope.bodies name
  (named?.or (Table.get? env.templates name)).or body?

/-- A value with the named operands put over its members.  A value that is no object gives way to
them, if there are any. -/
def mergedValue (value : Json) (named : Table Found) : Json :=
  if named.isEmpty then value
  else
    let members := match value with
      | .obj members => members
      | _ => []
    .obj (named.foldl (fun members (name, found) => Table.insert members name found.value) members)

/-- The one frame of an included template.  Its paths begin at the operand, or at what paths begin
at where it is included; the frames around the inclusion are out of its reach. -/
def includedFrame (env : Environment) (args : Arguments) (frames : List Frame) :
    Except Cause Frame := do
  let found ← match args.params[0]? with
    | some found => pure found
    | none => Path.find ⟨"", []⟩ env.data frames
  return { Frame.root with value := some (mergedValue found.value args.named) }

/-- The blanks of an inclusion come on top of those that it stands in already. -/
def addBlanks (outer inner : Option String) : Option String :=
  match outer, inner with
  | some outer, some inner => some (outer ++ inner)
  | outer, inner => outer.or inner

/-- Renders what a name includes, in a scope of its own. -/
def renderIncluded (env : Environment) (body : RenderBody) (name : String) (args : Arguments)
    (blanks : Option String) (body? : Option Tree) : Run String := do
  let scope ← Run.scope
  if scope.current == some name then Run.fail .inclusionOfItself
  else
    match findIncluded? env scope name body? with
    | none => Run.fail (.inclusionNotFound name)
    | some included =>
      let frame ← Run.ofResult (includedFrame env args scope.frames)
      Run.setScope { scope with
        frames := [frame]
        enclosed := body?.toList ++ scope.enclosed
        entered := if name = enclosedName then scope.entered + 1 else scope.entered - 1
        blanks := addBlanks scope.blanks blanks }
      let text ← body included
      -- bodies that the included template has named stay named
      let after ← Run.scope
      Run.setScope { scope with progress := after.progress, bodies := after.bodies }
      return text

/-- The bodies that the body of an inclusion names are known before it is rendered. -/
def renderInclusion (env : Environment) (body : RenderBody) (call : Call) (blanks : Option String)
    (body? : Option Tree) : Run String := do
  let (name, args) ← evaluateCall env call
  match body? with
  | some (.mk own elements) => nameBodies env own elements
  | none => pure ()
  renderIncluded env body name args blanks body?

/-! ## Templates -/

/-- Renders elements one after the other. -/
def renderAll (element : Element → Run String) (name : Option String) :
    List PlacedElement → Run String
  | [] => pure ""
  | (place, e) :: rest => do
    let text ← placed name place (element e)
    return text ++ (← renderAll element name rest)

def renderWith (element : Element → Run String) (template : Tree) : Run String := do
  Run.changeScope fun scope => { scope with current := template.name? }
  renderAll element template.name? template.elements

/-- Renders an element; the number bounds how many bodies and inclusions are rendered inside of
each other. -/
def renderElement (env : Environment) : Nat → Element → Run String
  | 0, _ => Run.fail .tooDeep
  | _ + 1, .text text => Run.write text
  | depth + 1, .output call => renderOutput env (renderWith (renderElement env depth)) call
  | depth + 1, .block call names beginsLine body otherwise =>
    Run.part (isDue beginsLine)
      (renderHelper env (renderWith (renderElement env depth)) call (some ⟨names, body, otherwise⟩))
  | _ + 1, .decorator call body => do
    runDecorator env call body
    return ""
  | depth + 1, .inclusion call blanks beginsLine body =>
    Run.part (fun _ => beginsLine)
      (renderInclusion env (renderWith (renderElement env depth)) call blanks body)

/-- How many bodies and inclusions may be rendered inside of each other. -/
def depthLimit : Nat := 2000

/-- Renders a template.  The store and the source of drawn numbers come back also from a
rendering that failed. -/
def Tree.render (t : Tree) (env : Environment) (store : DocumentStore) (chance : Nat) :
    DocumentStore × Nat × Except Failure String :=
  let (result, session) :=
    (renderWith (renderElement env depthLimit) t).run ⟨store, chance, Scope.start⟩
  (session.store, session.chance, result)

end StubServer.Template
