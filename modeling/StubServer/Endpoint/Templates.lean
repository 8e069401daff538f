import StubServer.Endpoint.Basic
import StubServer.Files
import StubServer.Http.Request
import StubServer.Route.Walk
import StubServer.Template.Render
import StubServer.Yaml.Value

/-! # Templates of endpoints

The status of an endpoint's response, its headers and its body are templates.  They are read when
the endpoint is compiled, together with the file that holds the body if there is one, and rendered
in a fixed order: headers, status, body.  What they do to the stored documents is seen by those
after them and stays, also when one of them fails.
-/

namespace StubServer

/-! ## Data -/

/-- What templates can see of a request. -/
structure RequestData where
  pathParams : Table String
  /-- The first value of each parameter. -/
  queryParams : Table String
  body : String
  /-- The body as a value, if it is one. -/
  bodyJson : Option Json
  url : String
  path : String
  host : String
  method : String
  headers : Table String

namespace RequestData

def ofRequest (r : Http.Request) (params : Route.Captures) : RequestData :=
  let body := r.bodyText.getD ""
  { pathParams := params
    queryParams := r.queryParams.filterMap fun (name, values) => values.head?.map fun v => (name, v)
    body := body
    bodyJson := Json.parse? body
    url := r.url
    path := r.path
    host := r.host.getD ""
    method := r.method
    headers := r.flatHeaders }

def tableJson (t : Table String) : Json := .obj (t.map fun (name, text) => (name, .str text))

def toJson (d : RequestData) : Json := .object [
  ("RequestPathParams", tableJson d.pathParams),
  ("RequestQueryParams", tableJson d.queryParams),
  ("RequestBody", .str d.body),
  ("RequestBodyJSONData", d.bodyJson.getD .null),
  ("RequestURL", .str d.url),
  ("RequestPath", .str d.path),
  ("RequestHost", .str d.host),
  ("RequestMethod", .str d.method),
  ("RequestHeaders", tableJson d.headers)]

end RequestData

/-! ## Errors -/

inductive RenderReason where
  | template (failure : Template.Failure)
  | notCompiled
  | notAStatus (text : String)
  | notAMap
  | nameNotScalar
  | valueNotScalar (name : String)
  | invalidName (name : String)
  | invalidValue (name : String)
  /-- A reason in words. -/
  | stated (text : String)
  deriving Repr

/-- The text of a block of headers that cannot be read ends where its explanation would begin. -/
def RenderReason.message : RenderReason → String
  | .template failure => failure.message
  | .notCompiled => "endpoint has no compiled templates"
  | .notAStatus text => "'" ++ text ++ "' is not a valid status code"
  | .notAMap => "header block is not a YAML map: "
  | .nameNotScalar => "header names must be scalars"
  | .valueNotScalar name => "header '" ++ name ++ "' must have a scalar value"
  | .invalidName name => "invalid header name '" ++ name ++ "'"
  | .invalidValue name => "invalid value for header '" ++ name ++ "'"
  | .stated text => text

structure RenderError where
  id : String
  stage : Stage
  reason : RenderReason
  deriving Repr

def RenderError.message (e : RenderError) : String :=
  "failed to render " ++ e.stage.name ++ " for endpoint '" ++ e.id ++ "': " ++ e.reason.message

/-! ## Compiling -/

/-- The templates that have been compiled, by name, and where files of bodies are. -/
structure TemplateSet where
  templates : Table Template.Tree
  endpointIds : List String
  bodyFilesDir : Option String

namespace TemplateSet

def empty (endpointIds : List String) (bodyFilesDir : Option String) : TemplateSet :=
  ⟨[], endpointIds, bodyFilesDir⟩

def templateName (id : String) (stage : Stage) : String := id ++ "#" ++ stage.name

/-- Where the file of a body is looked for. -/
def bodyPath (bodyFilesDir : Option String) (file : String) : String :=
  match bodyFilesDir with
  | some dir => Files.join dir file
  | none => file

/-- The text of the body template, if the endpoint has one. -/
def bodyText (set : TemplateSet) (files : Files) (e : Endpoint) :
    Except LoadError (Option String) :=
  match e.response.body, e.response.bodyFile with
  | some _, some _ => .error (.bodyAndBodyFile e.id)
  | some body, none => .ok (some body)
  | none, some file =>
    let path := bodyPath set.bodyFilesDir file
    match files.readText path with
    | .ok text => .ok (some text)
    | .error _ => .error (.unreadableBodyFile e.id path)
  | none, none => .ok none

/-- The templates that an endpoint declares, in the order in which they are compiled. -/
def declared (e : Endpoint) (body : Option String) : List (Stage × String) :=
  (.status, e.response.status) ::
    ((e.response.headers.map fun text => (Stage.headers, text)).toList ++
      (body.map fun text => (Stage.body, text)).toList)

/-- Compiles templates one after the other.  Those before a bad one stay. -/
def register (set : TemplateSet) (id : String) :
    List (Stage × String) → TemplateSet × Except LoadError Unit
  | [] => (set, .ok ())
  | (stage, text) :: rest =>
    let name := templateName id stage
    match Template.Tree.parse? name text with
    | none => (set, .error (.invalidTemplate id stage))
    | some t => register { set with templates := Table.insert set.templates name t } id rest

/-- Compiles the templates of an endpoint. -/
def compile (set : TemplateSet) (files : Files) (e : Endpoint) :
    TemplateSet × Except LoadError Unit :=
  match set.bodyText files e with
  | .error cause => (set, .error cause)
  | .ok body => set.register e.id (declared e body)

/-- Compiles the templates of all endpoints, up to the first that cannot be. -/
def compileAll (set : TemplateSet) (files : Files) : List Endpoint → Except LoadError TemplateSet
  | [] => .ok set
  | e :: rest =>
    match set.compile files e with
    | (_, .error cause) => .error cause
    | (set, .ok ()) => set.compileAll files rest

end TemplateSet

/-! ## Rendering -/

/-- What rendering uses up and changes. -/
structure Resources where
  store : DocumentStore
  /-- The source of drawn numbers. -/
  chance : Nat

/-- A response as its templates give it. -/
structure Rendered where
  status : Nat
  /-- In the order in which the template of headers declares them. -/
  headers : List (String × String)
  body : String
  deriving DecidableEq, Repr

abbrev Serving (α : Type) := ExceptT RenderError (StateM Resources) α

/-- A status code: a number from 100 to 999, with blanks around it at most. -/
def readStatus? (text : String) : Option Nat :=
  let digits := match (Text.trim text).toList with
    | '+' :: rest => rest
    | cs => cs
  if digits.isEmpty || !digits.all Char.isDigit then none
  else
    let n := digits.foldl (fun n c => n * 10 + (c.toNat - 48)) 0
    if 100 ≤ n ∧ n ≤ 999 then some n else none

def readHeaderEntries : List (Yaml.Value × Yaml.Value) → Except RenderReason (List (String × String))
  | [] => .ok []
  | (name, value) :: rest =>
    match name.scalarText? with
    | none => .error .nameNotScalar
    | some name =>
      match value.scalarText? with
      | none => .error (.valueNotScalar name)
      | some value =>
        match readHeaderEntries rest with
        | .error e => .error e
        | .ok more => .ok ((name, value) :: more)

/-- Headers as a mapping of scalars; a block of nothing but blanks declares none. -/
def readHeaderBlock (text : String) : Except RenderReason (List (String × String)) :=
  if Text.isAllBlank text then .ok []
  else
    match Yaml.mapping? text with
    | none => .error .notAMap
    | some entries => readHeaderEntries entries

namespace TemplateSet

/-- Renders the template of a stage, if there is one. -/
def renderStage (compiled : TemplateSet) (now : Time.Instant) (data : Json) (id : String)
    (stage : Stage) : Serving (Option String) := do
  match Table.get? compiled.templates (templateName id stage) with
  | none => return none
  | some t =>
    let resources ← get
    let env : Template.Environment := ⟨data, compiled.endpointIds, compiled.templates, now⟩
    let (store, chance, result) := t.render env resources.store resources.chance
    set (Resources.mk store chance)
    match result with
    | .ok text => return some text
    | .error failure => throw ⟨id, stage, .template failure⟩

def renderHeaders (set : TemplateSet) (now : Time.Instant) (data : Json) (id : String) :
    Serving (List (String × String)) := do
  match ← set.renderStage now data id .headers with
  | none => return []
  | some block =>
    match readHeaderBlock block with
    | .ok headers => return headers
    | .error reason => throw ⟨id, .headers, reason⟩

def renderStatus (set : TemplateSet) (now : Time.Instant) (data : Json) (id : String) :
    Serving Nat := do
  match ← set.renderStage now data id .status with
  | none => throw ⟨id, .status, .notCompiled⟩
  | some text =>
    match readStatus? text with
    | some status => return status
    | none => throw ⟨id, .status, .notAStatus (Text.trim text)⟩

/-- Renders the response of the endpoint with an id. -/
def render (set : TemplateSet) (now : Time.Instant) (data : Json) (id : String) :
    Serving Rendered := do
  let headers ← set.renderHeaders now data id
  let status ← set.renderStatus now data id
  let body ← set.renderStage now data id .body
  return ⟨status, headers, body.getD ""⟩

end TemplateSet

end StubServer
