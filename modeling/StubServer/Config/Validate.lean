import StubServer.Config.Basic
import StubServer.Http.Header

/-! # Checking a configuration

The checks that need no file and no compilation.  They run in the order of declaration, and the
first that fails is reported with the place where it failed.
-/

namespace StubServer.Config

/-- Why an endpoint definition is refused. -/
inductive DefinitionError where
  | emptyId
  | pathWithoutSlash (path : String)
  | emptyMethod
  | bodyAndBodyFile
  deriving DecidableEq, Repr

def DefinitionError.message : DefinitionError → String
  | .emptyId => "Endpoint id cannot be empty"
  | .pathWithoutSlash path => "Path must begin with '/': " ++ path
  | .emptyMethod => "Method cannot be empty"
  | .bodyAndBodyFile => "Response cannot declare both body and body_file"

/-- Why a group is refused. -/
inductive MockError where
  | emptyName
  | endpoint (index : Nat) (cause : DefinitionError)
  deriving DecidableEq, Repr

def MockError.message : MockError → String
  | .emptyName => "Mock name cannot be empty"
  | .endpoint index cause => s!"Endpoint {index}: " ++ cause.message

inductive ValidationError where
  | endpointIdHeader (name : String)
  | mock (index : Nat) (cause : MockError)
  | duplicateId (id : String)
  deriving DecidableEq, Repr

def ValidationError.message : ValidationError → String
  | .endpointIdHeader name => "Invalid endpoint_id_header '" ++ name ++ "'"
  | .mock index cause => s!"Mock {index}: " ++ cause.message
  | .duplicateId id => "Duplicate endpoint id '" ++ id ++ "'"

def EndpointDefinition.check (e : EndpointDefinition) : Except DefinitionError Unit :=
  if e.id = some "" then .error .emptyId
  else if e.request.path.toList.head? ≠ some '/' then .error (.pathWithoutSlash e.request.path)
  else if Text.isAllBlank e.request.method then .error .emptyMethod
  else if e.response.body.isSome && e.response.bodyFile.isSome then .error .bodyAndBodyFile
  else .ok ()

/-- Checks definitions in order, the first of which has the given index. -/
def checkEndpoints (index : Nat) : List EndpointDefinition → Except MockError Unit
  | [] => .ok ()
  | e :: rest =>
    match e.check with
    | .error cause => .error (.endpoint index cause)
    | .ok () => checkEndpoints (index + 1) rest

def MockDefinition.check (m : MockDefinition) : Except MockError Unit :=
  if m.name.isEmpty then .error .emptyName else checkEndpoints 0 m.endpoints

/-- Adds the ids that a group declares to those in use, unless one is in use already. -/
def claimIds (used : List String) : List EndpointDefinition → Except ValidationError (List String)
  | [] => .ok used
  | e :: rest =>
    match e.id with
    | none => claimIds used rest
    | some id => if used.contains id then .error (.duplicateId id) else claimIds (id :: used) rest

def checkMocks (used : List String) (index : Nat) : List MockDefinition → Except ValidationError Unit
  | [] => .ok ()
  | m :: rest =>
    match m.check with
    | .error cause => .error (.mock index cause)
    | .ok () =>
      match claimIds used m.endpoints with
      | .error e => .error e
      | .ok used => checkMocks used (index + 1) rest

def validate (c : Config) : Except ValidationError Unit :=
  if Http.isHeaderName c.settings.endpointIdHeader then checkMocks [] 0 c.mocks
  else .error (.endpointIdHeader c.settings.endpointIdHeader)

end StubServer.Config
