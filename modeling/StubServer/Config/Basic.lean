import StubServer.Net.SocketAddress
import StubServer.Table

/-! # Configurations

What a server is told: its settings, further files to read endpoints from, and groups of endpoint
definitions.  A definition is plain data; nothing in it has been read as a pattern, an expression
or a template yet.
-/

namespace StubServer

namespace Config

/-- What a request has to look like. -/
structure RequestDefinition where
  scheme : Option String
  host : Option String
  method : String
  path : String
  query : Table String
  headers : Table String
  body : Option String
  deriving DecidableEq, Repr

/-- The templates of a response. -/
structure ResponseDefinition where
  status : String
  headers : Option String
  body : Option String
  bodyFile : Option String
  deriving DecidableEq, Repr

def ResponseDefinition.default : ResponseDefinition := ⟨"200", none, none, none⟩

structure EndpointDefinition where
  id : Option String
  priority : Int
  request : RequestDefinition
  response : ResponseDefinition
  deriving DecidableEq, Repr

/-- A named group of endpoints. -/
structure MockDefinition where
  name : String
  endpoints : List EndpointDefinition
  deriving DecidableEq, Repr

structure Settings where
  listen : Net.SocketAddress
  bodyFilesDir : Option String
  matchesCountOnly : Bool
  mismatchesCountOnly : Bool
  /-- Zero keeps all. -/
  maxMatchesPerEndpoint : Nat
  /-- Zero keeps all. -/
  maxMismatches : Nat
  endpointIdHeader : String
  /-- Empty switches the admin routes off. -/
  adminPrefix : String
  logMatches : Bool
  logMismatches : Bool
  deriving DecidableEq, Repr

def Settings.default : Settings where
  listen := .loopback
  bodyFilesDir := none
  matchesCountOnly := false
  mismatchesCountOnly := false
  maxMatchesPerEndpoint := 100
  maxMismatches := 100
  endpointIdHeader := "endpoint-id"
  adminPrefix := "/__admin"
  logMatches := true
  logMismatches := true

end Config

structure Config where
  settings : Config.Settings
  mockFiles : List String
  mocks : List Config.MockDefinition
  deriving DecidableEq, Repr

namespace Config

def default : Config := ⟨.default, [], []⟩

/-- All endpoint definitions with the name of their group, in the order of declaration. -/
def definitions (c : Config) : List (String × EndpointDefinition) :=
  c.mocks.flatMap fun mock => mock.endpoints.map fun e => (mock.name, e)

def endpointCount (c : Config) : Nat := (c.mocks.flatMap fun mock => mock.endpoints).length

end Config

end StubServer
