import StubServer.Endpoint.Basic

/-! # Loading endpoints

All endpoints of a configuration, in the order of declaration.  A definition without an id gets
one from a counter that no load ever turns back, also one that fails.  Ids are distinct within a
load.
-/

namespace StubServer.Endpoint

def generatedId (n : Nat) : String := "endpoint-" ++ toString n

/-- The id of a definition and the counter after it. -/
def chooseId (counter : Nat) : Option String → String × Nat
  | some id => (id, counter)
  | none => (generatedId (counter + 1), counter + 1)

/-- Reads definitions in order; `used` are the ids given out before.  The counter comes back also
from a load that failed. -/
def loadFrom (counter : Nat) (used : List String) :
    List (String × Config.EndpointDefinition) → Nat × Except LoadError (List Endpoint)
  | [] => (counter, .ok [])
  | (mock, d) :: rest =>
    let (id, counter) := chooseId counter d.id
    if used.contains id then (counter, .error (.duplicateId id))
    else
      match compile id mock d with
      | .error e => (counter, .error e)
      | .ok endpoint =>
        match loadFrom counter (id :: used) rest with
        | (counter, .error e) => (counter, .error e)
        | (counter, .ok more) => (counter, .ok (endpoint :: more))

def load (counter : Nat) (config : Config) : Nat × Except LoadError (List Endpoint) :=
  loadFrom counter [] config.definitions

end StubServer.Endpoint
