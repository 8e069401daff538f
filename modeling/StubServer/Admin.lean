import StubServer.History.Basic

/-! # Admin routes

Routes below a prefix that show the history of a server and clear it.  They come before all
endpoints and leave no trace in the history.
-/

namespace StubServer.Admin

inductive Route where
  | matchRecords (id : String)
  | matchCount (id : String)
  | clearMatches
  | mismatchRecords
  | mismatchCount
  | clearMismatches
  | endpointIds
  deriving DecidableEq, Repr

/-- The route for a method and the segments behind the prefix. -/
def Route.find? : String → List String → Option Route
  | "GET", ["matches", id] => some (.matchRecords id)
  | "GET", ["matches", id, "count"] => some (.matchCount id)
  | "DELETE", ["matches"] => some .clearMatches
  | "GET", ["mismatches"] => some .mismatchRecords
  | "GET", ["mismatches", "count"] => some .mismatchCount
  | "DELETE", ["mismatches"] => some .clearMismatches
  | "GET", ["endpoints"] => some .endpointIds
  | _, _ => none

def isSlash (c : Char) : Bool := c == '/'

/-- The part of a path behind the prefix, without slashes at its ends.  The prefix ends at the end
of a segment; slashes at its own end do not count, and an empty prefix has no routes at all. -/
def behindPrefix (start path : List Char) : Option (List Char) :=
  if start.isEmpty then none
  else
    match Text.dropStart? (Text.dropEndWhile isSlash start) path with
    | some [] => some []
    | some ('/' :: rest) => some (Text.stripWhile isSlash rest)
    | _ => none

def segments (rest : List Char) : List String :=
  if rest.isEmpty then [] else (Text.splitChars '/' rest).map String.ofList

/-! ## Answers -/

def notFound : Http.Response :=
  .json 404 (.object [("error", .str "not_found"), ("message", .str "unknown admin route")])

def unavailable (e : History.StoreError) : Http.Response :=
  .json 503 (.object [("error", .str "matchstore_unavailable"), ("message", .str e.message)])

def countJson (n : Int64) : Json := .object [("count", .ofInt n.toInt)]

def deletedJson (what : String) : Json := .object [("deleted", .str what)]

/-- Shows a part of the history. -/
def showPart (store : History.Store) (f : History → Json) : Http.Response × History.Store :=
  match store.read f with
  | .ok value => (.json 200 value, store)
  | .error e => (unavailable e, store)

/-- Clears a part of the history. -/
def clearPart (store : History.Store) (f : History → History) (what : String) :
    Http.Response × History.Store :=
  match store.write f with
  | .ok store => (.json 200 (deletedJson what), store)
  | .error e => (unavailable e, store)

/-- Answers on a route; `ids` are those of the endpoints being served. -/
def Route.answer (ids : List String) (store : History.Store) : Route → Http.Response × History.Store
  | .matchRecords id => showPart store fun h => .arr ((h.matchRecords id).map (·.toJson))
  | .matchCount id => showPart store fun h => countJson (h.matchCount id)
  | .clearMatches => clearPart store .clearMatches "matches"
  | .mismatchRecords => showPart store fun h => .arr (h.mismatchRecords.map (·.toJson))
  | .mismatchCount => showPart store fun h => countJson h.mismatchCount
  | .clearMismatches => clearPart store .clearMismatches "mismatches"
  | .endpointIds => (.json 200 (.texts ids), store)

/-- Answers a request below the prefix, and leaves any other to the endpoints. -/
def respond? (start method path : String) (ids : List String) (store : History.Store) :
    Option (Http.Response × History.Store) :=
  (behindPrefix start.toList path.toList).map fun rest =>
    match Route.find? method (segments rest) with
    | none => (notFound, store)
    | some route => route.answer ids store

end StubServer.Admin
