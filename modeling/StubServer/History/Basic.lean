import StubServer.History.Queue
import StubServer.History.Record
import StubServer.Route.Match

/-! # History

Matches are kept and counted by the id of the endpoint, mismatches all together.  The records are
bounded and the counts are not.  A history that only counts one of the two keeps no records of it.
The place where a history is held may be out of reach; then nothing can be read from it and nothing
written.
-/

namespace StubServer

namespace History

structure Options where
  matchesCountOnly : Bool
  mismatchesCountOnly : Bool
  /-- Zero keeps all. -/
  maxMatchesPerEndpoint : Nat
  /-- Zero keeps all. -/
  maxMismatches : Nat
  deriving DecidableEq, Repr

def Options.default : Options := ⟨false, false, 100, 100⟩

/-- Records, oldest first, and counts, by the id of the endpoint. -/
structure MatchState where
  records : Table (List MatchRecord)
  /-- Counts may be set off by any amount, so they have a sign. -/
  counts : Table Int64
  deriving DecidableEq, Repr

structure MismatchState where
  records : List MismatchRecord
  count : Int64
  deriving DecidableEq, Repr

namespace MatchState

def empty : MatchState := ⟨[], []⟩

/-- Takes in records under an id, and counts them. -/
def add (capacity : Nat) (state : MatchState) (id : String) (records : List MatchRecord) :
    MatchState where
  counts := Table.update state.counts id 0 (· + Int64.ofNat records.length)
  records := Table.update state.records id [] fun queue => Queue.pushAll capacity queue records

/-- Counts records that are not kept. -/
def addCount (state : MatchState) (id : String) (n : Int64) : MatchState :=
  { state with counts := Table.update state.counts id 0 (· + n) }

end MatchState

namespace MismatchState

def empty : MismatchState := ⟨[], 0⟩

def add (capacity : Nat) (state : MismatchState) (records : List MismatchRecord) :
    MismatchState where
  count := state.count + Int64.ofNat records.length
  records := Queue.pushAll capacity state.records records

def addCount (state : MismatchState) (n : Int64) : MismatchState :=
  { state with count := state.count + n }

end MismatchState

end History

structure History where
  options : History.Options
  matched : History.MatchState
  mismatched : History.MismatchState
  deriving DecidableEq, Repr

namespace History

def empty (options : Options) : History := ⟨options, .empty, .empty⟩

def matchRecords (h : History) (id : String) : List MatchRecord :=
  (Table.get? h.matched.records id).getD []

def matchCount (h : History) (id : String) : Int64 := (Table.get? h.matched.counts id).getD 0

def mismatchRecords (h : History) : List MismatchRecord := h.mismatched.records

def mismatchCount (h : History) : Int64 := h.mismatched.count

def addMatches (batch : List (String × List MatchRecord)) (h : History) : History :=
  let capacity := h.options.maxMatchesPerEndpoint
  { h with matched := batch.foldl (fun state (id, records) => state.add capacity id records) h.matched }

def addMatchCounts (batch : List (String × Int64)) (h : History) : History :=
  { h with matched := batch.foldl (fun state (id, n) => state.addCount id n) h.matched }

def addMismatches (records : List MismatchRecord) (h : History) : History :=
  { h with mismatched := h.mismatched.add h.options.maxMismatches records }

def addMismatchCount (n : Int64) (h : History) : History :=
  { h with mismatched := h.mismatched.addCount n }

def clearMatches (h : History) : History := { h with matched := .empty }

def clearMismatches (h : History) : History := { h with mismatched := .empty }

/-! ## Stores -/

inductive StoreError where
  | unavailable (reason : String)
  deriving DecidableEq, Repr

def StoreError.message : StoreError → String
  | .unavailable reason => "matchstore backend unavailable: " ++ reason

/-- A place where a history is held, or one that cannot be reached. -/
inductive Store where
  | held (history : History)
  | unreachable (reason : String)
  deriving Repr

namespace Store

def ofOptions (options : Options) : Store := .held (.empty options)

def read {α : Type} (f : History → α) : Store → Except StoreError α
  | .held h => .ok (f h)
  | .unreachable reason => .error (.unavailable reason)

def write (f : History → History) : Store → Except StoreError Store
  | .held h => .ok (.held (f h))
  | .unreachable reason => .error (.unavailable reason)

def matchesCountOnly : Store → Bool
  | .held h => h.options.matchesCountOnly
  | .unreachable _ => false

def mismatchesCountOnly : Store → Bool
  | .held h => h.options.mismatchesCountOnly
  | .unreachable _ => false

/-! ## Recording -/

/-- Records that an endpoint has answered a request.  The record comes back, unless matches are
only counted. -/
def recordMatch (store : Store) (now : Time.Instant) (id : String) (request : Http.Request)
    (response : RecordedResponse) : Except StoreError (Store × Option MatchRecord) :=
  if store.matchesCountOnly then
    (store.write (.addMatchCounts [(id, 1)])).map fun store => (store, none)
  else
    let record : MatchRecord := ⟨id, now, .ofRequest request, response⟩
    (store.write (.addMatches [(id, [record])])).map fun store => (store, some record)

/-- Records that no endpoint took a request. -/
def recordMismatch (store : Store) (now : Time.Instant) (request : Http.Request)
    (cause : Route.Mismatch) : Except StoreError Store :=
  if store.mismatchesCountOnly then store.write (.addMismatchCount 1)
  else store.write (.addMismatches [⟨now, .ofRequest request, cause.text⟩])

end Store

end History

end StubServer
