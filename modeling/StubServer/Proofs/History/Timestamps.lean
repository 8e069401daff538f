import StubServer.Proofs.History.Log

/-! # The history without its times

`undated` sets the time of every record to one and the same moment.  Nothing that a history does to
its records looks at their times, so it does the same to undated ones; what recording leaves is
therefore the same at any time, up to the times themselves (`undated_recordMatch`,
`undated_recordMismatch`).
-/

namespace StubServer

namespace Table

variable {α β : Type}

/-- The table with every value changed. -/
def mapValues (f : α → β) (t : Table α) : Table β := t.map fun row => (row.1, f row.2)

theorem get?_mapValues (f : α → β) (t : Table α) (key : String) :
    get? (mapValues f t) key = (get? t key).map f := by
  induction t with
  | nil => rfl
  | cons row rest ih =>
    rw [mapValues, List.map_cons, get?, get?]
    split
    · rfl
    · exact ih

theorem mapValues_insert (f : α → β) (t : Table α) (key : String) (value : α) :
    mapValues f (insert t key value) = insert (mapValues f t) key (f value) := by
  induction t with
  | nil => rfl
  | cons row rest ih =>
    simp only [insert, mapValues, List.map_cons]
    split
    · rfl
    · split
      · rfl
      · exact congrArg _ ih

theorem mapValues_update {f : α → β} {g : α → α} {g' : β → β} (commute : ∀ a, f (g a) = g' (f a))
    (t : Table α) (key : String) (absent : α) :
    mapValues f (update t key absent g) = update (mapValues f t) key (f absent) g' := by
  rw [update, update, mapValues_insert, commute, get?_mapValues, Option.getD_map]

end Table

namespace History

/-! ## Queues -/

section Queues

variable {α β : Type} (f : α → β) (capacity : Nat)

theorem map_push (queue : List α) (x : α) :
    (Queue.push capacity queue x).map f = Queue.push capacity (queue.map f) (f x) := by
  rw [push_eq_lastWithin, push_eq_lastWithin, lastWithin, lastWithin]
  split
  · rw [List.map_append]
    rfl
  · rw [List.rtake, List.map_drop, List.map_append, List.rtake, List.length_append,
      List.length_append, List.length_map]
    rfl

theorem map_pushAll (queue xs : List α) :
    (Queue.pushAll capacity queue xs).map f = Queue.pushAll capacity (queue.map f) (xs.map f) := by
  induction xs generalizing queue with
  | nil => rfl
  | cons x rest ih => exact (ih _).trans (congrArg (Queue.pushAll capacity · _) (map_push ..))

end Queues

/-! ## Undated records -/

def MatchRecord.undated (r : MatchRecord) : MatchRecord := { r with timestamp := ⟨0, 0⟩ }

def MismatchRecord.undated (r : MismatchRecord) : MismatchRecord := { r with timestamp := ⟨0, 0⟩ }

def MatchState.undated (state : MatchState) : MatchState :=
  { state with records := Table.mapValues (List.map MatchRecord.undated) state.records }

def MismatchState.undated (state : MismatchState) : MismatchState :=
  { state with records := state.records.map MismatchRecord.undated }

theorem MatchState.undated_add (capacity : Nat) (state : MatchState) (id : String)
    (records : List MatchRecord) :
    (state.add capacity id records).undated =
      state.undated.add capacity id (records.map MatchRecord.undated) := by
  have kept : Table.mapValues (List.map MatchRecord.undated)
      (Table.update state.records id [] fun queue => Queue.pushAll capacity queue records) =
      Table.update (Table.mapValues (List.map MatchRecord.undated) state.records) id []
        fun queue => Queue.pushAll capacity queue (records.map MatchRecord.undated) :=
    Table.mapValues_update (fun queue => map_pushAll MatchRecord.undated capacity queue records) ..
  simp only [undated, add, kept, List.length_map]

theorem MismatchState.undated_add (capacity : Nat) (state : MismatchState)
    (records : List MismatchRecord) :
    (state.add capacity records).undated =
      state.undated.add capacity (records.map MismatchRecord.undated) := by
  simp only [undated, add, map_pushAll, List.length_map]

/-- All records as if they were of one moment. -/
def undated (h : History) : History :=
  { h with matched := h.matched.undated, mismatched := h.mismatched.undated }

theorem undated_addMatches (batch : List (String × List MatchRecord)) (h : History) :
    (h.addMatches batch).undated =
      h.undated.addMatches (batch.map fun row => (row.1, row.2.map MatchRecord.undated)) := by
  induction batch generalizing h with
  | nil => rfl
  | cons row rest ih =>
    have first : (h.addMatches [row]).undated =
        h.undated.addMatches [(row.1, row.2.map MatchRecord.undated)] := by
      simp only [undated, addMatches, List.foldl_cons, List.foldl_nil, MatchState.undated_add]
    exact (ih (h.addMatches [row])).trans (congrArg _ first)

theorem undated_addMismatches (records : List MismatchRecord) (h : History) :
    (h.addMismatches records).undated =
      h.undated.addMismatches (records.map MismatchRecord.undated) := by
  simp only [undated, addMismatches, MismatchState.undated_add]

/-! ## Recording -/

namespace Store

def undated : Store → Store
  | .held h => .held h.undated
  | .unreachable reason => .unreachable reason

theorem undated_recordMatch (store : Store) (now : Time.Instant) (id : String)
    (request : Http.Request) (response : RecordedResponse) :
    (store.recordMatch now id request response).map (·.1.undated) =
      (store.undated.recordMatch ⟨0, 0⟩ id request response).map (·.1) := by
  have sameMode : store.undated.matchesCountOnly = store.matchesCountOnly := by cases store <;> rfl
  unfold recordMatch
  rw [sameMode]
  cases store with
  | unreachable reason => split <;> rfl
  | held h =>
    split
    · rfl
    · exact congrArg (fun h => Except.ok (Store.held h)) (undated_addMatches _ h)

theorem undated_recordMismatch (store : Store) (now : Time.Instant) (request : Http.Request)
    (cause : Route.Mismatch) :
    (store.recordMismatch now request cause).map undated =
      store.undated.recordMismatch ⟨0, 0⟩ request cause := by
  have sameMode : store.undated.mismatchesCountOnly = store.mismatchesCountOnly := by
    cases store <;> rfl
  unfold recordMismatch
  rw [sameMode]
  cases store with
  | unreachable reason => split <;> rfl
  | held h =>
    split
    · rfl
    · exact congrArg (fun h => Except.ok (Store.held h)) (undated_addMismatches _ h)

end Store

end History

end StubServer
