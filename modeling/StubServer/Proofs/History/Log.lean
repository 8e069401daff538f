import Mathlib.Algebra.BigOperators.Group.List.Basic
import Mathlib.Algebra.Ring.Int.Defs
import Mathlib.Data.List.DropRight
import StubServer.History.Basic

/-! # The history as a log

Beside a history stands a log that forgets nothing between two clearings: `Ledger.log` gathers the
records that a list of operations has added to one part of the history, `Ledger.counted` the counts
added without a record.  What can be read from the history is the end of this log, as far as the
capacity goes, and its full length together with the counts (`matchRecords_after`,
`matchCount_after`).  As the log hears only of what concerns it, neither batches nor other ids nor
the other kind of record make a difference (`bounded_log`).
-/

namespace StubServer.History

/-! ## Queues -/

section Queues

variable {α : Type}

/-- The last elements of a list, as many as the capacity allows. -/
def lastWithin (capacity : Nat) (xs : List α) : List α :=
  if capacity = 0 then xs else xs.rtake capacity

theorem length_lastWithin (capacity : Nat) (xs : List α) :
    (lastWithin capacity xs).length =
      if capacity = 0 then xs.length else min xs.length capacity := by
  unfold lastWithin
  split
  · rfl
  · rw [List.rtake, List.length_drop]
    omega

theorem evict_eq_rtake (capacity : Nat) (xs : List α) :
    Queue.evict capacity xs = xs.rtake capacity := by
  induction xs with
  | nil => rw [Queue.evict, List.rtake_nil]
  | cons x rest ih =>
    rw [Queue.evict, List.rtake, List.length_cons]
    split
    · next tooLong => rw [ih, List.rtake, Nat.succ_sub (by omega), List.drop_succ_cons]
    · next fits => rw [Nat.sub_eq_zero_of_le (by omega), List.drop_zero]

theorem push_eq_lastWithin (capacity : Nat) (xs : List α) (x : α) :
    Queue.push capacity xs x = lastWithin capacity (xs ++ [x]) := by
  unfold Queue.push lastWithin
  cases capacity with
  | zero => rfl
  | succ n => rw [if_pos n.succ_pos, if_neg n.succ_ne_zero, evict_eq_rtake]

/-- An element that has been given up is not missed later. -/
theorem push_lastWithin (capacity : Nat) (xs : List α) (x : α) :
    Queue.push capacity (lastWithin capacity xs) x = lastWithin capacity (xs ++ [x]) := by
  rw [push_eq_lastWithin]
  unfold lastWithin
  cases capacity with
  | zero => rfl
  | succ n =>
    -- the last `n + 1` of `xs ++ [x]` are among `x` and the last `n + 1` of `xs`
    rw [if_neg n.succ_ne_zero, if_neg n.succ_ne_zero, if_neg n.succ_ne_zero]
    simp only [List.rtake, List.length_append, List.length_drop, List.length_singleton]
    rw [← List.drop_append_of_le_length (by omega), List.drop_drop]
    congr 1
    omega

theorem pushAll_lastWithin (capacity : Nat) (xs ys : List α) :
    Queue.pushAll capacity (lastWithin capacity xs) ys = lastWithin capacity (xs ++ ys) := by
  induction ys generalizing xs with
  | nil => rw [List.append_nil]; rfl
  | cons y rest ih =>
    rw [Queue.pushAll, List.foldl_cons, push_lastWithin]
    exact (ih (xs ++ [y])).trans (by rw [List.append_assoc]; rfl)

end Queues

/-! ## Batches -/

section Batches

variable {α : Type} (id : String)

/-- What a batch holds for an id. -/
def rowsOf (batch : List (String × List α)) : List α :=
  batch.flatMap fun row => if row.1 = id then row.2 else []

/-- The sum of the counts that a batch holds for an id. -/
def sumOf (batch : List (String × Int64)) : Int :=
  (batch.map fun row => if row.1 = id then row.2.toInt else 0).sum

/-- The rows of a batch with this id. -/
def onlyRows (batch : List (String × α)) : List (String × α) := batch.filter fun row => row.1 = id

theorem rowsOf_onlyRows (batch : List (String × List α)) :
    rowsOf id (onlyRows id batch) = rowsOf id batch := by
  induction batch with
  | nil => rfl
  | cons row rest ih =>
    unfold rowsOf onlyRows at *
    by_cases here : row.1 = id <;> simp [here, ih]

theorem sumOf_onlyRows (batch : List (String × Int64)) :
    sumOf id (onlyRows id batch) = sumOf id batch := by
  induction batch with
  | nil => rfl
  | cons row rest ih =>
    unfold sumOf onlyRows at *
    by_cases here : row.1 = id <;> simp [here, ih]

end Batches

section Views

variable (h : History) (id : String)

theorem matchRecords_addMatches (batch : List (String × List MatchRecord)) :
    (h.addMatches batch).matchRecords id =
      Queue.pushAll h.options.maxMatchesPerEndpoint (h.matchRecords id) (rowsOf id batch) := by
  induction batch generalizing h with
  | nil => rfl
  | cons row rest ih =>
    obtain ⟨key, records⟩ := row
    -- a batch is its first row and then the rest
    refine (ih (h.addMatches [(key, records)])).trans ?_
    have first : (h.addMatches [(key, records)]).matchRecords id =
        if key = id then Queue.pushAll h.options.maxMatchesPerEndpoint (h.matchRecords id) records
        else h.matchRecords id := by
      simp only [addMatches, matchRecords, MatchState.add, Table.update, List.foldl_cons,
        List.foldl_nil, Table.get?_insert]
      split
      · next same => rw [same]; rfl
      · rfl
    rw [first]
    by_cases here : key = id
    · simp [here, rowsOf, Queue.pushAll, addMatches]
    · simp [here, rowsOf, addMatches]

theorem matchCount_addMatches (batch : List (String × List MatchRecord)) :
    (h.addMatches batch).matchCount id =
      h.matchCount id + Int64.ofNat (rowsOf id batch).length := by
  induction batch generalizing h with
  | nil => simp [rowsOf, addMatches]
  | cons row rest ih =>
    obtain ⟨key, records⟩ := row
    refine (ih (h.addMatches [(key, records)])).trans ?_
    have first : (h.addMatches [(key, records)]).matchCount id =
        if key = id then h.matchCount id + Int64.ofNat records.length else h.matchCount id := by
      simp only [addMatches, matchCount, MatchState.add, Table.update, List.foldl_cons,
        List.foldl_nil, Table.get?_insert]
      split
      · next same => rw [same]; rfl
      · rfl
    rw [first]
    by_cases here : key = id
    · simp [here, rowsOf, Int64.ofNat_add, Int64.add_assoc]
    · simp [here, rowsOf]

theorem matchRecords_addMatchCounts (batch : List (String × Int64)) :
    (h.addMatchCounts batch).matchRecords id = h.matchRecords id := by
  induction batch generalizing h with
  | nil => rfl
  | cons row rest ih => exact ih (h.addMatchCounts [row])

theorem matchCount_addMatchCounts (batch : List (String × Int64)) :
    (h.addMatchCounts batch).matchCount id = h.matchCount id + Int64.ofInt (sumOf id batch) := by
  induction batch generalizing h with
  | nil => simp [sumOf, addMatchCounts]
  | cons row rest ih =>
    obtain ⟨key, n⟩ := row
    refine (ih (h.addMatchCounts [(key, n)])).trans ?_
    have first : (h.addMatchCounts [(key, n)]).matchCount id =
        if key = id then h.matchCount id + n else h.matchCount id := by
      simp only [addMatchCounts, matchCount, MatchState.addCount, Table.update, List.foldl_cons,
        List.foldl_nil, Table.get?_insert]
      split
      · next same => rw [same]; rfl
      · rfl
    rw [first]
    by_cases here : key = id
    · simp [here, sumOf, Int64.ofInt_add, Int64.add_assoc]
    · simp [here, sumOf]

end Views

/-! ## Operations -/

/-- What changes a history. -/
inductive Operation where
  | addMatches (batch : List (String × List MatchRecord))
  | addMatchCounts (batch : List (String × Int64))
  | addMismatches (records : List MismatchRecord)
  | addMismatchCount (n : Int64)
  | clearMatches
  | clearMismatches

namespace Operation

def apply (h : History) : Operation → History
  | .addMatches batch => h.addMatches batch
  | .addMatchCounts batch => h.addMatchCounts batch
  | .addMismatches records => h.addMismatches records
  | .addMismatchCount n => h.addMismatchCount n
  | .clearMatches => h.clearMatches
  | .clearMismatches => h.clearMismatches

def concernsMatches : Operation → Bool
  | .addMatches _ => true
  | .addMatchCounts _ => true
  | .clearMatches => true
  | _ => false

def clearsMatches : Operation → Bool
  | .clearMatches => true
  | _ => false

def clearsMismatches : Operation → Bool
  | .clearMismatches => true
  | _ => false

/-- The matches that are added under an id. -/
def matchesUnder (id : String) : Operation → List MatchRecord
  | .addMatches batch => rowsOf id batch
  | _ => []

/-- The matches that are counted under an id without a record. -/
def countUnder (id : String) : Operation → Int
  | .addMatchCounts batch => sumOf id batch
  | _ => 0

def mismatches : Operation → List MismatchRecord
  | .addMismatches records => records
  | _ => []

def mismatchCount : Operation → Int
  | .addMismatchCount n => n.toInt
  | _ => 0

/-- The operation as it is for one id alone. -/
def only (id : String) : Operation → Operation
  | .addMatches batch => .addMatches (onlyRows id batch)
  | .addMatchCounts batch => .addMatchCounts (onlyRows id batch)
  | op => op

/-- The same, one record or one count at a time. -/
def oneByOne : Operation → List Operation
  | .addMatches batch =>
    batch.flatMap fun (id, records) => records.map fun record => .addMatches [(id, [record])]
  | .addMatchCounts batch => batch.map fun row => .addMatchCounts [row]
  | .addMismatches records => records.map fun record => .addMismatches [record]
  | op => [op]

end Operation

/-- The history that operations leave, one after the other. -/
def after (h : History) (ops : List Operation) : History := ops.foldl Operation.apply h

/-! ## Ledgers -/

/-- What operations mean for one part of a history: which of them clear it, and what the others
enter. -/
structure Ledger (ρ : Type) where
  clears : Operation → Bool
  records : Operation → List ρ
  /-- The sum of what is counted without a record. -/
  count : Operation → Int

/-- The matches of one endpoint. -/
def matchLedger (id : String) : Ledger MatchRecord :=
  ⟨Operation.clearsMatches, Operation.matchesUnder id, Operation.countUnder id⟩

def mismatchLedger : Ledger MismatchRecord :=
  ⟨Operation.clearsMismatches, Operation.mismatches, Operation.mismatchCount⟩

namespace Ledger

variable {ρ : Type} (l : Ledger ρ)

/-- The operations behind the last that clears. -/
def sinceCleared (ops : List Operation) : List Operation := ops.rtakeWhile fun op => !l.clears op

/-- All records that have been added since the last clearing. -/
def log (ops : List Operation) : List ρ := (l.sinceCleared ops).flatMap l.records

/-- All that has been counted without a record since the last clearing. -/
def counted (ops : List Operation) : Int := ((l.sinceCleared ops).map l.count).sum

def total (ops : List Operation) : Int := (l.log ops).length + l.counted ops

theorem sinceCleared_concat (ops : List Operation) (op : Operation) :
    l.sinceCleared (ops ++ [op]) = if l.clears op then [] else l.sinceCleared ops ++ [op] := by
  unfold sinceCleared
  rw [List.rtakeWhile_concat]
  cases l.clears op <;> rfl

theorem sinceCleared_append {more : List Operation} (ops : List Operation)
    (keeps : ∀ op ∈ more, l.clears op = false) :
    l.sinceCleared (ops ++ more) = l.sinceCleared ops ++ more := by
  induction more using List.reverseRecOn with
  | nil => rw [List.append_nil, List.append_nil]
  | append_singleton rest op ih =>
    rw [← List.append_assoc, sinceCleared_concat, keeps op (by simp),
      ih fun op inRest => keeps op (by simp [inRest]), List.append_assoc]
    rfl

theorem log_concat (ops : List Operation) (op : Operation) :
    l.log (ops ++ [op]) = if l.clears op then [] else l.log ops ++ l.records op := by
  unfold log
  rw [sinceCleared_concat]
  split <;> simp

theorem counted_concat (ops : List Operation) (op : Operation) :
    l.counted (ops ++ [op]) = if l.clears op then 0 else l.counted ops + l.count op := by
  unfold counted
  rw [sinceCleared_concat]
  split <;> simp

theorem total_concat (ops : List Operation) (op : Operation) :
    l.total (ops ++ [op]) =
      if l.clears op then 0 else l.total ops + ((l.records op).length + l.count op) := by
  unfold total
  rw [log_concat, counted_concat]
  split
  · rfl
  · rw [List.length_append]
    omega

/-- What stands in the place of an operation enters the same. -/
structure SameEntries (f : Operation → List Operation) : Prop where
  cleared : ∀ op, l.clears op = true → f op = [op]
  kept : ∀ op, l.clears op = false → ∀ part ∈ f op, l.clears part = false
  records : ∀ op, (f op).flatMap l.records = l.records op
  count : ∀ op, ((f op).map l.count).sum = l.count op

variable {l} {f : Operation → List Operation}

theorem SameEntries.log_eq (same : l.SameEntries f) (ops : List Operation) :
    l.log (ops.flatMap f) = l.log ops := by
  induction ops using List.reverseRecOn with
  | nil => rfl
  | append_singleton rest op ih =>
    rw [List.flatMap_append, List.flatMap_singleton, log_concat]
    cases clears : l.clears op with
    | true => rw [same.cleared op clears, log_concat, clears, if_pos rfl, if_pos rfl]
    | false =>
      rw [log, sinceCleared_append l _ (same.kept op clears), List.flatMap_append, same.records]
      exact congrArg (· ++ l.records op) ih

theorem SameEntries.total_eq (same : l.SameEntries f) (ops : List Operation) :
    l.total (ops.flatMap f) = l.total ops := by
  have counted : l.counted (ops.flatMap f) = l.counted ops := by
    induction ops using List.reverseRecOn with
    | nil => rfl
    | append_singleton rest op ih =>
      rw [List.flatMap_append, List.flatMap_singleton, counted_concat]
      cases clears : l.clears op with
      | true => rw [same.cleared op clears, counted_concat, clears, if_pos rfl, if_pos rfl]
      | false =>
        rw [Ledger.counted, sinceCleared_append l _ (same.kept op clears), List.map_append,
          List.sum_append, same.count]
        exact congrArg (· + l.count op) ih
  rw [total, total, same.log_eq, counted]

end Ledger

/-! ## What makes no difference -/

section NoDifference

/-- An operation with one row or one record of another, or that operation itself. -/
inductive IsPart : Operation → Operation → Prop where
  | matched {batch row} : IsPart (.addMatches [row]) (.addMatches batch)
  | counted {batch row} : IsPart (.addMatchCounts [row]) (.addMatchCounts batch)
  | mismatched {records record} : IsPart (.addMismatches [record]) (.addMismatches records)
  | whole {op} : IsPart op op

theorem isPart_of_mem {op part : Operation} (inParts : part ∈ op.oneByOne) : IsPart part op := by
  cases op with
  | addMatches batch =>
    obtain ⟨row, _, inRow⟩ := List.mem_flatMap.1 inParts
    obtain ⟨record, _, rfl⟩ := List.mem_map.1 inRow
    exact .matched
  | addMatchCounts batch =>
    obtain ⟨row, _, rfl⟩ := List.mem_map.1 inParts
    exact .counted
  | addMismatches records =>
    obtain ⟨record, _, rfl⟩ := List.mem_map.1 inParts
    exact .mismatched
  | _ =>
    cases List.mem_singleton.1 inParts
    exact .whole

theorem oneByOne_matches (id : String) : (matchLedger id).SameEntries Operation.oneByOne where
  cleared op clears := by cases op <;> first | rfl | cases clears
  kept op kept part inParts := by
    cases isPart_of_mem inParts with
    | whole => exact kept
    | _ => rfl
  records op := by
    cases op with
    | addMatches batch =>
      simp only [Operation.oneByOne, List.flatMap_assoc, List.flatMap_map]
      refine List.flatMap_congr fun row _ => ?_
      by_cases here : row.1 = id <;> simp [matchLedger, Operation.matchesUnder, rowsOf, here]
    | _ =>
      refine List.flatMap_eq_nil_iff.2 fun part inParts => ?_
      cases isPart_of_mem inParts <;> rfl
  count op := by
    cases op with
    | addMatchCounts batch =>
      rw [Operation.oneByOne, List.map_map]
      exact congrArg List.sum (List.map_congr_left fun row _ => Int.add_zero _)
    | _ =>
      refine List.sum_eq_zero fun n counted => ?_
      obtain ⟨part, inParts, rfl⟩ := List.mem_map.1 counted
      cases isPart_of_mem inParts <;> rfl

theorem oneByOne_mismatches : mismatchLedger.SameEntries Operation.oneByOne where
  cleared op clears := by cases op <;> first | rfl | cases clears
  kept op kept part inParts := by
    cases isPart_of_mem inParts with
    | whole => exact kept
    | _ => rfl
  records op := by
    cases op with
    | addMismatches records =>
      rw [Operation.oneByOne, List.flatMap_map]
      exact List.flatMap_singleton' records
    | _ =>
      refine List.flatMap_eq_nil_iff.2 fun part inParts => ?_
      cases isPart_of_mem inParts <;> rfl
  count op := by
    cases op with
    | addMismatchCount n => exact Int.add_zero _
    | _ =>
      refine List.sum_eq_zero fun n counted => ?_
      obtain ⟨part, inParts, rfl⟩ := List.mem_map.1 counted
      cases isPart_of_mem inParts <;> rfl

theorem only_matches (id : String) : (matchLedger id).SameEntries fun op => [op.only id] where
  cleared op clears := by cases op <;> first | rfl | cases clears
  kept op kept part inParts := by
    cases List.mem_singleton.1 inParts
    cases op <;> first | rfl | cases kept
  records op := by
    rw [List.flatMap_singleton]
    cases op with
    | addMatches batch => exact rowsOf_onlyRows id batch
    | _ => rfl
  count op := by
    rw [List.map_singleton, List.sum_singleton]
    cases op with
    | addMatchCounts batch => exact sumOf_onlyRows id batch
    | _ => rfl

theorem concernsMatches_matches (id : String) :
    (matchLedger id).SameEntries fun op => if op.concernsMatches then [op] else [] where
  cleared op clears := by cases op <;> first | rfl | cases clears
  kept op kept part inParts := by
    split at inParts
    · rw [List.mem_singleton.1 inParts, kept]
    · cases inParts
  records op := by cases op <;> first | rfl | exact List.append_nil _
  count op := by cases op <;> first | rfl | exact Int.add_zero _

theorem concernsMatches_mismatches :
    mismatchLedger.SameEntries fun op => if !op.concernsMatches then [op] else [] where
  cleared op clears := by cases op <;> first | rfl | cases clears
  kept op kept part inParts := by
    split at inParts
    · rw [List.mem_singleton.1 inParts, kept]
    · cases inParts
  records op := by cases op <;> first | rfl | exact List.append_nil _
  count op := by cases op <;> first | rfl | exact Int.add_zero _

end NoDifference

/-! ## Reading -/

section Reading

variable (options : Options) (ops : List Operation) (id : String)

theorem after_concat (h : History) (op : Operation) :
    h.after (ops ++ [op]) = op.apply (h.after ops) := by
  rw [after, List.foldl_append]
  rfl

theorem options_after (h : History) : (h.after ops).options = h.options := by
  induction ops using List.reverseRecOn with
  | nil => rfl
  | append_singleton rest op ih => rw [after_concat, ← ih]; cases op <;> rfl

/-- The induction is on the operations, from the last one back: what an operation adds or clears is
the same for the history and for the log. -/
theorem matchRecords_after : ((empty options).after ops).matchRecords id =
    lastWithin options.maxMatchesPerEndpoint ((matchLedger id).log ops) := by
  induction ops using List.reverseRecOn with
  | nil => simp [after, empty, matchRecords, MatchState.empty, Table.get?, Ledger.log,
      Ledger.sinceCleared, lastWithin]
  | append_singleton rest op ih =>
    rw [after_concat, Ledger.log_concat]
    cases op with
    | addMatches batch =>
      rw [Operation.apply, matchRecords_addMatches, options_after, ih]
      exact pushAll_lastWithin _ _ _
    | addMatchCounts batch =>
      rw [Operation.apply, matchRecords_addMatchCounts, ih]
      exact congrArg _ (List.append_nil _).symm
    | clearMatches => simp [Operation.apply, clearMatches, matchRecords, MatchState.empty,
        Table.get?, matchLedger, Operation.clearsMatches, lastWithin]
    | _ => exact ih.trans (congrArg _ (List.append_nil _).symm)

theorem matchCount_after : ((empty options).after ops).matchCount id =
    Int64.ofInt ((matchLedger id).total ops) := by
  induction ops using List.reverseRecOn with
  | nil => rfl
  | append_singleton rest op ih =>
    rw [after_concat, Ledger.total_concat]
    cases op with
    | addMatches batch =>
      rw [Operation.apply, matchCount_addMatches, ih, ← Int64.ofInt_eq_ofNat, ← Int64.ofInt_add]
      simp [matchLedger, Operation.clearsMatches, Operation.matchesUnder, Operation.countUnder]
    | addMatchCounts batch =>
      rw [Operation.apply, matchCount_addMatchCounts, ih, ← Int64.ofInt_add]
      simp [matchLedger, Operation.clearsMatches, Operation.matchesUnder, Operation.countUnder]
    | clearMatches => rfl
    | _ => exact ih.trans (congrArg Int64.ofInt (Int.add_zero _).symm)

theorem mismatchRecords_after : ((empty options).after ops).mismatchRecords =
    lastWithin options.maxMismatches (mismatchLedger.log ops) := by
  induction ops using List.reverseRecOn with
  | nil => simp [after, empty, mismatchRecords, MismatchState.empty, Ledger.log,
      Ledger.sinceCleared, lastWithin]
  | append_singleton rest op ih =>
    rw [after_concat, Ledger.log_concat]
    cases op with
    | addMismatches records =>
      show Queue.pushAll _ ((empty options).after rest).mismatchRecords records = _
      rw [options_after, ih]
      exact pushAll_lastWithin _ _ _
    | clearMismatches => simp [Operation.apply, clearMismatches, mismatchRecords,
        MismatchState.empty, mismatchLedger, Operation.clearsMismatches, lastWithin]
    | _ => exact ih.trans (congrArg _ (List.append_nil _).symm)

theorem mismatchCount_after : ((empty options).after ops).mismatchCount =
    Int64.ofInt (mismatchLedger.total ops) := by
  induction ops using List.reverseRecOn with
  | nil => rfl
  | append_singleton rest op ih =>
    rw [after_concat, Ledger.total_concat]
    cases op with
    | addMismatches records =>
      show ((empty options).after rest).mismatchCount + Int64.ofNat records.length = _
      rw [ih, ← Int64.ofInt_eq_ofNat, ← Int64.ofInt_add]
      simp [mismatchLedger, Operation.clearsMismatches, Operation.mismatches, Operation.mismatchCount]
    | addMismatchCount n =>
      show ((empty options).after rest).mismatchCount + n = _
      rw [ih]
      simp [mismatchLedger, Operation.clearsMismatches, Operation.mismatches, Operation.mismatchCount,
        Int64.ofInt_add]
    | clearMismatches => rfl
    | _ => exact ih.trans (congrArg Int64.ofInt (Int.add_zero _).symm)

end Reading

/-- What can be read of the matches of an endpoint. -/
def SameMatches (h h' : History) (id : String) : Prop :=
  h.matchRecords id = h'.matchRecords id ∧ h.matchCount id = h'.matchCount id

def SameMismatches (h h' : History) : Prop :=
  h.mismatchRecords = h'.mismatchRecords ∧ h.mismatchCount = h'.mismatchCount

section NoDifference

variable {f : Operation → List Operation} (options : Options) (ops : List Operation)

theorem filter_eq_flatMap (p : Operation → Bool) :
    ops.filter p = ops.flatMap fun op => if p op then [op] else [] := by
  induction ops with
  | nil => rfl
  | cons op rest ih => by_cases here : p op <;> simp [here, ih]

theorem sameMatches_of_entries {id : String} (same : (matchLedger id).SameEntries f) :
    SameMatches ((empty options).after (ops.flatMap f)) ((empty options).after ops) id := by
  constructor
  · rw [matchRecords_after, matchRecords_after, same.log_eq]
  · rw [matchCount_after, matchCount_after, same.total_eq]

theorem sameMismatches_of_entries (same : mismatchLedger.SameEntries f) :
    SameMismatches ((empty options).after (ops.flatMap f)) ((empty options).after ops) := by
  constructor
  · rw [mismatchRecords_after, mismatchRecords_after, same.log_eq]
  · rw [mismatchCount_after, mismatchCount_after, same.total_eq]

end NoDifference

/-- The number fits a count. -/
def Countable (n : Int) : Prop := -2 ^ 63 ≤ n ∧ n < 2 ^ 63

instance (n : Int) : Decidable (Countable n) := inferInstanceAs (Decidable (_ ∧ _))

/-- What is read after any operations is the end of the log, as far as the capacity goes, and a
count of all of it.  Nothing changes when records and counts come one by one; the matches of an
endpoint are those that the operations leave when they are cut down to its id, or to matches, and
the mismatches those of the operations on mismatches alone. -/
theorem bounded_log (options : Options) (ops : List Operation) :
    let h := (empty options).after ops
    (∀ id, h.matchRecords id = lastWithin options.maxMatchesPerEndpoint ((matchLedger id).log ops) ∧
      (Countable ((matchLedger id).total ops) →
        (h.matchCount id).toInt = (matchLedger id).total ops)) ∧
    (h.mismatchRecords = lastWithin options.maxMismatches (mismatchLedger.log ops) ∧
      (Countable (mismatchLedger.total ops) → h.mismatchCount.toInt = mismatchLedger.total ops)) ∧
    (∀ id, SameMatches ((empty options).after (ops.flatMap Operation.oneByOne)) h id) ∧
    SameMismatches ((empty options).after (ops.flatMap Operation.oneByOne)) h ∧
    (∀ id, SameMatches ((empty options).after (ops.map (Operation.only id))) h id) ∧
    (∀ id, SameMatches ((empty options).after (ops.filter Operation.concernsMatches)) h id) ∧
    SameMismatches ((empty options).after (ops.filter fun op => !op.concernsMatches)) h := by
  intro h
  refine ⟨fun id => ⟨matchRecords_after options ops id, fun fits => ?_⟩,
    ⟨mismatchRecords_after options ops, fun fits => ?_⟩,
    fun id => sameMatches_of_entries options ops (oneByOne_matches id),
    sameMismatches_of_entries options ops oneByOne_mismatches, fun id => ?_, fun id => ?_, ?_⟩
  · rw [matchCount_after, Int64.toInt_ofInt_of_le fits.1 fits.2]
  · rw [mismatchCount_after, Int64.toInt_ofInt_of_le fits.1 fits.2]
  · rw [List.map_eq_flatMap]
    exact sameMatches_of_entries options ops (only_matches id)
  · rw [filter_eq_flatMap]
    exact sameMatches_of_entries options ops (concernsMatches_matches id)
  · rw [filter_eq_flatMap]
    exact sameMismatches_of_entries options ops concernsMatches_mismatches

/-- A match under `a` at a second. -/
def matchAt (second : Int) : MatchRecord :=
  ⟨"a", ⟨second, 0⟩, ⟨"GET", "/a", none, []⟩, ⟨200, []⟩⟩

/-- A batch longer than the capacity: of the matches behind the clearing the oldest is given up, and
all are counted. -/
theorem bounded_log_evicts :
    let h := (empty ⟨false, false, 2, 0⟩).after [.addMatchCounts [("a", 7)], .clearMatches,
      .addMatches [("b", [matchAt 0]), ("a", [matchAt 1, matchAt 2, matchAt 3])],
      .addMatchCounts [("a", 5)]]
    h.matchRecords "a" = [matchAt 2, matchAt 3] ∧ (h.matchCount "a").toInt = 8 := by
  intro h
  obtain ⟨records, count⟩ := (bounded_log ⟨false, false, 2, 0⟩ _).1 "a"
  exact ⟨records, count (by decide)⟩

end StubServer.History
