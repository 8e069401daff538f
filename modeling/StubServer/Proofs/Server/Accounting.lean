import StubServer.Proofs.History.Log
import StubServer.Proofs.Server.Isolation

/-! # Accounting

A history has a counter for the matches of every id and one for all mismatches.  A step that completes
a request raises one of them by one; any other raises none, and may clear some (`Changes`,
`changes_step`).  Along a run, each counter is therefore the number of requests that have been
completed in its name since it was last cleared, and as many records are kept as the options allow
(`accounts_after`).
-/

namespace StubServer

/-! ## Counters -/

/-- What is counted: the matches of an id, or all mismatches. -/
inductive Counter where
  | served (id : String)
  | unmatched
  deriving DecidableEq

namespace History

def count (h : History) : Counter → Int64
  | .served id => h.matchCount id
  | .unmatched => h.mismatchCount

/-- The number of records that are kept. -/
def kept (h : History) : Counter → Nat
  | .served id => (h.matchRecords id).length
  | .unmatched => h.mismatchRecords.length

namespace Options

def countOnly (options : Options) : Counter → Bool
  | .served _ => options.matchesCountOnly
  | .unmatched => options.mismatchesCountOnly

def capacity (options : Options) : Counter → Nat
  | .served _ => options.maxMatchesPerEndpoint
  | .unmatched => options.maxMismatches

/-- How many records are left of `n`. -/
def retained (options : Options) (c : Counter) (n : Nat) : Nat :=
  if options.countOnly c then 0
  else if options.capacity c = 0 then n
  else min n (options.capacity c)

theorem retained_zero (options : Options) (c : Counter) : options.retained c 0 = 0 := by
  simp [retained]

end Options

theorem count_empty (options : Options) (c : Counter) : (empty options).count c = 0 := by
  cases c <;> rfl

theorem kept_empty (options : Options) (c : Counter) : (empty options).kept c = 0 := by
  cases c <;> rfl

/-! ## Changes -/

/-- One counter goes up by one, and takes a record in if the options say so. -/
structure Raises (h : History) (raised : Counter) (h' : History) : Prop where
  options : h'.options = h.options
  count : ∀ c, h'.count c = if c = raised then h.count c + 1 else h.count c
  keptOther : ∀ c, c ≠ raised → h'.kept c = h.kept c
  kept : ∀ n, h.kept raised = h.options.retained raised n →
    h'.kept raised = h.options.retained raised (n + 1)

/-- Some counters are set to zero and lose their records; nothing else changes. -/
structure Clears (h : History) (which : Counter → Bool) (h' : History) : Prop where
  options : h'.options = h.options
  count : ∀ c, h'.count c = if which c then 0 else h.count c
  kept : ∀ c, h'.kept c = if which c then 0 else h.kept c

section Raising

variable {h : History}

/-- With one record more, the queue is as long as the options allow. -/
theorem length_push_retained {α : Type} {c : Counter} {n : Nat} {queue : List α}
    (records : h.options.countOnly c = false) (before : queue.length = h.options.retained c n)
    (x : α) :
    (Queue.push (h.options.capacity c) queue x).length = h.options.retained c (n + 1) := by
  rw [push_eq_lastWithin, length_lastWithin, List.length_append, List.length_singleton, before]
  by_cases unbounded : h.options.capacity c = 0
  · simp [Options.retained, records, unbounded]
  · simp only [Options.retained, records, unbounded, if_false, Bool.false_eq_true]
    omega

theorem retained_countOnly {c : Counter} (countsOnly : h.options.countOnly c = true) (n : Nat) :
    h.options.retained c n = 0 := by
  rw [Options.retained, if_pos countsOnly]

theorem raises_addMatch (records : h.options.matchesCountOnly = false) (id : String)
    (record : MatchRecord) : h.Raises (.served id) (h.addMatches [(id, [record])]) where
  options := rfl
  count c := by
    cases c with
    | unmatched => rfl
    | served key =>
      simp only [count, matchCount_addMatches, Counter.served.injEq]
      by_cases same : key = id
      · simp [rowsOf, same]
      · simp [rowsOf, same, Ne.symm same]
  keptOther c other := by
    cases c with
    | unmatched => rfl
    | served key =>
      have differs : id ≠ key := fun same => other (congrArg _ same.symm)
      simp [kept, matchRecords_addMatches, rowsOf, differs, Queue.pushAll]
  kept n before := by
    -- for its own id, the batch is one push
    rw [kept, matchRecords_addMatches, ← length_push_retained (c := .served id) records before record]
    simp [rowsOf, Queue.pushAll, Options.capacity]

theorem raises_addMatchCount (countsOnly : h.options.matchesCountOnly = true) (id : String) :
    h.Raises (.served id) (h.addMatchCounts [(id, 1)]) where
  options := rfl
  count c := by
    cases c with
    | unmatched => rfl
    | served key =>
      simp only [count, matchCount_addMatchCounts, Counter.served.injEq]
      by_cases same : key = id
      · simp [sumOf, same]
      · simp [sumOf, same, Ne.symm same]
  keptOther c _ := by
    cases c with
    | unmatched => rfl
    | served key => exact congrArg List.length (matchRecords_addMatchCounts h key _)
  kept n before := by
    rw [retained_countOnly (c := .served id) countsOnly] at before ⊢
    rw [kept, matchRecords_addMatchCounts]
    exact before

theorem raises_addMismatch (records : h.options.mismatchesCountOnly = false)
    (record : MismatchRecord) : h.Raises .unmatched (h.addMismatches [record]) where
  options := rfl
  count c := by cases c <;> rfl
  keptOther c other := by
    cases c with
    | unmatched => exact absurd rfl other
    | served => rfl
  kept n before := length_push_retained (c := .unmatched) records before record

theorem raises_addMismatchCount (countsOnly : h.options.mismatchesCountOnly = true) :
    h.Raises .unmatched (h.addMismatchCount 1) where
  options := rfl
  count c := by cases c <;> rfl
  keptOther c _ := by cases c <;> rfl
  kept n before := by
    rw [retained_countOnly (c := .unmatched) countsOnly] at before ⊢
    exact before

end Raising

section Clearing

variable {h : History} {which : Counter → Bool}

theorem clears_nothing (none : ∀ c, which c = false) : h.Clears which h where
  options := rfl
  count c := by rw [none]; rfl
  kept c := by rw [none]; rfl

theorem clears_clearMatches (all : ∀ id, which (.served id) = true)
    (others : which .unmatched = false) : h.Clears which h.clearMatches where
  options := rfl
  count c := by cases c <;> simp only [all, others] <;> rfl
  kept c := by cases c <;> simp only [all, others] <;> rfl

theorem clears_clearMismatches (all : ∀ id, which (.served id) = false)
    (others : which .unmatched = true) : h.Clears which h.clearMismatches where
  options := rfl
  count c := by cases c <;> simp only [all, others] <;> rfl
  kept c := by cases c <;> simp only [all, others] <;> rfl

end Clearing

end History

/-! ## Steps -/

namespace Traffic

namespace Observation

/-- The counter in whose name a request has been completed. -/
def counter : Observation → Option Counter
  | .served id _ => some (.served id)
  | .unmatched _ => some .unmatched
  | _ => none

def clears : Observation → Counter → Bool
  | .admin method below _, .served _ => method = "DELETE" ∧ below = ["matches"]
  | .admin method below _, .unmatched => method = "DELETE" ∧ below = ["mismatches"]
  | _, _ => false

theorem clears_of_counter {o : Observation} {c : Counter} (counts : o.counter = some c)
    (other : Counter) : o.clears other = false := by
  cases o <;> first | rfl | cases counts

end Observation

/-- What a step that is observed so does to the history. -/
inductive Changes (h : History) (o : Observation) (h' : History) : Prop where
  | raises {c} (counts : o.counter = some c) (raises : h.Raises c h')
  | clears (counts : o.counter = none) (clears : h.Clears o.clears h')

theorem Changes.count_eq {h h' : History} {o : Observation} (changes : Changes h o h')
    (c : Counter) :
    h'.count c =
      if o.clears c then 0 else if o.counter = some c then h.count c + 1 else h.count c := by
  cases changes with
  | @raises raised counts raises =>
    rw [raises.count, Observation.clears_of_counter counts, counts]
    simp [eq_comm]
  | clears counts clears =>
    rw [clears.count, counts]
    simp

end Traffic

namespace Server

variable {s : Server} {h : History} (held : s.history = .held h)

include held

theorem raises_recordMatch (now : Time.Instant) (id : String) (request : Http.Request)
    (response : Http.Response) :
    ∃ h', (s.recordMatch now id request response).history = .held h' ∧ h.Raises (.served id) h' := by
  unfold recordMatch History.Store.recordMatch
  rw [held]
  cases mode : h.options.matchesCountOnly with
  | true =>
    simp only [History.Store.matchesCountOnly, mode, if_true]
    exact ⟨_, rfl, History.raises_addMatchCount mode id⟩
  | false =>
    simp only [History.Store.matchesCountOnly, mode, Bool.false_eq_true, if_false]
    exact ⟨_, rfl, History.raises_addMatch mode id _⟩

theorem raises_recordMismatch (now : Time.Instant) (request : Http.Request) (cause : Route.Mismatch) :
    ∃ h', (s.recordMismatch now request cause).history = .held h' ∧ h.Raises .unmatched h' := by
  unfold recordMismatch History.Store.recordMismatch
  rw [held]
  cases mode : h.options.mismatchesCountOnly with
  | true =>
    simp only [History.Store.mismatchesCountOnly, mode, if_true]
    exact ⟨_, rfl, History.raises_addMismatchCount mode⟩
  | false =>
    simp only [History.Store.mismatchesCountOnly, mode, Bool.false_eq_true, if_false]
    exact ⟨_, rfl, History.raises_addMismatch mode _⟩

theorem raises_respond (now : Time.Instant) (request : Http.Request) (pending : PendingMatch) :
    ∃ h', (s.respond now request pending).1.history = .held h' ∧
      h.Raises (.served pending.matched.endpoint.id) h' :=
  let rendered := pending.snapshot.respond now request pending.matched s.resources
  raises_recordMatch (s := { s with resources := rendered.2 }) held now _ request rendered.1

omit held in
theorem history_reload (files : Files) (config : Config) :
    (s.reload files config).1.history = s.history := by
  rcases s.reload_cases files config with ⟨_, _, _, reloaded⟩ | ⟨_, _, _, reloaded⟩ <;> rw [reloaded]

end Server

/-- Of the admin routes, two clear counters. -/
theorem Admin.clears_answerBelow (method : String) (below ids : List String) (h : History)
    (response : Http.Response) :
    ∃ h', (answerBelow method below ids (.held h)).2 = .held h' ∧
      h.Clears (Traffic.Observation.admin method below response).clears h' := by
  by_cases forMatches : method = "DELETE" ∧ below = ["matches"]
  · obtain ⟨rfl, rfl⟩ := forMatches
    exact ⟨h.clearMatches, rfl, History.clears_clearMatches (fun _ => rfl) rfl⟩
  by_cases forMismatches : method = "DELETE" ∧ below = ["mismatches"]
  · obtain ⟨rfl, rfl⟩ := forMismatches
    exact ⟨h.clearMismatches, rfl, History.clears_clearMismatches (fun _ => rfl) rfl⟩
  -- every other route shows something, and leaves the history as it is
  refine ⟨h, answerBelow_keeps forMatches forMismatches ids _, History.clears_nothing fun c => ?_⟩
  cases c <;> simp [Traffic.Observation.clears, forMatches, forMismatches]

namespace Traffic

/-- A step raises the counter of the request that it completes, or clears what it was asked to. -/
theorem changes_step {t : Traffic} {h : History} (held : t.server.history = .held h) (e : Event) :
    ∃ h', (t.next e).server.history = .held h' ∧ Changes h (t.observe e) h' := by
  have moves := moves_step t e
  generalize t.next e = t' at moves
  generalize t.observe e = o at moves
  cases moves with
  | @admin message below answer _ _ answers =>
    obtain ⟨h', after, clears⟩ :=
      Admin.clears_answerBelow message.method below t.server.endpointIds h answer.1
    rw [held] at answers
    exact ⟨h', answers ▸ after, .clears rfl clears⟩
  | @unmatched request cause =>
    obtain ⟨h', after, raises⟩ := Server.raises_recordMismatch held e.now request cause
    exact ⟨h', after, .raises rfl raises⟩
  | held => exact ⟨h, held, .clears rfl (History.clears_nothing fun _ => rfl)⟩
  | @served place w =>
    obtain ⟨h', after, raises⟩ :=
      Server.raises_respond held e.now (e.action.answered w.request) w.pending
    exact ⟨h', after, .raises rfl raises⟩
  | @servedAtOnce message matched =>
    obtain ⟨h', after, raises⟩ :=
      Server.raises_respond held e.now (.capture message) ⟨t.server.snapshot, matched⟩
    exact ⟨h', after, .raises rfl raises⟩
  | reloaded =>
    exact ⟨h, (Server.history_reload ..).trans held, .clears rfl (History.clears_nothing fun _ => rfl)⟩
  | nothing => exact ⟨h, held, .clears rfl (History.clears_nothing fun _ => rfl)⟩

/-! ## Runs -/

/-- How often a counter has been raised since it was last cleared. -/
def tally (c : Counter) (seen : List Observation) : Nat :=
  (seen.rtakeWhile fun o => !o.clears c).countP fun o => o.counter = some c

theorem tally_concat (c : Counter) (seen : List Observation) (o : Observation) :
    tally c (seen ++ [o]) =
      if o.clears c then 0 else if o.counter = some c then tally c seen + 1 else tally c seen := by
  unfold tally
  rw [List.rtakeWhile_concat]
  cases o.clears c with
  | true => rfl
  | false =>
    simp only [Bool.not_false, if_true, List.countP_append, List.countP_singleton, decide_eq_true_eq,
      Bool.false_eq_true, if_false]
    split <;> rfl

/-- The history holds what has been observed. -/
structure Books (options : History.Options) (seen : List Observation) (h : History) : Prop where
  options_eq : h.options = options
  count : ∀ c, h.count c = Int64.ofNat (tally c seen)
  kept : ∀ c, h.kept c = options.retained c (tally c seen)

theorem books_empty (options : History.Options) : Books options [] (.empty options) where
  options_eq := rfl
  count := History.count_empty options
  kept c := (History.kept_empty options c).trans (options.retained_zero c).symm

theorem Books.concat {options : History.Options} {seen : List Observation} {h h' : History}
    {o : Observation} (books : Books options seen h) (changes : Changes h o h') :
    Books options (seen ++ [o]) h' where
  options_eq := by
    cases changes with
    | raises _ raises => rw [raises.options, books.options_eq]
    | clears _ clears => rw [clears.options, books.options_eq]
  count c := by
    rw [changes.count_eq, tally_concat, books.count]
    split
    · rfl
    · split
      · rw [Int64.ofNat_add]; rfl
      · rfl
  kept c := by
    rw [tally_concat]
    cases changes with
    | @raises raised counts raises =>
      -- a step that raises a counter clears none
      rw [Observation.clears_of_counter counts, counts]
      by_cases same : raised = c
      · subst same
        have oneMore := raises.kept (tally raised seen) (by rw [books.options_eq, books.kept])
        rw [books.options_eq] at oneMore
        simpa using oneMore
      · simp [same, raises.keptOther c (Ne.symm same), books.kept]
    | clears counts clears =>
      rw [clears.kept, counts, books.kept]
      split
      · exact (options.retained_zero c).symm
      · rfl

theorem books_after {t : Traffic} {options : History.Options}
    (empty : t.server.history = .ofOptions options) (events : List Event) :
    ∃ h, (t.after events).server.history = .held h ∧ Books options (t.observed events) h := by
  induction events using List.reverseRecOn with
  | nil => exact ⟨_, empty, books_empty options⟩
  | append_singleton rest e ih =>
    obtain ⟨h, held, books⟩ := ih
    obtain ⟨h', held', changes⟩ := changes_step held e
    rw [after_concat, observed_concat]
    exact ⟨h', held', books.concat changes⟩

/-! ## Completed requests -/

/-- A step that matches a request completes it, or holds it for its response. -/
theorem Moves.completes_or_holds {t t' : Traffic} {e : Event} {o : Observation}
    (moves : Moves t e t' o) {request : Http.Request} (asked : e.action.asked = some request)
    (notAdmin : ∀ message, e.action.message? = some message → t.server.below? message = none) :
    (∃ c, o.counter = some c) ∨ (∀ message, e.action ≠ .handle message) ∧
      ∃ place, o = .held place ∧ (t'.waitingAt place).isSome := by
  cases moves with
  | admin arrives isBelow => cases (notAdmin _ arrives).symm.trans isBelow
  | unmatched => exact .inl ⟨_, rfl⟩
  | held _ notAtOnce => exact .inr ⟨notAtOnce, _, rfl, by simp [waitingAt]⟩
  | served | servedAtOnce => exact .inl ⟨_, rfl⟩
  | reloaded isReload => rw [isReload] at asked; cases asked
  | nothing asks => cases (Action.place?_of_asked asked).symm.trans asks

/-- Who waits is completed by asking for the response, and waits no longer. -/
theorem completes_of_waiting {t : Traffic} {e : Event} {place : Nat} {w : Waiting}
    (asks : e.action.place? = some place) (waits : t.waitingAt place = some w) :
    (t.observe e).counter = some (.served w.pending.matched.endpoint.id) ∧
      (t.next e).waitingAt place = none := by
  rw [observe_of_place asks, waits, (moves_step t e).waitingAt_eq (lt_of_waitingAt waits), if_pos asks]
  exact ⟨rfl, rfl⟩

/-- At any time in any run, every counter is the number of requests that have been completed in its
name since it was last cleared, and the number of records kept follows from it.  A step sets to zero
the counters that it clears, raises by one the counter of the request that it completes, and changes
no other.  A request that is not for an admin route is completed at once or held, and then completed
by the first step that asks for its response. -/
theorem accounts_after {files : Files} {config : Config} {chance : Nat} {server : Server}
    (started : Server.ofConfig files config chance = .ok server) (events : List Event) :
    let options := Server.historyOptions config.settings
    let t := (ofServer server).after events
    let seen := (ofServer server).observed events
    ∃ h, t.server.history = .held h ∧
      (∀ c, (History.Countable (tally c seen) → (h.count c).toInt = tally c seen) ∧
        h.kept c = options.retained c (tally c seen)) ∧
      (∀ e, ∃ h', (t.next e).server.history = .held h' ∧ ∀ c, h'.count c =
        if (t.observe e).clears c then 0
        else if (t.observe e).counter = some c then h.count c + 1
        else h.count c) ∧
      (∀ e request, e.action.asked = some request →
        (∀ message, e.action.message? = some message → t.server.below? message = none) →
        (∃ c, (t.observe e).counter = some c) ∨ (∀ message, e.action ≠ .handle message) ∧
          ∃ place, t.observe e = .held place ∧ ((t.next e).waitingAt place).isSome) ∧
      ∀ e place w, e.action.place? = some place → t.waitingAt place = some w →
        (t.observe e).counter = some (.served w.pending.matched.endpoint.id) ∧
          (t.next e).waitingAt place = none := by
  intro options t seen
  -- all but the books themselves is about a single step, whatever the run before it was
  obtain ⟨h, held, books⟩ := books_after (t := ofServer server)
    (Server.start_eq_ok started).2.1 events
  refine ⟨h, held, fun c => ⟨fun fits => ?_, books.kept c⟩, fun e => ?_,
    fun e request asked notAdmin => (moves_step t e).completes_or_holds asked notAdmin,
    fun e place w asks waits => completes_of_waiting asks waits⟩
  · rw [books.count, ← Int64.ofInt_eq_ofNat, Int64.toInt_ofInt_of_le fits.1 fits.2]
  · obtain ⟨h', held', changes⟩ := changes_step held e
    exact ⟨h', held', changes.count_eq⟩

/-- Of three requests one is still unanswered, one was unmatched and one has its response. -/
theorem accounts_after_three :
    let start := ofServer pageServer
    let requests : List Event := [⟨⟨0, 0⟩, .matchRequest (.plain "GET" "/")⟩,
      ⟨⟨1, 0⟩, .matchRequest (.plain "GET" "/x")⟩, ⟨⟨2, 0⟩, .matchRequest (.plain "GET" "/")⟩]
    ∃ h, (start.after (requests ++ [⟨⟨3, 0⟩, .respond 0 (.plain "GET" "/")⟩])).server.history =
        .held h ∧
      (h.count (.served "a")).toInt = 1 ∧ h.kept (.served "a") = 1 ∧
      (h.count .unmatched).toInt = 1 ∧ h.kept .unmatched = 1 := by
  intro start requests
  have started : Server.ofConfig noFiles (onePage "a" "id" "200") 0 = .ok pageServer := by cbv
  obtain ⟨h, held, counts, _⟩ :=
    accounts_after started (requests ++ [⟨⟨3, 0⟩, .respond 0 (.plain "GET" "/")⟩])
  have waits : (start.after requests).waitingAt 0 =
      some ⟨.plain "GET" "/", pageSnapshot "a" "id" "200", ⟨page "a" "200", []⟩⟩ := by cbv
  have seen : start.observed requests = [.held 0, .unmatched (.path "/x" ""), .held 1] := by cbv
  rw [observed_concat, seen, observe_of_place rfl, waits] at counts
  obtain ⟨servedCount, servedKept⟩ := counts (.served "a")
  obtain ⟨unmatchedCount, unmatchedKept⟩ := counts .unmatched
  have one : History.Countable 1 := by decide
  exact ⟨h, held, servedCount one, servedKept, unmatchedCount one, unmatchedKept⟩

end Traffic

end StubServer
