import StubServer.Route.Match

/-! # Choosing among the endpoints of a node

`Predicate.Holds` says what each condition asks of a request, and `Expectation.Meets` that a request
fails none of them.  `failedPredicates` lists exactly the conditions that do not hold, in their order;
`choose` finds the first endpoint that a request meets (`choose_of_meets`), or says of every one what
it failed (`choose_of_rejected`).
-/

namespace StubServer

namespace Route

/-- The conditions in the order in which they are looked at. -/
def Predicate.inOrder : List Predicate := [.scheme, .host, .query, .headers, .body]

/-- What a condition asks of a request.  One that an endpoint leaves open asks nothing; a body that
could not be read meets no pattern. -/
def Predicate.Holds (expected : Expectation) (r : Http.Request) : Predicate → Prop
  | .scheme => ∀ scheme, expected.scheme = some scheme → r.scheme = scheme
  | .host => ∀ host, expected.host = some host → hostMatches host r = true
  | .query => ∀ name value, (name, value) ∈ expected.query →
      ∃ values, Table.get? r.queryParams name = some values ∧ value ∈ values
  | .headers => ∀ name value, (name, value) ∈ expected.headers → (name, value) ∈ r.headers
  | .body => ∀ pattern, expected.body = some pattern →
      ∃ bytes, r.body = some bytes ∧ pattern.regex.matchesBytes bytes = true

end Route

/-- A request meets an expectation when every condition holds. -/
def Expectation.Meets (expected : Expectation) (r : Http.Request) : Prop :=
  ∀ p : Route.Predicate, p.Holds expected r

/-- No condition is set beside method and path. -/
structure Expectation.IsOpen (expected : Expectation) : Prop where
  scheme : expected.scheme = none
  host : expected.host = none
  query : expected.query = []
  headers : expected.headers = []
  body : expected.body = none

theorem Expectation.IsOpen.meets {expected : Expectation} (isOpen : expected.IsOpen)
    (r : Http.Request) : expected.Meets r := by
  intro p
  cases p with
  | scheme => simp [Route.Predicate.Holds, isOpen.scheme]
  | host => simp [Route.Predicate.Holds, isOpen.host]
  | query => simp [Route.Predicate.Holds, isOpen.query]
  | headers => simp [Route.Predicate.Holds, isOpen.headers]
  | body => simp [Route.Predicate.Holds, isOpen.body]

/-- An endpoint with no condition beside method and path. -/
def Endpoint.plain (id method : String) (pattern : Route.Pattern) : Endpoint :=
  ⟨id, 0, "", ⟨none, none, method, "", pattern, [], [], none⟩, .default⟩

theorem Endpoint.plain_isOpen {id method : String} {pattern : Route.Pattern} :
    (plain id method pattern).request.IsOpen :=
  ⟨rfl, rfl, rfl, rfl, rfl⟩

/-- A request with nothing but a method and a path. -/
def Http.Request.plain (method path : String) : Http.Request :=
  ⟨method, path, path, none, "http", none, [], none⟩

namespace Route

variable {expected : Expectation} {r : Http.Request}

/-! ## One condition -/

theorem schemeHolds_iff : schemeHolds expected r = true ↔ Predicate.Holds expected r .scheme := by
  unfold schemeHolds Predicate.Holds
  cases expected.scheme with
  | none => simp
  | some scheme =>
    simp only [beq_iff_eq, Option.some.injEq, forall_eq']
    exact eq_comm

theorem hostHolds_iff : hostHolds expected r = true ↔ Predicate.Holds expected r .host := by
  unfold hostHolds Predicate.Holds
  cases expected.host <;> simp

theorem queryHolds_iff :
    queryHolds expected r.queryParams = true ↔ Predicate.Holds expected r .query := by
  unfold queryHolds Predicate.Holds
  simp only [List.all_eq_true, List.contains_iff_mem, Prod.forall]
  refine forall₃_congr fun name value _ => ?_
  cases Table.get? r.queryParams name <;> simp

theorem mem_values {headers : Http.Headers} {name value : String} :
    value ∈ headers.values name ↔ (name, value) ∈ headers := by
  simp only [Http.Headers.values, List.mem_filterMap, Prod.exists]
  constructor
  · rintro ⟨n, v, inHeaders, isValue⟩
    split at isValue
    · next same =>
      cases isValue
      exact same ▸ inHeaders
    · cases isValue
  · intro inHeaders
    exact ⟨name, value, inHeaders, if_pos rfl⟩

theorem headersHold_iff : headersHold expected r = true ↔ Predicate.Holds expected r .headers := by
  simp only [headersHold, Predicate.Holds, List.all_eq_true, List.contains_iff_mem, Prod.forall,
    mem_values]

theorem bodyHolds_iff : bodyHolds expected r = true ↔ Predicate.Holds expected r .body := by
  unfold bodyHolds Predicate.Holds
  cases expected.body with
  | none => simp
  | some pattern => cases r.body <;> simp

/-- The look at one condition. -/
def Predicate.check (expected : Expectation) (r : Http.Request) : Predicate → Bool
  | .scheme => schemeHolds expected r
  | .host => hostHolds expected r
  | .query => queryHolds expected r.queryParams
  | .headers => headersHold expected r
  | .body => bodyHolds expected r

theorem Predicate.check_iff {p : Predicate} : p.check expected r = true ↔ p.Holds expected r := by
  cases p with
  | scheme => exact schemeHolds_iff
  | host => exact hostHolds_iff
  | query => exact queryHolds_iff
  | headers => exact headersHold_iff
  | body => exact bodyHolds_iff

instance : DecidablePred (Predicate.Holds expected r) := fun _ =>
  decidable_of_iff _ Predicate.check_iff

theorem Predicate.mem_inOrder (p : Predicate) : p ∈ Predicate.inOrder := by
  cases p <;> decide

/-! ## All conditions of one endpoint -/

/-- The conditions that a request fails, in order. -/
def failing (expected : Expectation) (r : Http.Request) : List Predicate :=
  Predicate.inOrder.filter fun p => ¬ p.Holds expected r

theorem mem_failing {p : Predicate} : p ∈ failing expected r ↔ ¬ p.Holds expected r := by
  simp [failing, Predicate.mem_inOrder]

theorem failing_eq_nil : failing expected r = [] ↔ expected.Meets r := by
  simp only [failing, List.filter_eq_nil_iff, decide_eq_true_eq, Decidable.not_not]
  exact ⟨fun all p => all p p.mem_inOrder, fun meets p _ => meets p⟩

theorem failedPredicates_eq (expected : Expectation) (r : Http.Request) :
    failedPredicates expected r = failing expected r := by
  -- one condition is reported exactly if it does not hold; the order is that of the five looks
  have single : ∀ p : Predicate, failIf (p.check expected r) p =
      [p].filter fun p => ¬ p.Holds expected r := by
    intro p
    cases checked : p.check expected r with
    | false =>
      have fails : ¬ p.Holds expected r := fun holds => by simp [Predicate.check_iff.2 holds] at checked
      simp [failIf, fails]
    | true => simp [failIf, Predicate.check_iff.1 checked]
  rw [failing, show Predicate.inOrder = [.scheme] ++ [.host] ++ [.query] ++ [.headers] ++ [.body] from rfl]
  simp only [List.filter_append, ← single]
  rfl

/-- An unreadable body fails the endpoints with a body pattern, and for this reason no others. -/
theorem body_mem_failing (unreadable : r.body = none) :
    Predicate.body ∈ failing expected r ↔ expected.body.isSome := by
  rw [mem_failing]
  cases pattern : expected.body <;> simp [Predicate.Holds, pattern, unreadable]

/-! ## All candidates -/

/-- Why an endpoint was passed over. -/
def rejection (r : Http.Request) (e : Endpoint) : Rejection := ⟨e.id, failing e.request r⟩

theorem choose_of_meets {before after : List Endpoint} {e : Endpoint}
    (passedOver : ∀ x ∈ before, ¬ x.request.Meets r) (meets : e.request.Meets r) :
    choose r (before ++ e :: after) = .ok e := by
  induction before with
  | nil =>
    have none : failedPredicates e.request r = [] := by
      rw [failedPredicates_eq, failing_eq_nil]
      exact meets
    rw [List.nil_append, choose]
    simp [none]
  | cons x rest ih =>
    have some : failedPredicates x.request r ≠ [] := by
      rw [failedPredicates_eq, Ne, failing_eq_nil]
      exact passedOver x (List.mem_cons_self ..)
    rw [List.cons_append, choose]
    split
    · contradiction
    · rw [ih fun y inRest => passedOver y (List.mem_cons_of_mem _ inRest)]

theorem choose_of_allMeet {candidates : List Endpoint} (allMeet : ∀ e ∈ candidates, e.request.Meets r)
    (notEmpty : candidates ≠ []) : ∃ e, choose r candidates = .ok e := by
  obtain ⟨e, rest, rfl⟩ := List.exists_cons_of_ne_nil notEmpty
  exact ⟨e, choose_of_meets (List.forall_mem_nil _) (allMeet e (List.mem_cons_self ..))⟩

theorem choose_of_rejected {candidates : List Endpoint}
    (passedOver : ∀ x ∈ candidates, ¬ x.request.Meets r) :
    choose r candidates = .error (candidates.map (rejection r)) := by
  induction candidates with
  | nil => rfl
  | cons x rest ih =>
    have some : failedPredicates x.request r ≠ [] := by
      rw [failedPredicates_eq, Ne, failing_eq_nil]
      exact passedOver x (List.mem_cons_self ..)
    rw [choose]
    split
    · contradiction
    · rw [ih fun y inRest => passedOver y (List.mem_cons_of_mem _ inRest), failedPredicates_eq]
      rfl

/-- Among any candidates there is a first one that the request meets, or it meets none. -/
theorem first_meets_or_none (r : Http.Request) (candidates : List Endpoint) :
    (∃ before e after, candidates = before ++ e :: after ∧
      (∀ x ∈ before, ¬ x.request.Meets r) ∧ e.request.Meets r) ∨
    ∀ x ∈ candidates, ¬ x.request.Meets r := by
  classical
  cases first : candidates.find? fun e => e.request.Meets r with
  | some e =>
    obtain ⟨meets, before, after, split, passedOver⟩ := List.find?_eq_some_iff_append.1 first
    exact .inl ⟨before, e, after, split, fun x inBefore => by simpa using passedOver x inBefore,
      by simpa using meets⟩
  | none => exact .inr fun x inList => by simpa using List.find?_eq_none.1 first x inList

theorem meets_of_choose {candidates : List Endpoint} {e : Endpoint}
    (chosen : choose r candidates = .ok e) : e ∈ candidates ∧ e.request.Meets r := by
  rcases first_meets_or_none r candidates with ⟨before, first, after, rfl, passedOver, meets⟩ | none
  · rw [choose_of_meets passedOver meets] at chosen
    cases chosen
    exact ⟨List.mem_append_right _ (List.mem_cons_self ..), meets⟩
  · rw [choose_of_rejected none] at chosen
    cases chosen

end Route

end StubServer
