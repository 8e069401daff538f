import StubServer.Proofs.Http.QueryPairs
import StubServer.Proofs.Route.Selection

/-! # Requests that hold more

The conditions on query and headers ask for pairs of a name and a value, and what else there is does not
disturb them (`Predicate.holds_query_iff`, `Predicate.holds_headers_iff`).  So a request that agrees with
another one otherwise and holds all of its pairs meets every condition that this one meets
(`Predicate.Holds.of_extends`).  Two requests that hold the same pairs extend each other: they fail the same
conditions and have the same outcome, in whatever order and spelling the pairs come
(`findMatch_of_extends`).
-/

namespace StubServer

/-- A request agrees with another one up to the query and the headers, and there it has all the other has. -/
structure Http.Request.Extends (r' r : Http.Request) : Prop where
  method : r'.method = r.method
  path : r'.path = r.path
  scheme : r'.scheme = r.scheme
  host : r'.host = r.host
  body : r'.body = r.body
  pairs : r.pairs ⊆ r'.pairs
  headers : r.headers ⊆ r'.headers

namespace Route

variable {expected : Expectation} {r r' : Http.Request}

theorem hostMatches_congr {host : String} (same : r'.host = r.host) :
    hostMatches host r' = hostMatches host r := by
  simp only [hostMatches, Http.Request.hostName, same]

/-- The query is asked for pairs, and may give more. -/
theorem Predicate.holds_query_iff :
    Predicate.Holds expected r .query ↔ expected.query ⊆ r.pairs := by
  simp only [Predicate.Holds, Http.Request.queryParams, Http.Query.exists_value_iff, List.subset_def,
    Prod.forall, Http.Request.pairs]

theorem Predicate.holds_headers_iff :
    Predicate.Holds expected r .headers ↔ expected.headers ⊆ r.headers := by
  simp only [Predicate.Holds, List.subset_def, Prod.forall]

theorem Predicate.Holds.of_extends {p : Predicate} (more : r'.Extends r) (holds : p.Holds expected r) :
    p.Holds expected r' := by
  cases p with
  | scheme =>
    intro scheme asked
    exact more.scheme.trans (holds scheme asked)
  | host =>
    intro host asked
    exact (hostMatches_congr more.host).trans (holds host asked)
  | query =>
    rw [Predicate.holds_query_iff] at holds ⊢
    exact List.Subset.trans holds more.pairs
  | headers =>
    rw [Predicate.holds_headers_iff] at holds ⊢
    exact List.Subset.trans holds more.headers
  | body =>
    unfold Predicate.Holds
    rw [more.body]
    exact holds

theorem failedPredicates_of_extends (more : r'.Extends r)
    (accepted : failedPredicates expected r = []) : failedPredicates expected r' = [] := by
  rw [failedPredicates_eq, failing_eq_nil] at accepted ⊢
  intro p
  exact (accepted p).of_extends more

/-- Requests that extend each other fail the same conditions. -/
theorem failedPredicates_congr (there : r'.Extends r) (back : r.Extends r') :
    failedPredicates expected r' = failedPredicates expected r := by
  have same (p : Predicate) : p.Holds expected r' ↔ p.Holds expected r := by
    constructor
    · intro holds
      exact holds.of_extends back
    · intro holds
      exact holds.of_extends there
  simp only [failedPredicates_eq, failing, same]

theorem choose_congr (there : r'.Extends r) (back : r.Extends r') (candidates : List Endpoint) :
    choose r' candidates = choose r candidates := by
  induction candidates with
  | nil => rfl
  | cons e rest ih => simp only [choose, failedPredicates_congr there back, ih]

end Route

namespace Registry

open Route

variable {r r' : Http.Request}

theorem findMatch_of_extends (g : Registry) (there : r'.Extends r) (back : r.Extends r') :
    g.findMatch r' = g.findMatch r := by
  have sameChoice : choose r' = choose r := funext (choose_congr there back)
  simp only [findMatch, there.method, there.path, sameChoice]

/-- The query and the headers fail an endpoint exactly if one of the pairs is missing that it asks for.  So
no registry tells two requests apart that differ in their queries only, if these give the same names the
same values; order, repetition and escapes do not count.  And what an endpoint accepts, it accepts with more
values in the query and more headers. -/
theorem findMatch_pairs :
    (∀ (g : Registry) (r : Http.Request) (url : String) (query : Option String),
      (∀ pair, pair ∈ Http.Query.pairs (query.getD "") ↔ pair ∈ Http.Query.pairs (r.query.getD "")) →
      g.findMatch { r with url, query } = g.findMatch r) ∧
    (∀ (e : Endpoint) (r r' : Http.Request), r'.Extends r → failedPredicates e.request r = [] →
      failedPredicates e.request r' = []) ∧
    ∀ (e : Endpoint) (r : Http.Request),
      (Predicate.query ∈ failedPredicates e.request r ↔ ¬ e.request.query ⊆ r.pairs) ∧
      (Predicate.headers ∈ failedPredicates e.request r ↔ ¬ e.request.headers ⊆ r.headers) := by
  refine ⟨?_, ?_, ?_⟩
  · intro g r url query same
    apply findMatch_of_extends
    · exact ⟨rfl, rfl, rfl, rfl, rfl, fun pair given => (same pair).2 given, List.Subset.refl _⟩
    · exact ⟨rfl, rfl, rfl, rfl, rfl, fun pair given => (same pair).1 given, List.Subset.refl _⟩
  · intro e r r' more accepted
    exact failedPredicates_of_extends more accepted
  · intro e r
    rw [failedPredicates_eq, mem_failing, mem_failing, Predicate.holds_query_iff,
      Predicate.holds_headers_iff]
    exact ⟨Iff.rfl, Iff.rfl⟩

/-- An endpoint that asks for two values in the query and for a header. -/
def selective : Endpoint :=
  ⟨"selective", 0, "", ⟨none, none, "GET", "/", ⟨[], List.forall_mem_nil _⟩,
    [("a", "1"), ("b", " ")], [("x", "1")], none⟩, .default⟩

/-- A request as `selective` asks for it. -/
def selected : Http.Request :=
  ⟨"GET", "/?a=1&b=%20", "/", some "a=1&b=%20", "http", none, [("x", "1")], none⟩

/-- The values in another order, one of them twice and each spelt in another way; and, in another request, with
a further name and a second value of the header. -/
theorem findMatch_pairs_spellings :
    (ofList [selective]).findMatch
        { selected with url := "/?b=+&&a=1&a=%31", query := some "b=+&&a=1&a=%31" } =
      .ok ⟨selective, []⟩ ∧
    failedPredicates selective.request
      { selected with query := some "c&b=%20&a=1", headers := [("x", "2"), ("x", "1")] } = [] := by
  have given : Http.Query.pairs "a=1&b=%20" = [("a", "1"), ("b", " ")] := by cbv
  have respelt : Http.Query.pairs "b=+&&a=1&a=%31" = [("b", " "), ("a", "1"), ("a", "1")] := by cbv
  have more : Http.Query.pairs "c&b=%20&a=1" = [("c", ""), ("b", " "), ("a", "1")] := by cbv
  have matched : (ofList [selective]).findMatch selected = .ok ⟨selective, []⟩ := by cbv
  have accepted : failedPredicates selective.request selected = [] := by cbv
  obtain ⟨sameOutcome, alsoAccepted, _⟩ := findMatch_pairs
  constructor
  · rw [← matched]
    apply sameOutcome
    intro pair
    simp only [selected, Option.getD_some, given, respelt, List.mem_cons, List.not_mem_nil]
    grind
  · apply alsoAccepted selective selected _ _ accepted
    exact {
      method := rfl, path := rfl, scheme := rfl, host := rfl, body := rfl
      pairs := by
        simp only [Http.Request.pairs, selected, Option.getD_some, given, more]
        simp
      headers := by simp [selected] }

end Registry

end StubServer
