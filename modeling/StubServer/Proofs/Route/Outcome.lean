import StubServer.Proofs.Route.Selection
import StubServer.Proofs.Route.Trail

/-! # The outcome of matching

A walk over the tree of a list of endpoints ends at a node, and the endpoints there for the method of
the request are the candidates of its keys (`endpointsFor_arrival`).  Matching ends with one of four
outcomes (`findMatch_endsWith`).  From this: an endpoint that is matched was listed, takes the method,
accepts the path and has no condition that the request fails (`findMatch_sound`); and of the candidates
the first that the request meets is taken, or each is reported with all it failed
(`findMatch_selects`).
-/

namespace StubServer

namespace Registry

open Route

variable {es : List Endpoint} {r : Http.Request} {arrival : Arrival}

/-- The node at which a walk ends has keys, and holds their candidates. -/
theorem endpointsFor_arrival {method : String} {path : List String}
    (arrived : (ofList es).root.walk method path = .ok arrival) :
    ∃ keys, (ofList es).root.nodeAt? keys = some arrival.node ∧
      (∀ other, arrival.node.endpointsFor other = candidates es keys other) ∧
      ∀ e ∈ es, e.keys = keys → e.request.pattern.Accepts path := by
  obtain ⟨keys, place, accepts⟩ := Tree.walk_place arrived
  refine ⟨keys, place, fun other => ?_, fun e _ atKeys => ?_⟩
  · rw [← Tree.endpointsAt_of_nodeAt? place]
    exact Tree.endpointsAt_ofList es keys other
  · exact accepts e.request.pattern.segments e.request.pattern.wellFormed atKeys

theorem findMatch_of_lost {matched : List String}
    (lost : (ofList es).root.walk r.method (splitPath r.path) = .error matched) :
    (ofList es).findMatch r = .error (.path r.path (String.intercalate "/" matched)) := by
  simp only [findMatch, lost]

theorem findMatch_of_unserved
    (arrived : (ofList es).root.walk r.method (splitPath r.path) = .ok arrival)
    (unserved : arrival.node.endpointsFor r.method = []) :
    (ofList es).findMatch r = .error (.method r.path r.method) := by
  simp only [findMatch, arrived, unserved]

theorem findMatch_of_served
    (arrived : (ofList es).root.walk r.method (splitPath r.path) = .ok arrival)
    (served : arrival.node.endpointsFor r.method ≠ []) :
    (ofList es).findMatch r =
      match choose r (arrival.node.endpointsFor r.method) with
      | .ok e => .ok ⟨e, arrival.params⟩
      | .error rejections => .error (.predicates r.path r.method rejections) := by
  cases held : arrival.node.endpointsFor r.method with
  | nil => exact absurd held served
  | cons first others =>
    cases chosen : choose r (first :: others) with
    | ok e => simp only [findMatch, arrived, held, chosen]
    | error rejections => simp only [findMatch, arrived, held, chosen]

/-- The ways in which matching a request ends, each with its outcome. -/
inductive EndsWith (es : List Endpoint) (r : Http.Request) : Outcome → Prop
  | lost {matched : List String} :
      (ofList es).root.walk r.method (splitPath r.path) = .error matched →
      EndsWith es r (.error (.path r.path (String.intercalate "/" matched)))
  | unserved {arrival : Arrival} :
      (ofList es).root.walk r.method (splitPath r.path) = .ok arrival →
      arrival.node.endpointsFor r.method = [] → EndsWith es r (.error (.method r.path r.method))
  | chosen {arrival : Arrival} {e : Endpoint} :
      (ofList es).root.walk r.method (splitPath r.path) = .ok arrival →
      choose r (arrival.node.endpointsFor r.method) = .ok e → EndsWith es r (.ok ⟨e, arrival.params⟩)
  | rejected {arrival : Arrival} {rejections : List Rejection} :
      (ofList es).root.walk r.method (splitPath r.path) = .ok arrival →
      choose r (arrival.node.endpointsFor r.method) = .error rejections →
      EndsWith es r (.error (.predicates r.path r.method rejections))

theorem findMatch_endsWith (es : List Endpoint) (r : Http.Request) :
    EndsWith es r ((ofList es).findMatch r) := by
  cases arrived : (ofList es).root.walk r.method (splitPath r.path) with
  | error matched =>
    rw [findMatch_of_lost arrived]
    exact .lost arrived
  | ok arrival =>
    by_cases served : arrival.node.endpointsFor r.method = []
    · rw [findMatch_of_unserved arrived served]
      exact .unserved arrived served
    · rw [findMatch_of_served arrived served]
      split
      · next e isChosen => exact .chosen arrived isChosen
      · next rejections areRejected => exact .rejected arrived areRejected

/-- An endpoint is matched exactly if a walk ends well and it is chosen there; what the walk has
captured comes with it. -/
theorem findMatch_eq_ok_iff {found : Matched} : (ofList es).findMatch r = .ok found ↔
    ∃ arrival, (ofList es).root.walk r.method (splitPath r.path) = .ok arrival ∧
      choose r (arrival.node.endpointsFor r.method) = .ok found.endpoint ∧
      found.params = arrival.params := by
  constructor
  · intro matched
    have ends := findMatch_endsWith es r
    rw [matched] at ends
    cases ends with
    | chosen arrived isChosen => exact ⟨_, arrived, isChosen, rfl⟩
  · rintro ⟨arrival, arrived, chosen, captured⟩
    have served : arrival.node.endpointsFor r.method ≠ [] := by
      intro unserved
      rw [unserved] at chosen
      cases chosen
    rw [findMatch_of_served arrived served, chosen, ← captured]

/-- What is matched was chosen at the end of the walk. -/
theorem choose_of_matched {found : Matched} (matched : (ofList es).findMatch r = .ok found) :
    ∃ arrival, (ofList es).root.walk r.method (splitPath r.path) = .ok arrival ∧
      choose r (arrival.node.endpointsFor r.method) = .ok found.endpoint := by
  obtain ⟨arrival, arrived, chosen, _⟩ := findMatch_eq_ok_iff.1 matched
  exact ⟨arrival, arrived, chosen⟩

theorem mem_of_matched {found : Matched} (matched : (ofList es).findMatch r = .ok found) :
    found.endpoint ∈ es := by
  obtain ⟨arrival, arrived, chosen⟩ := choose_of_matched matched
  obtain ⟨keys, _, held, _⟩ := endpointsFor_arrival arrived
  have inNode := (meets_of_choose chosen).1
  rw [held, mem_candidates] at inNode
  exact inNode.1

/-! ## Soundness -/

/-- What is matched is a listed endpoint that takes the method, whose own pattern accepts the path,
and all of whose conditions the request meets. -/
theorem findMatch_sound (es : List Endpoint) (r : Http.Request) {found : Matched}
    (matched : (ofList es).findMatch r = .ok found) :
    found.endpoint ∈ es ∧ found.endpoint.method = r.method ∧
      found.endpoint.request.pattern.Accepts (splitPath r.path) ∧
      found.endpoint.request.Meets r := by
  obtain ⟨arrival, arrived, chosen⟩ := choose_of_matched matched
  obtain ⟨inNode, meets⟩ := meets_of_choose chosen
  obtain ⟨keys, _, held, accepts⟩ := endpointsFor_arrival arrived
  rw [held, mem_candidates] at inNode
  obtain ⟨listed, atKeys, ofMethod⟩ := inNode
  exact ⟨listed, ofMethod, accepts found.endpoint listed atKeys, meets⟩

/-- The pattern `/static/**`. -/
def staticFiles : Pattern :=
  ⟨[.literal "static", .multi], by simp [Segment.WellFormed, Segment.isBrace]⟩

/-- The pattern `/static`. -/
def staticRoot : Pattern := ⟨[.literal "static"], by simp [Segment.WellFormed, Segment.isBrace]⟩

/-- A request for the directory is served by the endpoint for its files: `**` takes up nothing, and
the endpoint of another method at the directory itself is passed over. -/
theorem findMatch_sound_empty_run :
    ∃ found, (ofList [.plain "upload" "POST" staticRoot, .plain "files" "GET" staticFiles]).findMatch
        (.plain "GET" "/static") = .ok found ∧
      found.endpoint ∈ [Endpoint.plain "upload" "POST" staticRoot, .plain "files" "GET" staticFiles] ∧
      found.endpoint.method = "GET" ∧
      found.endpoint.request.pattern.Accepts (splitPath "/static") ∧
      found.endpoint.request.Meets (.plain "GET" "/static") :=
  have matched : (ofList [.plain "upload" "POST" staticRoot, .plain "files" "GET" staticFiles]).findMatch
      (.plain "GET" "/static") = .ok ⟨.plain "files" "GET" staticFiles, []⟩ := by cbv
  ⟨_, matched, findMatch_sound _ _ matched⟩

/-! ## Selection -/

/-- A walk that ends at a node with endpoints for the method decides among the listed endpoints with
the keys of this node and the method, in priority order: the first that the request meets is matched,
and when there is none, each is reported with the conditions that it failed. -/
theorem findMatch_selects (es : List Endpoint) (r : Http.Request) {arrival : Arrival}
    (arrived : (ofList es).root.walk r.method (splitPath r.path) = .ok arrival)
    (served : arrival.node.endpointsFor r.method ≠ []) :
    ∃ keys, (∀ other, (ofList es).root.nodeAt? other = some arrival.node ↔ other = keys) ∧
      (∀ before e after, candidates es keys r.method = before ++ e :: after →
        (∀ x ∈ before, ¬ x.request.Meets r) → e.request.Meets r →
        (ofList es).findMatch r = .ok ⟨e, arrival.params⟩) ∧
      ((∀ e ∈ candidates es keys r.method, ¬ e.request.Meets r) →
        (ofList es).findMatch r = .error (.predicates r.path r.method
          ((candidates es keys r.method).map fun e => ⟨e.id, failing e.request r⟩)) ∧
        ∀ e ∈ candidates es keys r.method, failing e.request r ≠ []) ∧
      (r.body = none → ∀ e ∈ candidates es keys r.method,
        (Predicate.body ∈ failing e.request r ↔ e.request.body.isSome)) := by
  obtain ⟨keys, place, held, _⟩ := endpointsFor_arrival arrived
  have outcome := findMatch_of_served arrived served
  rw [held] at outcome
  refine ⟨keys, fun other => ⟨fun atOther => ?_, fun same => same ▸ place⟩, ?_, ?_, ?_⟩
  · -- an endpoint at the node has the keys of every place where the node is found
    obtain ⟨e, inNode⟩ := List.exists_mem_of_ne_nil _ served
    have fromOther := inNode
    rw [← Tree.endpointsAt_of_nodeAt? atOther r.method,
      show (ofList es).root = Tree.ofList es from rfl, Tree.endpointsAt_ofList] at fromOther
    rw [held] at inNode
    exact (mem_candidates.1 fromOther).2.1.symm.trans (mem_candidates.1 inNode).2.1
  · intro before e after split passedOver meets
    rw [outcome, split, choose_of_meets passedOver meets]
  · intro none
    refine ⟨by rw [outcome, choose_of_rejected none]; rfl, fun e inNode nothingFailed => ?_⟩
    exact none e inNode (failing_eq_nil.1 nothingFailed)
  · intro unreadable e _
    exact body_mem_failing unreadable

/-- An endpoint of higher priority that asks for a header. -/
def guarded : Endpoint :=
  ⟨"guarded", 1, "", ⟨none, none, "GET", "", staticRoot, [], [("x", "1")], none⟩, .default⟩

/-- Without the header, the endpoint of lower priority at the same node serves the request. -/
theorem findMatch_selects_lower :
    ∃ arrival, (ofList [.plain "open" "GET" staticRoot, guarded]).root.walk "GET"
        (splitPath "/static") = .ok arrival ∧ arrival.node.endpointsFor "GET" ≠ [] ∧
      (ofList [.plain "open" "GET" staticRoot, guarded]).findMatch (.plain "GET" "/static") =
        .ok ⟨.plain "open" "GET" staticRoot, []⟩ := by
  have arrived : (ofList [.plain "open" "GET" staticRoot, guarded]).root.walk "GET"
      (splitPath "/static") =
      .ok ⟨.node [] [] [("GET", [guarded, .plain "open" "GET" staticRoot])], []⟩ := by cbv
  have served : (Route.Tree.node [] [] [("GET", [guarded, .plain "open" "GET" staticRoot])]).endpointsFor
      "GET" ≠ [] := by simp [Tree.endpointsFor, Tree.endpoints, Table.get?]
  have withoutHeader : ¬ guarded.request.Meets (.plain "GET" "/static") := by
    intro meets
    cases meets .headers "x" "1" (List.mem_singleton_self _)
  obtain ⟨keys, place, first, _⟩ := findMatch_selects _ (.plain "GET" "/static") arrived served
  have atKeys : ["static"] = keys := (place ["static"]).1 (by cbv)
  subst atKeys
  have inOrder : candidates [.plain "open" "GET" staticRoot, guarded] ["static"] "GET" =
      [guarded, .plain "open" "GET" staticRoot] := by
    rw [candidates, ← foldl_insertByPriority]
    cbv
  refine ⟨_, arrived, served, first [guarded] _ [] inOrder ?_ (Endpoint.plain_isOpen.meets _)⟩
  simpa using withoutHeader

end Registry

end StubServer
