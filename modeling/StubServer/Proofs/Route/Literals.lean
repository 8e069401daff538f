import StubServer.Proofs.Route.Outcome

/-! # Literal patterns

A path is never led astray from an endpoint that spells it: at each node the literal branch is tried
first, and at the end of the path the walk stays, as an endpoint for the method is there
(`Tree.walk_of_literals`).  So a request for such a path is served or rejected by the endpoints with the
same pattern, whatever else is listed (`findMatch_literal`).
-/

namespace StubServer

namespace Route

namespace Tree

variable {t place : Tree} {texts : List String}

/-- A walk along literal branches comes to the node at their keys, and goes on from there. -/
theorem trail_append_of_literals (found : t.nodeAt? texts = some place)
    (free : ∀ s ∈ texts, s ≠ wildcardKey ∧ s ≠ multiKey) (more : List String) :
    t.walked (texts ++ more) = texts ++ place.walked more ∧
      t.unwalked (texts ++ more) = place.unwalked more ∧ t.stop (texts ++ more) = place.stop more := by
  induction texts generalizing t with
  | nil =>
    cases found
    exact ⟨rfl, rfl, rfl⟩
  | cons s rest ih =>
    obtain ⟨⟨notWildcard, notMulti⟩, freeRest⟩ := List.forall_mem_cons.1 free
    cases isChild : t.child? s with
    | none => cases (nodeAt?_of_no_child? isChild rest).symm.trans found
    | some child =>
      rw [nodeAt?_of_child? isChild] at found
      have isMove : t.move? s (rest ++ more) = some ⟨s, child, [s], rest ++ more⟩ := by
        have byLiteral := literalChild?_eq_some.2 ⟨notWildcard, notMulti, isChild⟩
        simp only [move?, byLiteral]
      obtain ⟨passed, left, stopped⟩ := ih found freeRest
      rw [List.cons_append, walked_of_move? isMove, unwalked_of_move? isMove, stop_of_move? isMove]
      exact ⟨congrArg (s :: ·) passed, left, stopped⟩

theorem trail_of_literals (found : t.nodeAt? texts = some place)
    (free : ∀ s ∈ texts, s ≠ wildcardKey ∧ s ≠ multiKey) :
    t.unwalked texts = [] ∧ t.stop texts = place := by
  have behind := (trail_append_of_literals found free []).2
  rw [List.append_nil] at behind
  simpa [unwalked, stop] using behind

/-- There it stays, if it holds endpoints for the method. -/
theorem walk_of_literals {method : String} (found : t.nodeAt? texts = some place)
    (free : ∀ s ∈ texts, s ≠ wildcardKey ∧ s ≠ multiKey) (served : place.endpointsFor method ≠ []) :
    ∃ arrival, t.walk method texts = .ok arrival ∧ arrival.node = place := by
  obtain ⟨nothingLeft, stopped⟩ := trail_of_literals found free
  have stays : place.settle method = place := by rw [settle, if_neg (by simpa using served)]
  rw [walk_eq, if_pos nothingLeft, stopped, stays]
  exact ⟨_, rfl, rfl⟩

end Tree

/-! ## Patterns of literals -/

section Literals

variable {texts : List String} {p : Pattern}

theorem Pattern.keys_of_literals (literal : p.segments = texts.map .literal) : p.keys = texts := by
  rw [Pattern.keys, literal, List.map_map]
  exact List.map_id texts

theorem Pattern.free_of_literals (literal : p.segments = texts.map .literal) :
    ∀ s ∈ texts, s ≠ wildcardKey ∧ s ≠ multiKey := fun s inTexts =>
  Segment.literal_key_ne (p.wellFormed (.literal s) (literal ▸ List.mem_map_of_mem inTexts))

theorem segments_of_keys {segments : List Segment} (free : ∀ s ∈ texts, s ≠ wildcardKey ∧ s ≠ multiKey)
    (atKeys : segments.map Segment.key = texts) : segments = texts.map .literal := by
  subst atKeys
  induction segments with
  | nil => rfl
  | cons s rest ih =>
    rw [List.map_cons] at free ⊢
    obtain ⟨⟨notWildcard, notMulti⟩, freeRest⟩ := List.forall_mem_cons.1 free
    rw [List.map_cons, ← ih freeRest, ← Segment.eq_literal_of_key notWildcard notMulti rfl]

end Literals

/-! ## Places in the order -/

/-- The first of the two has the higher priority, or the same and it was listed earlier. -/
def PlacedBefore (es : List Endpoint) (a b : Endpoint) : Prop :=
  b.priority < a.priority ∨ (a.priority = b.priority ∧ [a, b].Sublist es)

theorem InPriorityOrder.placedBefore {listed ordered : List Endpoint} {a b : Endpoint}
    (order : InPriorityOrder listed ordered) (inOrder : [a, b].Sublist ordered) :
    PlacedBefore listed a b := by
  have falls : b.priority ≤ a.priority := List.pairwise_iff_forall_sublist.1 order.descending inOrder
  rcases Int.lt_or_eq_of_le falls with lower | same
  · exact .inl lower
  · refine .inr ⟨same.symm, ?_⟩
    -- among the endpoints of one priority, the order is that of the list
    have level := inOrder.filter fun e => decide (e.priority = a.priority)
    rw [order.stable a.priority, List.filter_eq_self.2 (by simp [same])] at level
    exact level.trans List.filter_sublist

theorem placedBefore_of_candidates {es before after : List Endpoint} {keys : List String}
    {method : String} {a b : Endpoint} (split : candidates es keys method = before ++ a :: after)
    (later : b ∈ after) : PlacedBefore es a b := by
  have inOrder : [a, b].Sublist (candidates es keys method) := by
    rw [split]
    exact ((List.singleton_sublist.2 later).cons_cons a).trans (List.sublist_append_right ..)
  rcases (highestFirst_inPriorityOrder _).placedBefore inOrder with higher | ⟨same, earlier⟩
  · exact .inl higher
  · exact .inr ⟨same, earlier.trans List.filter_sublist⟩

end Route

namespace Registry

open Route

/-- A request that spells the pattern of a listed endpoint with its method comes to the endpoints with this
pattern and method.  It is matched to one of them, and to this one or one before it in the order if it meets
this one; or it fails conditions of each of them, and these are reported. -/
theorem findMatch_literal (es : List Endpoint) (r : Http.Request) {e : Endpoint} (listed : e ∈ es)
    (ofMethod : e.method = r.method)
    (literal : e.request.pattern.segments = (splitPath r.path).map .literal) :
    (∃ found, (ofList es).findMatch r = .ok found ∧ found.endpoint ∈ es ∧
      found.endpoint.method = r.method ∧
      found.endpoint.request.pattern.segments = e.request.pattern.segments ∧
      (e.request.Meets r → found.endpoint = e ∨ PlacedBefore es found.endpoint e)) ∨
    (¬ e.request.Meets r ∧ ∃ rejections,
      (ofList es).findMatch r = .error (.predicates r.path r.method rejections) ∧
      ⟨e.id, failing e.request r⟩ ∈ rejections ∧ failing e.request r ≠ []) := by
  have atKeys := Pattern.keys_of_literals literal
  have free := Pattern.free_of_literals literal
  have inNode : e ∈ candidates es (splitPath r.path) r.method :=
    mem_candidates.2 ⟨listed, atKeys, ofMethod⟩
  -- the path leads to the node of the endpoint, and what is listed elsewhere has no say there
  obtain ⟨place, isPlace⟩ : ∃ place, (Tree.ofList es).nodeAt? (splitPath r.path) = some place :=
    Option.isSome_iff_exists.1 ((Tree.nodeAt?_ofList es _).2 (.inr ⟨e, listed, atKeys ▸ List.prefix_rfl⟩))
  have held : place.endpointsFor r.method = candidates es (splitPath r.path) r.method := by
    rw [← Tree.endpointsAt_of_nodeAt? isPlace, Tree.endpointsAt_ofList]
  have served : place.endpointsFor r.method ≠ [] := held ▸ List.ne_nil_of_mem inNode
  obtain ⟨arrival, arrived, rfl⟩ := Tree.walk_of_literals isPlace free served
  have outcome := findMatch_of_served arrived served
  rw [held] at outcome
  rcases first_meets_or_none r (candidates es (splitPath r.path) r.method) with
    ⟨before, first, after, split, passedOver, meets⟩ | none
  · left
    rw [split, choose_of_meets passedOver meets] at outcome
    have ofNode : first ∈ candidates es (splitPath r.path) r.method := by rw [split]; simp
    obtain ⟨listed', atKeys', ofMethod'⟩ := mem_candidates.1 ofNode
    refine ⟨_, outcome, listed', ofMethod', (segments_of_keys free atKeys').trans literal.symm,
      fun meetsOwn => ?_⟩
    rw [split, List.mem_append, List.mem_cons] at inNode
    rcases inNode with earlier | same | later
    · exact absurd meetsOwn (passedOver e earlier)
    · exact .inl same.symm
    · exact .inr (placedBefore_of_candidates split later)
  · right
    rw [choose_of_rejected none] at outcome
    refine ⟨none e inNode, _, outcome, List.mem_map_of_mem inNode, fun nothingFailed => ?_⟩
    exact none e inNode (failing_eq_nil.1 nothingFailed)

/-- The pattern `/**`. -/
def everything : Pattern := ⟨[.multi], by simp [Segment.WellFormed]⟩

/-- Neither a `**` that was listed first nor an endpoint of higher priority whose header is missing keeps
the request from the endpoint that it spells. -/
theorem findMatch_literal_reached :
    let own : Endpoint := .plain "root" "GET" staticRoot
    let es : List Endpoint := [.plain "all" "GET" everything, own, guarded]
    own ∈ es ∧ own.request.pattern.segments = (splitPath "/static").map .literal ∧
      ∃ found, (ofList es).findMatch (.plain "GET" "/static") = .ok found ∧
        (found.endpoint = own ∨ PlacedBefore es found.endpoint own) := by
  intro own es
  have listed : own ∈ es := by simp [es]
  have literal : own.request.pattern.segments = (splitPath "/static").map .literal := by decide
  have meets : own.request.Meets (.plain "GET" "/static") := Endpoint.plain_isOpen.meets _
  rcases findMatch_literal es (.plain "GET" "/static") listed rfl literal with
    ⟨found, matched, _, _, _, inOrder⟩ | ⟨fails, _⟩
  · exact ⟨listed, literal, found, matched, inOrder meets⟩
  · exact absurd meets fails

end Registry

end StubServer
