import StubServer.Proofs.Route.Outcome

/-! # The most specific pattern wins

At each node a walk tries a literal branch before `*`, and `*` before `**`.  When `**` stands only at the
end of patterns, every branch but the last takes one segment, so the patterns that accept a path can be
compared with its walk place by place.  The one that is matched then is at least as specific as each of
them (`findMatch_mostSpecific`): where their keys part for the first time, it has a literal against a `*`
or a `**`, a `*` against a `**`, or it has ended and the other goes on with a `**`.
-/

namespace StubServer

namespace Route

/-- More specific in one place.  Where a pattern has ended there is no segment. -/
inductive Outranks : Option Segment → Option Segment → Prop
  | literal_single (text : String) {s : Segment} (single : s.IsSingle) :
      Outranks (some (.literal text)) (some s)
  | literal_multi (text : String) : Outranks (some (.literal text)) (some .multi)
  | single_multi {s : Segment} (single : s.IsSingle) : Outranks (some s) (some .multi)
  | ended : Outranks none (some .multi)

/-- The keys agree in the `k` places in front, and not in the next. -/
structure PartAt (keys others : List String) (k : Nat) : Prop where
  before : keys.take k = others.take k
  here : keys[k]? ≠ others[k]?

/-- The two patterns have the same keys, or the first outranks the second where these part. -/
def AtLeastAsSpecific (p q : List Segment) : Prop :=
  p.map Segment.key = q.map Segment.key ∨
    ∃ k, PartAt (p.map Segment.key) (q.map Segment.key) k ∧ Outranks p[k]? q[k]?

/-- There is no `**` but in the last place. -/
def MultiOnlyLast (p : List Segment) : Prop := .multi ∉ p.dropLast

section Patterns

variable {s s' : Segment} {p q : List Segment}

theorem AtLeastAsSpecific.of_head (differ : (p.map Segment.key)[0]? ≠ (q.map Segment.key)[0]?)
    (outranks : Outranks p[0]? q[0]?) : AtLeastAsSpecific p q :=
  .inr ⟨0, ⟨rfl, differ⟩, outranks⟩

theorem AtLeastAsSpecific.cons (sameKey : s.key = s'.key) (behind : AtLeastAsSpecific p q) :
    AtLeastAsSpecific (s :: p) (s' :: q) := by
  rcases behind with same | ⟨k, parts, outranks⟩
  · exact .inl (by rw [List.map_cons, List.map_cons, sameKey, same])
  · refine .inr ⟨k + 1, ⟨?_, ?_⟩, by simpa using outranks⟩
    · rw [List.map_cons, List.map_cons, List.take_succ_cons, List.take_succ_cons, sameKey, parts.before]
    · simpa using parts.here

theorem MultiOnlyLast.tail (lastOnly : MultiOnlyLast (s :: p)) : MultiOnlyLast p := by
  cases p with
  | nil => simp [MultiOnlyLast]
  | cons s' p =>
    rw [MultiOnlyLast, List.dropLast_cons_cons, List.mem_cons, not_or] at lastOnly
    exact lastOnly.2

theorem MultiOnlyLast.eq_nil (lastOnly : MultiOnlyLast (.multi :: p)) : p = [] := by
  cases p with
  | nil => rfl
  | cons s' p =>
    rw [MultiOnlyLast, List.dropLast_cons_cons, List.mem_cons, not_or] at lastOnly
    exact absurd rfl lastOnly.1

/-- Only nothing and a `**` accept the empty path. -/
theorem accepts_nil (lastOnly : MultiOnlyLast p) (accepted : Accepts p []) : p = [] ∨ p = [.multi] := by
  cases p with
  | nil => exact .inl rfl
  | cons s p =>
    cases s with
    | literal _ | param _ | wildcard => cases accepted
    | multi => exact .inr (by rw [lastOnly.eq_nil])

end Patterns

namespace Tree

variable {t child : Tree} {method s key : String} {rest keys path : List String} {m : Move}

/-- Endpoints below a key are endpoints below its child. -/
theorem exists_child? (registered : t.endpointsAt (key :: keys) method ≠ []) :
    ∃ child, t.child? key = some child ∧ child.endpointsAt keys method ≠ [] := by
  cases found : t.child? key with
  | none => exact absurd (endpointsAt_of_no_child? found keys method) registered
  | some child => exact ⟨child, rfl, endpointsAt_of_child? found keys method ▸ registered⟩

/-- One move beside the first segment of a pattern that accepts the path, when the tree has its branch.
They take the same branch, or the branch of the move was tried first. -/
theorem move?_against {first first' : Segment} {behind : List Segment}
    (moved : t.move? s rest = some m) (wellFormed : first.WellFormed) (wellFormed' : first'.WellFormed)
    (atKey : first.key = m.key) (found : t.child? first'.key = some child)
    (accepted : Accepts (first' :: behind) (s :: rest)) :
    (first'.key = m.key ∧ (first = .multi ∧ first' = .multi ∨ Accepts behind m.rest)) ∨
      (first'.key ≠ m.key ∧ Outranks (some first) (some first')) := by
  cases first' with
  | literal text =>
    -- it is the text of the segment, so its branch is the one that was tried first
    cases accepted with
    | literal _ left =>
      obtain ⟨notWildcard, notMulti⟩ := Segment.literal_key_ne wellFormed'
      have byLiteral := literalChild?_eq_some.2 ⟨notWildcard, notMulti, found⟩
      rcases move?_cases moved with ⟨_, _, rfl⟩ | ⟨noLiteral, _⟩ | ⟨noLiteral, _⟩
      · exact .inl ⟨rfl, .inr left⟩
      · cases noLiteral.symm.trans byLiteral
      · cases noLiteral.symm.trans byLiteral
  | param _ | wildcard =>
    have left : Accepts behind rest := by cases accepted; assumption
    rcases move?_cases moved with ⟨_, tried, rfl⟩ | ⟨_, _, _, rfl⟩ | ⟨_, noWildcard, _⟩
    · obtain ⟨notWildcard, notMulti, _⟩ := literalChild?_eq_some.1 tried
      rw [Segment.eq_literal_of_key notWildcard notMulti atKey]
      exact .inr ⟨Ne.symm notWildcard, .literal_single s trivial⟩
    · exact .inl ⟨rfl, .inr left⟩
    · cases noWildcard.symm.trans found
  | multi =>
    -- any move may be beside it: only one to `**` takes the same branch
    rcases move?_cases moved with ⟨_, tried, rfl⟩ | ⟨_, _, _, rfl⟩ | ⟨_, _, _, _, rfl⟩
    · obtain ⟨notWildcard, notMulti, _⟩ := literalChild?_eq_some.1 tried
      rw [Segment.eq_literal_of_key notWildcard notMulti atKey]
      exact .inr ⟨Ne.symm notMulti, .literal_multi s⟩
    · exact .inr ⟨wildcardKey_ne_multiKey.symm, .single_multi (Segment.isSingle_of_key wellFormed atKey)⟩
    · exact .inl ⟨rfl, .inl ⟨Segment.eq_multi_of_key wellFormed atKey, rfl⟩⟩

/-- The keys at which a walk settles: those of its way, or one `**` more where nothing for the method ends
on the way. -/
def SettlesAt (t : Tree) (method : String) (path keys : List String) : Prop :=
  keys = t.wayKeys path ∨ (keys = t.wayKeys path ++ [multiKey] ∧ (t.stop path).endpointsFor method = [])

theorem SettlesAt.of_move? (moved : t.move? s rest = some m) (settled : t.SettlesAt method (s :: rest) keys) :
    ∃ behind, keys = m.key :: behind ∧ m.node.SettlesAt method m.rest behind := by
  rw [SettlesAt, wayKeys_of_move? moved, stop_of_move? moved] at settled
  rcases settled with onWay | ⟨further, unserved⟩
  · exact ⟨_, onWay, .inl rfl⟩
  · exact ⟨_, further, .inr ⟨rfl, unserved⟩⟩

/-- A walk settles at a node that such keys lead to. -/
theorem exists_settlesAt (t : Tree) (method : String) (path : List String) :
    ∃ keys, t.nodeAt? keys = some ((t.stop path).settle method) ∧ t.SettlesAt method path keys := by
  have stopped := nodeAt?_wayKeys t path
  rcases settle_cases (t.stop path) method with stays | ⟨unserved, further⟩
  · exact ⟨t.wayKeys path, by rw [stays]; exact stopped, .inl rfl⟩
  · refine ⟨t.wayKeys path ++ [multiKey], ?_, .inr ⟨rfl, unserved⟩⟩
    rw [nodeAt?_append stopped]
    exact nodeAt?_of_child? further []

/-- A pattern with the keys at which a walk settles is at least as specific as every pattern that accepts
the path and has endpoints in the tree.  As long as no `**` comes, each move takes one segment; and behind
a `**` nothing follows. -/
theorem atLeastAsSpecific (t : Tree) (path : List String) {winner other : List Segment}
    (wellFormed : ∀ s ∈ winner, s.WellFormed) (wellFormed' : ∀ s ∈ other, s.WellFormed)
    (lastOnly : MultiOnlyLast winner) (lastOnly' : MultiOnlyLast other)
    (nothingLeft : t.unwalked path = [])
    (settled : t.SettlesAt method path (winner.map Segment.key))
    (registered : t.endpointsAt (other.map Segment.key) method ≠ []) (accepted : Accepts other path) :
    AtLeastAsSpecific winner other := by
  induction t, path using trail_induction generalizing winner other with
  | arrived t =>
    rw [SettlesAt, wayKeys, trail_nil, List.map_nil, List.nil_append, stop, trail_nil,
      List.foldl_nil] at settled
    rcases accepts_nil lastOnly' accepted with rfl | rfl
    · -- an endpoint ends here, so the walk has not gone on to a `**`
      rcases settled with ended | ⟨_, unserved⟩
      · exact .inl ended
      · exact absurd unserved registered
    · -- an endpoint that ends here goes before the `**`, and else the walk has gone on to it
      rcases settled with ended | ⟨further, _⟩
      · rw [List.map_eq_nil_iff] at ended
        subst ended
        exact .of_head (by simp) .ended
      · exact .inl further
  | stuck t s rest noMove => simp [unwalked, trail_of_stuck noMove] at nothingLeft
  | moved t s rest m isMove ih =>
    rw [unwalked_of_move? isMove] at nothingLeft
    obtain ⟨_, isKeys, settled⟩ := settled.of_move? isMove
    obtain ⟨first, behind, rfl, atKey, rfl⟩ := List.map_eq_cons_iff.1 isKeys
    obtain ⟨ofFirst, ofBehind⟩ := List.forall_mem_cons.1 wellFormed
    cases other with
    | nil => cases accepted
    | cons first' behind' =>
      obtain ⟨ofFirst', ofBehind'⟩ := List.forall_mem_cons.1 wellFormed'
      obtain ⟨child, found, registered⟩ := exists_child? registered
      rcases move?_against isMove ofFirst ofFirst' atKey found accepted with
        ⟨sameKey, ⟨rfl, rfl⟩ | left⟩ | ⟨otherKey, outranks⟩
      · -- nothing follows a `**`, so both patterns end here
        rw [lastOnly.eq_nil, lastOnly'.eq_nil]
        exact .inl rfl
      · rw [sameKey, move?_child? isMove, Option.some.injEq] at found
        subst found
        exact .cons (atKey.trans sameKey.symm) (ih ofBehind ofBehind' lastOnly.tail lastOnly'.tail
          nothingLeft settled registered left)
      · exact .of_head (by simpa [atKey] using Ne.symm otherKey) outranks

end Tree

end Route

namespace Registry

open Route

variable {es : List Endpoint} {r : Http.Request} {found : Matched}

/-- The keys of what is matched are those at which the walk settles. -/
theorem settlesAt_of_matched (matched : (ofList es).findMatch r = .ok found) :
    (Tree.ofList es).unwalked (splitPath r.path) = [] ∧
      (Tree.ofList es).SettlesAt r.method (splitPath r.path) found.endpoint.keys := by
  obtain ⟨arrival, arrived, chosen⟩ := choose_of_matched matched
  obtain ⟨nothingLeft, rfl⟩ := Tree.walk_eq_ok arrived
  obtain ⟨keys, place, settled⟩ := Tree.exists_settlesAt (Tree.ofList es) r.method (splitPath r.path)
  have atPlace : found.endpoint ∈ candidates es keys r.method := by
    rw [← Tree.endpointsAt_ofList, Tree.endpointsAt_of_nodeAt? place]
    exact (meets_of_choose chosen).1
  exact ⟨nothingLeft, (mem_candidates.1 atPlace).2.1 ▸ settled⟩

/-- Among the listed endpoints for the method whose pattern accepts the path, none is more specific than
the one that is matched, if `**` stands only at the end of patterns. -/
theorem findMatch_mostSpecific (es : List Endpoint) (r : Http.Request)
    (lastOnly : ∀ e ∈ es, MultiOnlyLast e.request.pattern.segments) {found : Matched}
    (matched : (ofList es).findMatch r = .ok found) {other : Endpoint} (listed : other ∈ es)
    (ofMethod : other.method = r.method) (accepts : other.request.pattern.Accepts (splitPath r.path)) :
    AtLeastAsSpecific found.endpoint.request.pattern.segments other.request.pattern.segments := by
  obtain ⟨nothingLeft, settled⟩ := settlesAt_of_matched matched
  have registered : (Tree.ofList es).endpointsAt other.keys r.method ≠ [] := by
    rw [Tree.endpointsAt_ofList]
    exact List.ne_nil_of_mem (mem_candidates.2 ⟨listed, rfl, ofMethod⟩)
  exact Tree.atLeastAsSpecific _ _ found.endpoint.request.pattern.wellFormed
    other.request.pattern.wellFormed (lastOnly _ (mem_of_matched matched)) (lastOnly other listed)
    nothingLeft settled registered accepts

/-- The endpoint `GET /static/{name}`. -/
def staticByName : Endpoint :=
  .plain "by-name" "GET"
    ⟨[.literal "static", .param "name"], by simp [Segment.WellFormed, Segment.isBrace]⟩

/-- A parameter goes before a `**` that was listed earlier. -/
theorem findMatch_mostSpecific_name :
    ∃ found, (ofList [.plain "files" "GET" staticFiles, staticByName]).findMatch (.plain "GET" "/static/a") =
        .ok found ∧ found.endpoint = staticByName ∧ staticFiles.Accepts (splitPath "/static/a") ∧
      AtLeastAsSpecific staticByName.request.pattern.segments staticFiles.segments := by
  have matched : (ofList [.plain "files" "GET" staticFiles, staticByName]).findMatch (.plain "GET" "/static/a") =
      .ok ⟨staticByName, [("name", "a")]⟩ := by cbv
  have lastOnly : ∀ e ∈ [Endpoint.plain "files" "GET" staticFiles, staticByName],
      MultiOnlyLast e.request.pattern.segments := by
    simp [Endpoint.plain, staticFiles, staticByName, MultiOnlyLast]
  have accepts : staticFiles.Accepts (splitPath "/static/a") := .literal "static" (.multi ["a"] .done)
  exact ⟨_, matched, rfl, accepts, findMatch_mostSpecific _ _ lastOnly matched
    (List.mem_cons_self ..) rfl accepts⟩

end Registry

end StubServer
