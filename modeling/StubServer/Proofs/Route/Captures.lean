import StubServer.Proofs.Route.Outcome
import StubServer.Proofs.Route.Representation

/-! # What a request captures

A move along `*` captures its segment under every name that its node has been given, by whichever
endpoint, and a later move overwrites what an earlier one captured under the same name
(`get?_captures_of_last`).  Along a way without `**` the moves and the segments of the path go
together, so the value of a name is the segment at the last place of the way that some endpoint names
so (`get?_captures`).  For an endpoint that is matched this is its own segment, unless an endpoint that
shares the way as far as a later place gives the name there (`param_of_matched`).
-/

namespace StubServer

namespace Route

theorem Captures.get?_bindAll (params : Captures) (names : List String) (segment name : String) :
    Table.get? (params.bindAll names segment) name =
      if name ∈ names then some segment else Table.get? params name := by
  induction names generalizing params with
  | nil => rfl
  | cons first rest ih =>
    rw [bindAll, List.foldl_cons]
    refine (ih (Table.insert params first segment)).trans ?_
    rw [Table.get?_insert]
    by_cases isFirst : name = first
    · simp [isFirst]
    · simp [isFirst, Ne.symm isFirst]

/-! ## The captures of a list of moves -/

/-- A move along `*` to a node with this name. -/
structure Move.Binds (m : Move) (name : String) : Prop where
  key : m.key = wildcardKey
  named : name ∈ m.node.names

section Moves

variable {m : Move} {name s : String} {front back : List Move}

theorem Move.get?_capture_of_binds (binds : m.Binds name) (one : m.passed = [s]) (params : Captures) :
    Table.get? (m.capture params) name = some s := by
  rw [Move.capture, if_pos binds.key, one, List.foldl_cons, List.foldl_nil, Captures.get?_bindAll,
    if_pos binds.named]

theorem Move.get?_capture_of_unbound (unbound : ¬ m.Binds name) (params : Captures) :
    Table.get? (m.capture params) name = Table.get? params name := by
  unfold Move.capture
  split
  · next atKey =>
    have unnamed : name ∉ m.node.names := fun named => unbound ⟨atKey, named⟩
    induction m.passed generalizing params with
    | nil => rfl
    | cons s later ih => rw [List.foldl_cons, ih, Captures.get?_bindAll, if_neg unnamed]
  · rfl

theorem get?_captures_of_unbound {moves : List Move} (unbound : ∀ m ∈ moves, ¬ m.Binds name)
    (params : Captures) :
    Table.get? (moves.foldl Move.capture params) name = Table.get? params name := by
  induction moves generalizing params with
  | nil => rfl
  | cons m later ih =>
    obtain ⟨ofFirst, ofLater⟩ := List.forall_mem_cons.1 unbound
    rw [List.foldl_cons, ih ofLater, Move.get?_capture_of_unbound ofFirst]

/-- The last move that binds a name decides what is captured under it. -/
theorem get?_captures_of_last (binds : m.Binds name) (one : m.passed = [s])
    (last : ∀ later ∈ back, ¬ later.Binds name) (params : Captures) :
    Table.get? ((front ++ m :: back).foldl Move.capture params) name = some s := by
  rw [List.foldl_append, List.foldl_cons, get?_captures_of_unbound last,
    Move.get?_capture_of_binds binds one]

end Moves

/-! ## The moves of a way -/

namespace Tree

variable {t : Tree} {s : String} {rest path : List String} {m : Move}

/-- A move that is not along `**` passes one segment. -/
theorem passed_of_move? (moved : t.move? s rest = some m) (notMulti : m.key ≠ multiKey) :
    m.passed = [s] ∧ m.rest = rest := by
  rcases move?_cases moved with ⟨child, _, rfl⟩ | ⟨_, child, _, rfl⟩ | ⟨_, _, child, _, rfl⟩
  · exact ⟨rfl, rfl⟩
  · exact ⟨rfl, rfl⟩
  · exact absurd rfl notMulti

/-- Along a way without `**`, each move passes one segment of the path. -/
theorem passed_of_noMulti (t : Tree) (path : List String) (noMulti : multiKey ∉ t.wayKeys path)
    (nothingLeft : t.unwalked path = []) :
    (t.trail path).map (·.passed) = path.map fun s => [s] := by
  induction t, path using trail_induction with
  | arrived t => simp
  | stuck t s rest noMove => simp [unwalked, trail_of_stuck noMove] at nothingLeft
  | moved t s rest m isMove ih =>
    rw [wayKeys_of_move? isMove, List.mem_cons, not_or] at noMulti
    rw [unwalked_of_move? isMove] at nothingLeft
    -- the move is along a literal or `*`: it passes `s` and leaves the others
    obtain ⟨one, others⟩ := passed_of_move? isMove (Ne.symm noMulti.1)
    rw [trail_of_move? isMove, List.map_cons, List.map_cons, ih noMulti.2 nothingLeft, one, others]

/-- A move along `*` passes one segment. -/
theorem passed_of_trail (t : Tree) (path : List String) {k : Nat}
    (isMove : (t.trail path)[k]? = some m) (atKey : m.key = wildcardKey) : ∃ s, m.passed = [s] := by
  induction t, path using trail_induction generalizing k with
  | arrived t => simp at isMove
  | stuck t s rest noMove => simp [trail_of_stuck noMove] at isMove
  | moved t s rest first moved ih =>
    rw [trail_of_move? moved] at isMove
    cases k with
    | zero =>
      cases isMove
      exact ⟨s, (passed_of_move? moved (atKey ▸ wildcardKey_ne_multiKey)).1⟩
    | succ k => exact ih (by simpa using isMove)

/-- The keys as far as a move lead to its node. -/
theorem nodeAt?_of_trail (t : Tree) (path : List String) {k : Nat}
    (isMove : (t.trail path)[k]? = some m) :
    t.nodeAt? ((t.wayKeys path).take (k + 1)) = some m.node := by
  induction t, path using trail_induction generalizing k with
  | arrived t => simp at isMove
  | stuck t s rest noMove => simp [trail_of_stuck noMove] at isMove
  | moved t s rest first moved ih =>
    rw [trail_of_move? moved] at isMove
    rw [wayKeys_of_move? moved, List.take_succ_cons, nodeAt?_of_child? (move?_child? moved)]
    cases k with
    | zero =>
      cases isMove
      rfl
    | succ k => exact ih (by simpa using isMove)

end Tree

/-! ## The names along a way -/

/-- Some endpoint that goes along `keys` as far as place `k` names the segment there. -/
def NamedAt (es : List Endpoint) (keys : List String) (name : String) (k : Nat) : Prop :=
  ∃ e ∈ es, e.keys.take (k + 1) = keys.take (k + 1) ∧
    e.request.pattern.segments[k]? = some (.param name)

/-- The last place along `keys` that some endpoint names so. -/
structure LastNamed (es : List Endpoint) (keys : List String) (name : String) (k : Nat) : Prop where
  named : NamedAt es keys name k
  last : ∀ l, k < l → ¬ NamedAt es keys name l

section Names

variable {es : List Endpoint} {keys : List String} {name : String} {j k : Nat}

/-- Only places of the keys are named, and they are on a `*`. -/
theorem NamedAt.key (named : NamedAt es keys name k) : keys[k]? = some wildcardKey := by
  obtain ⟨e, _, shared, isParam⟩ := named
  have own : e.keys[k]? = some wildcardKey := by
    rw [Endpoint.keys, Pattern.keys, List.getElem?_map, isParam]
    rfl
  rw [← List.getElem?_take_of_lt (Nat.lt_succ_self k), ← shared,
    List.getElem?_take_of_lt (Nat.lt_succ_self k), own]

theorem NamedAt.lt_length (named : NamedAt es keys name k) : k < keys.length :=
  (List.getElem?_eq_some_iff.1 named.key).1

/-- Where a place is named, there is a last place named so, as the keys come to an end. -/
theorem NamedAt.exists_last (named : NamedAt es keys name j) :
    ∃ k, j ≤ k ∧ LastNamed es keys name k := by
  classical
  -- places that are named are below the length of the keys, so one of them is the greatest
  have bounded := named.lt_length.le
  refine ⟨Nat.findGreatest (NamedAt es keys name) keys.length, Nat.le_findGreatest bounded named,
    Nat.findGreatest_spec bounded named, fun l later namedLater => ?_⟩
  exact Nat.findGreatest_is_greatest later namedLater.lt_length.le namedLater

/-- The names of a node are those given to the last place of its keys. -/
theorem mem_names_iff_namedAt (inKeys : k < keys.length) :
    name ∈ ((Tree.ofList es).nodeAtD (keys.take (k + 1))).names ↔ NamedAt es keys name k := by
  have places : (keys.take (k + 1)).length = k + 1 := by rw [List.length_take]; omega
  rw [Tree.mem_names_ofList]
  refine exists_congr fun e => and_congr_right fun _ => ?_
  rw [boundName?_eq_some_iff places, List.prefix_iff_eq_take, places, eq_comm]
  exact Iff.rfl

end Names

/-- A move of a walk binds the names that are given to its place on the way. -/
theorem binds_iff_namedAt {es : List Endpoint} {path : List String} {name : String} {k : Nat}
    {m : Move} (isMove : ((Tree.ofList es).trail path)[k]? = some m) :
    m.Binds name ↔ NamedAt es ((Tree.ofList es).wayKeys path) name k := by
  have atKey : ((Tree.ofList es).wayKeys path)[k]? = some m.key := by
    rw [Tree.wayKeys, List.getElem?_map, isMove]
    rfl
  have node := Tree.nodeAtD_of_nodeAt? (Tree.nodeAt?_of_trail _ path isMove)
  rw [← mem_names_iff_namedAt (List.getElem?_eq_some_iff.1 atKey).1, node]
  refine ⟨Move.Binds.named, fun named => ⟨?_, named⟩⟩
  -- a name stands only at a `*`
  rw [← node, mem_names_iff_namedAt (List.getElem?_eq_some_iff.1 atKey).1] at named
  exact Option.some.inj (atKey.symm.trans named.key)

/-- The value of a name is the segment that is passed by the move at the last place named so. -/
theorem get?_captures_of_lastNamed {es : List Endpoint} {path : List String} {name : String} {k : Nat}
    (last : LastNamed es ((Tree.ofList es).wayKeys path) name k) :
    ∃ m s, ((Tree.ofList es).trail path)[k]? = some m ∧ m.passed = [s] ∧
      Table.get? (((Tree.ofList es).trail path).foldl Move.capture []) name = some s := by
  have inTrail : k < ((Tree.ofList es).trail path).length := by
    have := last.named.lt_length
    rwa [Tree.wayKeys, List.length_map] at this
  have isMove := List.getElem?_eq_getElem inTrail
  have binds := (binds_iff_namedAt isMove).2 last.named
  obtain ⟨s, one⟩ := Tree.passed_of_trail _ path isMove binds.key
  refine ⟨_, s, isMove, one, ?_⟩
  -- the moves behind the one at `k` have later places, and these are not named so
  rw [← List.take_append_drop k ((Tree.ofList es).trail path), List.drop_eq_getElem_cons inTrail]
  refine get?_captures_of_last binds one (fun later inBack binds => ?_) []
  obtain ⟨i, isLater⟩ := List.getElem?_of_mem inBack
  rw [List.getElem?_drop] at isLater
  exact last.last (k + 1 + i) (by omega) ((binds_iff_namedAt isLater).1 binds)

/-- Along a way without `**`, the value of a name is the segment at the last place named so. -/
theorem get?_captures {es : List Endpoint} {path : List String} {name : String} {k : Nat}
    (noMulti : multiKey ∉ (Tree.ofList es).wayKeys path)
    (nothingLeft : (Tree.ofList es).unwalked path = [])
    (last : LastNamed es ((Tree.ofList es).wayKeys path) name k) :
    ∃ s, path[k]? = some s ∧
      Table.get? (((Tree.ofList es).trail path).foldl Move.capture []) name = some s := by
  obtain ⟨m, s, isMove, one, isValue⟩ := get?_captures_of_lastNamed last
  have passed := congrArg (·[k]?) (Tree.passed_of_noMulti (Tree.ofList es) path noMulti nothingLeft)
  simp only [List.getElem?_map, isMove, Option.map_some, one] at passed
  obtain ⟨_, isSegment, ⟨⟩⟩ := Option.map_eq_some_iff.1 passed.symm
  exact ⟨s, isSegment, isValue⟩

theorem Pattern.multiKey_notMem_keys {p : Pattern} (noMulti : .multi ∉ p.segments) :
    multiKey ∉ p.keys := by
  intro inKeys
  obtain ⟨s, inPattern, atKey⟩ := List.mem_map.1 inKeys
  rw [Segment.eq_multi_of_key (p.wellFormed s inPattern) atKey] at inPattern
  exact noMulti inPattern

end Route

namespace Registry

open Route

variable {es : List Endpoint} {r : Http.Request} {found : Matched}

/-- A request that is matched has been walked to its end, and captures what the moves of the walk do. -/
theorem params_of_matched (matched : (ofList es).findMatch r = .ok found) :
    (Tree.ofList es).unwalked (splitPath r.path) = [] ∧
      found.params = ((Tree.ofList es).trail (splitPath r.path)).foldl Move.capture [] := by
  obtain ⟨arrival, arrived, _, captured⟩ := findMatch_eq_ok_iff.1 matched
  obtain ⟨nothingLeft, rfl⟩ := Tree.walk_eq_ok arrived
  exact ⟨nothingLeft, captured⟩

/-- An endpoint without `**` that is matched has the keys of the way that the walk took. -/
theorem wayKeys_of_matched (matched : (ofList es).findMatch r = .ok found)
    (noMulti : .multi ∉ found.endpoint.request.pattern.segments) :
    (Tree.ofList es).wayKeys (splitPath r.path) = found.endpoint.keys := by
  obtain ⟨arrival, arrived, chosen, _⟩ := findMatch_eq_ok_iff.1 matched
  obtain ⟨_, rfl⟩ := Tree.walk_eq_ok arrived
  obtain ⟨keys, place, way⟩ :=
    Tree.settled_keys (Tree.ofList es) r.method (splitPath r.path)
  have atPlace : found.endpoint ∈ candidates es keys r.method := by
    rw [← Tree.endpointsAt_ofList, Tree.endpointsAt_of_nodeAt? place]
    exact (meets_of_choose chosen).1
  have ofKeys := (mem_candidates.1 atPlace).2.1
  rcases way with onWay | behindWay
  · exact (ofKeys.trans onWay).symm
  · -- one `**` further there are only endpoints with a `**`
    have noMultiKey := Pattern.multiKey_notMem_keys noMulti
    rw [← Endpoint.keys, ofKeys, behindWay] at noMultiKey
    exact absurd (List.mem_append_right _ (List.mem_singleton_self _)) noMultiKey

/-- A parameter of an endpoint without `**` that is matched is captured, with the segment at the last
place that an endpoint on the same way names so.  That is its own segment, unless a later place is named
so and holds another text. -/
theorem param_of_matched (es : List Endpoint) (r : Http.Request) {found : Matched}
    (matched : (ofList es).findMatch r = .ok found)
    (noMulti : .multi ∉ found.endpoint.request.pattern.segments) {j : Nat} {name : String}
    (isParam : found.endpoint.request.pattern.segments[j]? = some (.param name)) :
    (∃ k s, j ≤ k ∧ LastNamed es found.endpoint.keys name k ∧ (splitPath r.path)[k]? = some s ∧
      Table.get? found.params name = some s) ∧
    ((∀ k, j < k → NamedAt es found.endpoint.keys name k →
        (splitPath r.path)[k]? = (splitPath r.path)[j]?) →
      ∃ s, (splitPath r.path)[j]? = some s ∧ Table.get? found.params name = some s) := by
  obtain ⟨nothingLeft, captured⟩ := params_of_matched matched
  have onWay := wayKeys_of_matched matched noMulti
  have ownName : NamedAt es found.endpoint.keys name j :=
    ⟨found.endpoint, mem_of_matched matched, rfl, isParam⟩
  obtain ⟨k, notBefore, last⟩ := ownName.exists_last
  have noMultiKey : multiKey ∉ (Tree.ofList es).wayKeys (splitPath r.path) := by
    rw [onWay]
    exact Pattern.multiKey_notMem_keys noMulti
  obtain ⟨s, isSegment, isValue⟩ := get?_captures noMultiKey nothingLeft (onWay ▸ last)
  rw [← captured] at isValue
  refine ⟨⟨k, s, notBefore, last, isSegment, isValue⟩, fun harmless => ⟨s, ?_, isValue⟩⟩
  rcases Nat.eq_or_lt_of_le notBefore with same | later
  · rw [same]
    exact isSegment
  · rw [← harmless k later last.named]
    exact isSegment

/-- The endpoint `GET /{kind}/{id}`. -/
def byKind : Endpoint :=
  .plain "by-kind" "GET" ⟨[.param "kind", .param "id"], by simp [Segment.WellFormed, Segment.isBrace]⟩

/-- The endpoint `DELETE /{site}/{id}`. -/
def bySite : Endpoint :=
  .plain "by-site" "DELETE" ⟨[.param "site", .param "id"], by simp [Segment.WellFormed, Segment.isBrace]⟩

/-- An endpoint of another method on the same way names the first segment in its own manner, and
nothing later `kind`: the parameter has its own segment. -/
theorem param_of_matched_shared :
    ∃ found, (ofList [byKind, bySite]).findMatch (.plain "GET" "/users/7") = .ok found ∧
      found.endpoint = byKind ∧ Table.get? found.params "kind" = some "users" := by
  have matched : (ofList [byKind, bySite]).findMatch (.plain "GET" "/users/7") =
      .ok ⟨byKind, [("id", "7"), ("kind", "users"), ("site", "users")]⟩ := by cbv
  have isParam : byKind.request.pattern.segments[0]? = some (.param "kind") := rfl
  obtain ⟨s, isSegment, isValue⟩ := (param_of_matched _ _ matched (by decide) isParam).2 (by
    rintro k later ⟨e, listed, _, isLater⟩
    -- of the four segments only the first is named so
    exfalso
    simp only [List.mem_cons, List.not_mem_nil, or_false] at listed
    rcases listed with rfl | rfl
    all_goals
      rcases k with _ | _ | k
      · exact absurd later (Nat.lt_irrefl 0)
      all_goals simp [byKind, bySite, Endpoint.plain] at isLater)
  cases isSegment
  exact ⟨_, matched, rfl, isValue⟩

/-- The endpoint `POST /{site}/{kind}`. -/
def inSite : Endpoint :=
  .plain "in-site" "POST" ⟨[.param "site", .param "kind"], by simp [Segment.WellFormed, Segment.isBrace]⟩

/-- An endpoint of another method names the second segment `kind`, and its segment is what the matched
endpoint gets for its own first one. -/
theorem param_of_matched_overwritten :
    ∃ found, (ofList [byKind, inSite]).findMatch (.plain "GET" "/users/7") = .ok found ∧
      found.endpoint = byKind ∧ .multi ∉ found.endpoint.request.pattern.segments ∧
      (found.endpoint.request.pattern.segments.filterMap Segment.name?).Nodup ∧
      found.endpoint.request.pattern.segments[0]? = some (.param "kind") ∧
      (splitPath "/users/7")[0]? = some "users" ∧ Table.get? found.params "kind" = some "7" := by
  have matched : (ofList [byKind, inSite]).findMatch (.plain "GET" "/users/7") =
      .ok ⟨byKind, [("id", "7"), ("kind", "7"), ("site", "users")]⟩ := by cbv
  exact ⟨_, matched, rfl, by decide, by decide, rfl, by decide, by decide⟩

end Registry

end StubServer
