import StubServer.Proofs.Route.Captures

/-! # The order of loading

Endpoints may be loaded in any order, as long as those with the same keys, method and priority keep
theirs (`Rearranged`).  The trees of both lists have the same nodes then, each with the same endpoints
in the same order, and with the same names in some order (`Alike`).  Walks over such trees make the
same moves; and the order of names does not show, since a segment is captured under all of them.  So
a request has one outcome on both (`findMatch_rearranged`).
-/

namespace StubServer

namespace Route

/-- The same endpoints in another order, which keeps the order of those that share keys, method and
priority. -/
structure Rearranged (es es' : List Endpoint) : Prop where
  perm : es.Perm es'
  keeps : ∀ keys method priority,
    (es.filter fun e => e.keys = keys ∧ e.method = method ∧ e.priority = priority) =
      es'.filter fun e => e.keys = keys ∧ e.method = method ∧ e.priority = priority

/-- Where no two endpoints share all three, any order will do. -/
theorem Rearranged.of_apart {es es' : List Endpoint} (perm : es.Perm es')
    (apart : es.Pairwise fun a b =>
      ¬ (a.keys = b.keys ∧ a.method = b.method ∧ a.priority = b.priority)) : Rearranged es es' where
  perm := perm
  keeps keys method priority := by
    have apart' := perm.pairwise apart fun differ same =>
      differ ⟨same.1.symm, same.2.1.symm, same.2.2.symm⟩
    refine (perm.filter _).eq_of_pairwise (fun a b inList inList' differ _ => ?_)
      (apart.filter _) (apart'.filter _)
    -- what passes the filter shares all three
    simp only [List.mem_filter, decide_eq_true_eq] at inList inList'
    obtain ⟨_, rfl, rfl, rfl⟩ := inList
    obtain ⟨_, atKeys, ofMethod, ofPriority⟩ := inList'
    exact absurd ⟨atKeys.symm, ofMethod.symm, ofPriority.symm⟩ differ

/-- The candidates of a place are ordered by priority, and endpoints of one priority keep their
order: so there is nothing left that could differ. -/
theorem Rearranged.candidates_eq {es es' : List Endpoint} (rearranged : Rearranged es es')
    (keys : List String) (method : String) : candidates es keys method = candidates es' keys method := by
  have order := highestFirst_inPriorityOrder (es.filter fun e => e.keys = keys ∧ e.method = method)
  have order' := highestFirst_inPriorityOrder (es'.filter fun e => e.keys = keys ∧ e.method = method)
  refine InPriorityOrder.unique ⟨order.descending, fun p => ?_⟩ order'
  have level (listed : List Endpoint) :
      ((listed.filter fun e => e.keys = keys ∧ e.method = method).filter fun e => e.priority = p) =
        listed.filter fun e => e.keys = keys ∧ e.method = method ∧ e.priority = p := by
    rw [List.filter_filter]
    congr 1
    funext e
    rw [← Bool.decide_and]
    exact decide_eq_decide.2 ⟨fun ⟨atP, atKeys, ofMethod⟩ => ⟨atKeys, ofMethod, atP⟩,
      fun ⟨atKeys, ofMethod, atP⟩ => ⟨atP, atKeys, ofMethod⟩⟩
  exact (order.stable p).trans (by rw [level, level, rearranged.keeps])

/-! ## Captures -/

namespace Captures

variable {params : Captures} {names names' : List String}

theorem ascending_bindAll (ascending : params.Ascending) (names : List String) (segment : String) :
    (params.bindAll names segment).Ascending := by
  induction names generalizing params with
  | nil => exact ascending
  | cons first rest ih => exact ih (ascending.insert first segment)

/-- A segment is captured under a set of names; their order does not show. -/
theorem bindAll_congr (ascending : params.Ascending)
    (same : ∀ name, name ∈ names ↔ name ∈ names') (segment : String) :
    params.bindAll names segment = params.bindAll names' segment := by
  refine Table.Ascending.ext (ascending_bindAll ascending names segment)
    (ascending_bindAll ascending names' segment) fun name => ?_
  rw [get?_bindAll, get?_bindAll, if_congr (same name) rfl rfl]

end Captures

/-! ## Alike trees -/

/-- The same nodes, each with the same endpoints and with the same names up to their order. -/
structure Alike (t t' : Tree) : Prop where
  nodes : ∀ keys, (t.nodeAt? keys).isSome = (t'.nodeAt? keys).isSome
  endpoints : ∀ keys method, t.endpointsAt keys method = t'.endpointsAt keys method
  names : ∀ keys name, name ∈ (t.nodeAtD keys).names ↔ name ∈ (t'.nodeAtD keys).names

/-- Moves along the same branch, which pass and leave the same segments. -/
structure AlikeMoves (m m' : Move) : Prop where
  key : m.key = m'.key
  node : Alike m.node m'.node
  passed : m.passed = m'.passed
  rest : m.rest = m'.rest

/-- What comes of walks over alike trees. -/
inductive AlikeEnds : Except (List String) Arrival → Except (List String) Arrival → Prop
  | lost (matched : List String) : AlikeEnds (.error matched) (.error matched)
  | arrived {place place' : Tree} (alike : Alike place place') (params : Captures) :
      AlikeEnds (.ok ⟨place, params⟩) (.ok ⟨place', params⟩)

theorem Rearranged.alike {es es' : List Endpoint} (rearranged : Rearranged es es') :
    Alike (Tree.ofList es) (Tree.ofList es') where
  nodes keys := by
    rw [Bool.eq_iff_iff, Tree.nodeAt?_ofList, Tree.nodeAt?_ofList]
    simp only [rearranged.perm.mem_iff]
  endpoints keys method := by
    rw [Tree.endpointsAt_ofList, Tree.endpointsAt_ofList, rearranged.candidates_eq]
  names keys name := by
    rw [Tree.mem_names_ofList, Tree.mem_names_ofList]
    simp only [rearranged.perm.mem_iff]

/-- Related options are there or missing together. -/
theorem none_or_some {α β : Type} {r : α → β → Prop} {a : Option α} {b : Option β}
    (related : Option.Rel r a b) :
    (a = none ∧ b = none) ∨ ∃ x y, a = some x ∧ b = some y ∧ r x y := by
  cases related with
  | none => exact .inl ⟨rfl, rfl⟩
  | some holds => exact .inr ⟨_, _, rfl, rfl, holds⟩

namespace Alike

variable {t t' : Tree}

theorem endpointsFor_eq (alike : Alike t t') (method : String) :
    t.endpointsFor method = t'.endpointsFor method :=
  alike.endpoints [] method

theorem mem_names_iff (alike : Alike t t') (name : String) : name ∈ t.names ↔ name ∈ t'.names :=
  alike.names [] name

theorem child? (alike : Alike t t') (key : String) :
    Option.Rel Alike (t.child? key) (t'.child? key) := by
  have there := alike.nodes [key]
  cases found : t.child? key with
  | none =>
    cases found' : t'.child? key with
    | none => exact .none
    | some child' => simp [Tree.nodeAt?, found, found'] at there
  | some child =>
    cases found' : t'.child? key with
    | none => simp [Tree.nodeAt?, found, found'] at there
    | some child' =>
      refine .some ⟨fun keys => ?_, fun keys method => ?_, fun keys name => ?_⟩
      · rw [← Tree.nodeAt?_of_child? found, ← Tree.nodeAt?_of_child? found']
        exact alike.nodes (key :: keys)
      · rw [← Tree.endpointsAt_of_child? found, ← Tree.endpointsAt_of_child? found']
        exact alike.endpoints (key :: keys) method
      · have below := alike.names (key :: keys) name
        rwa [Tree.nodeAtD_cons, Tree.nodeAtD_cons, found, found'] at below

theorem literalChild? (alike : Alike t t') (s : String) :
    Option.Rel Alike (t.literalChild? s) (t'.literalChild? s) := by
  unfold Tree.literalChild?
  split
  · exact .none
  · exact alike.child? s

theorem isSome_eq {branch branch' : Option Tree} (related : Option.Rel Alike branch branch') :
    branch.isSome = branch'.isSome := by
  cases related <;> rfl

theorem taken_eq (alike : Alike t t') (path : List String) : t.taken path = t'.taken path := by
  have literals : (fun s => (t.literalChild? s).isSome) = fun s => (t'.literalChild? s).isSome :=
    funext fun s => isSome_eq (alike.literalChild? s)
  have wildcards : t.wildcardChild?.isSome = t'.wildcardChild?.isSome :=
    isSome_eq (alike.child? wildcardKey)
  simp only [Tree.taken, literals, wildcards]

/-! ## Walks -/

/-- One move: a branch that is preferred in one tree is there and preferred in the other. -/
theorem move? (alike : Alike t t') (s : String) (rest : List String) :
    Option.Rel AlikeMoves (t.move? s rest) (t'.move? s rest) := by
  unfold Tree.move? Tree.wildcardChild? Tree.multiChild?
  rcases none_or_some (alike.literalChild? s) with
    ⟨noLiteral, noLiteral'⟩ | ⟨child, child', found, found', below⟩
  · rw [noLiteral, noLiteral']
    rcases none_or_some (alike.child? wildcardKey) with
      ⟨noWildcard, noWildcard'⟩ | ⟨child, child', found, found', below⟩
    · rw [noWildcard, noWildcard']
      rcases none_or_some (alike.child? multiKey) with
        ⟨noMulti, noMulti'⟩ | ⟨child, child', found, found', below⟩
      · rw [noMulti, noMulti']
        exact .none
      · rw [found, found']
        dsimp only
        rw [below.taken_eq]
        exact .some ⟨rfl, below, rfl, rfl⟩
    · rw [found, found']
      exact .some ⟨rfl, below, rfl, rfl⟩
  · rw [found, found']
    exact .some ⟨rfl, below, rfl, rfl⟩

theorem settle (alike : Alike t t') (method : String) : Alike (t.settle method) (t'.settle method) := by
  unfold Tree.settle Tree.multiChild?
  rw [alike.endpointsFor_eq]
  split
  · rcases none_or_some (alike.child? multiKey) with
      ⟨none, none'⟩ | ⟨child, child', found, found', below⟩
    · rw [none, none']
      exact alike
    · rw [found, found']
      exact below
  · exact alike

end Alike

theorem AlikeMoves.capture {m m' : Move} (alike : AlikeMoves m m') {params : Captures}
    (ascending : params.Ascending) :
    m.capture params = m'.capture params ∧ (m.capture params).Ascending := by
  unfold Move.capture
  rw [alike.key, alike.passed]
  split
  · induction m'.passed generalizing params with
    | nil => exact ⟨rfl, ascending⟩
    | cons s later ih =>
      have captured := Captures.bindAll_congr ascending alike.node.mem_names_iff s
      rw [List.foldl_cons, List.foldl_cons, ← captured]
      exact ih (Captures.ascending_bindAll ascending m.node.names s)
  · exact ⟨rfl, ascending⟩

/-- A whole walk, by its moves. -/
theorem Alike.walkFrom {t t' : Tree} (alike : Alike t t') (method : String)
    (path matched : List String) {params : Captures} (ascending : params.Ascending) :
    AlikeEnds (t.walkFrom method path matched params) (t'.walkFrom method path matched params) := by
  induction t, path using Tree.trail_induction generalizing t' matched params with
  | arrived t =>
    rw [Tree.walkFrom, Tree.walkFrom]
    exact .arrived (alike.settle method) params
  | stuck t s rest noMove =>
    rcases none_or_some (alike.move? s rest) with ⟨_, noMove'⟩ | ⟨m, m', isMove, _, _⟩
    · rw [Tree.walkFrom_of_stuck method noMove, Tree.walkFrom_of_stuck method noMove']
      exact .lost matched
    · cases noMove.symm.trans isMove
  | moved t s rest m isMove ih =>
    rcases none_or_some (alike.move? s rest) with ⟨noMove, _⟩ | ⟨_, m', same, isMove', moves⟩
    · cases noMove.symm.trans isMove
    · cases same.symm.trans isMove
      obtain ⟨captured, ascends⟩ := moves.capture ascending
      rw [Tree.walkFrom_of_move? method isMove, Tree.walkFrom_of_move? method isMove',
        ← captured, ← moves.passed, ← moves.rest]
      exact ih moves.node (matched ++ m.passed) ascends

end Route

namespace Registry

open Route

/-- The outcome of a request does not depend on the order of loading: the same endpoint with the same
captures, or the same mismatch with the same rejections in the same order. -/
theorem findMatch_rearranged {es es' : List Endpoint} (rearranged : Rearranged es es')
    (r : Http.Request) : (ofList es).findMatch r = (ofList es').findMatch r := by
  have ends : AlikeEnds ((ofList es).root.walk r.method (splitPath r.path))
      ((ofList es').root.walk r.method (splitPath r.path)) :=
    rearranged.alike.walkFrom r.method (splitPath r.path) [] Table.ascending_nil
  unfold findMatch
  generalize (ofList es).root.walk r.method (splitPath r.path) = walk at ends ⊢
  generalize (ofList es').root.walk r.method (splitPath r.path) = walk' at ends ⊢
  cases ends with
  | lost => rfl
  | arrived alike params => simp only [alike.endpointsFor_eq]

/-- Endpoints for one node are loaded the other way round, with one for another method among them: the
request is served by the one of higher priority, and its segment is captured under both names. -/
theorem findMatch_rearranged_reversed :
    let es := [byId, .plain "upload" "POST" staticRoot, byName]
    Rearranged es es.reverse ∧
      (ofList es).findMatch (.plain "GET" "/42") = (ofList es.reverse).findMatch (.plain "GET" "/42") ∧
      (ofList es.reverse).findMatch (.plain "GET" "/42") =
        .ok ⟨byName, [("id", "42"), ("name", "42")]⟩ := by
  intro es
  have rearranged : Rearranged es es.reverse := by
    refine .of_apart es.reverse_perm.symm ?_
    simp [es, byId, byName, Endpoint.plain, Endpoint.keys, staticRoot, Endpoint.method]
  exact ⟨rearranged, findMatch_rearranged rearranged _, by cbv⟩

end Registry

end StubServer
