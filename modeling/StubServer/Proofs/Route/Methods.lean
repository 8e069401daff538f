import StubServer.Proofs.Route.Outcome

/-! # Endpoints of other methods

All methods share one tree, and a walk looks at the method only where it settles.  So endpoints of
other methods matter through the branches that they add: a walk may prefer such a branch and be led
away from every endpoint of the request's method.  `Within` relates the tree of one method to the
whole tree; as long as a walk over the whole tree stays on nodes of the smaller one, both walks make
the same moves (`Within.follow`).  `findMatch_ofMethod` draws the line: either the walk stays, and
nothing of the outcome depends on the other methods, or it leaves, and nothing is matched.
-/

namespace StubServer

namespace Route

/-- An endpoint of the method lies at these keys or below them, or they are the keys of the root. -/
def LeadsTo (method : String) (es : List Endpoint) (keys : List String) : Prop :=
  keys = [] ∨ ∃ e ∈ es, e.method = method ∧ keys <+: e.keys

/-- `own` has no nodes that `all` has not, and the same endpoints of the method. -/
structure Within (method : String) (own all : Tree) : Prop where
  nodes : ∀ keys, (own.nodeAt? keys).isSome → (all.nodeAt? keys).isSome
  endpoints : ∀ keys, own.endpointsAt keys method = all.endpointsAt keys method

theorem nodeAt?_ofMethod (method : String) (es : List Endpoint) (keys : List String) :
    ((Tree.ofList (es.filter fun e => e.method = method)).nodeAt? keys).isSome ↔
      LeadsTo method es keys := by
  simp [Tree.nodeAt?_ofList, LeadsTo, and_assoc]

theorem within_ofMethod (method : String) (es : List Endpoint) :
    Within method (Tree.ofList (es.filter fun e => e.method = method)) (Tree.ofList es) where
  nodes keys isNode := by
    rw [nodeAt?_ofMethod] at isNode
    rw [Tree.nodeAt?_ofList]
    exact isNode.imp_right fun ⟨e, listed, _, onWay⟩ => ⟨e, listed, onWay⟩
  endpoints keys := by
    rw [Tree.endpointsAt_ofList, Tree.endpointsAt_ofList, candidates, candidates, List.filter_filter]
    congr 2
    funext e
    simp

namespace Within

variable {method : String} {own all : Tree}

/-- A branch of the smaller tree is one of the larger. -/
theorem child?_isSome (within : Within method own all) {key : String}
    (inOwn : (own.child? key).isSome) : (all.child? key).isSome := by
  have isNode : (own.nodeAt? [key]).isSome := by
    obtain ⟨child, found⟩ := Option.isSome_iff_exists.1 inOwn
    rw [Tree.nodeAt?_of_child? found]
    rfl
  have := within.nodes [key] isNode
  cases found : all.child? key with
  | some child => rfl
  | none => rw [Tree.nodeAt?_of_no_child? found] at this; cases this

theorem child?_eq_none (within : Within method own all) {key : String}
    (notInAll : all.child? key = none) : own.child? key = none := by
  cases found : own.child? key with
  | none => rfl
  | some child =>
    have inOwn : (own.child? key).isSome := by rw [found]; rfl
    simpa [notInAll] using within.child?_isSome inOwn

theorem literalChild?_eq_none (within : Within method own all) {s : String}
    (notInAll : all.literalChild? s = none) : own.literalChild? s = none :=
  Tree.literalChild?_eq_none.2 fun notWildcard notMulti =>
    within.child?_eq_none (Tree.literalChild?_eq_none.1 notInAll notWildcard notMulti)

/-- Below a branch that both trees have, the relation goes on. -/
theorem below (within : Within method own all) {key : String} {ownChild allChild : Tree}
    (inOwn : own.child? key = some ownChild) (inAll : all.child? key = some allChild) :
    Within method ownChild allChild where
  nodes keys isNode := by
    rw [← Tree.nodeAt?_of_child? inAll]
    exact within.nodes (key :: keys) (by rwa [Tree.nodeAt?_of_child? inOwn])
  endpoints keys := by
    rw [← Tree.endpointsAt_of_child? inOwn, ← Tree.endpointsAt_of_child? inAll]
    exact within.endpoints (key :: keys)

theorem endpointsFor_eq (within : Within method own all) :
    own.endpointsFor method = all.endpointsFor method :=
  within.endpoints []

/-- Where the walk over the larger tree goes on in the smaller one, `**` takes the same segments in
both: the branch at which it ends is a branch of the smaller tree too. -/
theorem taken_eq (within : Within method own all) {s : String} {rest : List String}
    (stays : (own.nodeAt? (all.wayKeys ((s :: rest).drop (all.taken (s :: rest))))).isSome) :
    own.taken (s :: rest) = all.taken (s :: rest) := by
  rcases all.first_literal_or_none (s :: rest) with ⟨before, x, after, split, noneBefore, here⟩ | nowhere
  · have ends : all.taken (before ++ x :: after) = before.length :=
      Tree.taken_of_first noneBefore here
    rw [split] at stays ⊢
    rw [ends, List.drop_left] at stays
    rw [ends]
    -- the next move takes the literal branch, so the smaller tree has it
    obtain ⟨child, found⟩ := Option.isSome_iff_exists.1 here
    have next : all.move? x after = some ⟨x, child, [x], after⟩ := by simp [Tree.move?, found]
    rw [Tree.wayKeys_of_move? next] at stays
    obtain ⟨notWildcard, notMulti, _⟩ := Tree.literalChild?_eq_some.1 found
    refine Tree.taken_of_first (fun y inBefore => within.literalChild?_eq_none (noneBefore y inBefore)) ?_
    cases inOwn : own.child? x with
    | some ownChild =>
      rw [Tree.literalChild?_eq_some.2 ⟨notWildcard, notMulti, inOwn⟩]
      rfl
    | none => rw [Tree.nodeAt?_of_no_child? inOwn] at stays; cases stays
  · have ownNowhere : ∀ y ∈ s :: rest, own.literalChild? y = none := fun y inPath =>
      within.literalChild?_eq_none (nowhere y inPath)
    cases found : all.wildcardChild? with
    | none =>
      have missing : own.wildcardChild? = none := within.child?_eq_none found
      rw [Tree.taken_of_neither nowhere found, Tree.taken_of_neither ownNowhere missing]
    | some child =>
      -- one segment is left, and it goes along `*`
      obtain ⟨front, last, split⟩ := exists_last (List.cons_ne_nil s rest)
      rw [split] at stays nowhere ownNowhere ⊢
      have next : all.move? last [] = some ⟨wildcardKey, child, [last], []⟩ := by
        simp only [Tree.move?, nowhere last (by simp), found]
      rw [Tree.taken_of_wildcard nowhere found, List.drop_left, Tree.wayKeys_of_move? next] at stays
      cases inOwn : own.wildcardChild? with
      | some ownChild =>
        rw [Tree.taken_of_wildcard nowhere found, Tree.taken_of_wildcard ownNowhere inOwn]
      | none => rw [Tree.nodeAt?_of_no_child? inOwn] at stays; cases stays

/-- One move: as long as the walk over the larger tree stays in the smaller one, a walk over the
smaller tree makes the same. -/
theorem move? (within : Within method own all) {s : String} {rest : List String} {m : Move}
    (moved : all.move? s rest = some m)
    (stays : (own.nodeAt? (m.key :: m.node.wayKeys m.rest)).isSome) :
    ∃ child, own.move? s rest = some ⟨m.key, child, m.passed, m.rest⟩ ∧
      Within method child m.node ∧ (child.nodeAt? (m.node.wayKeys m.rest)).isSome := by
  cases inOwn : own.child? m.key with
  | none => rw [Tree.nodeAt?_of_no_child? inOwn] at stays; cases stays
  | some child =>
    rw [Tree.nodeAt?_of_child? inOwn] at stays
    have goesOn := within.below inOwn (Tree.move?_child? moved)
    refine ⟨child, ?_, goesOn, stays⟩
    rcases Tree.move?_cases moved with ⟨node, found, rfl⟩ | ⟨noLiteral, node, found, rfl⟩ |
      ⟨noLiteral, noWildcard, node, found, rfl⟩
    · obtain ⟨notWildcard, notMulti, _⟩ := Tree.literalChild?_eq_some.1 found
      have byLiteral := Tree.literalChild?_eq_some.2 ⟨notWildcard, notMulti, inOwn⟩
      simp only [Tree.move?, byLiteral]
    · have byWildcard : own.wildcardChild? = some child := inOwn
      simp only [Tree.move?, within.literalChild?_eq_none noLiteral, byWildcard]
    · have byMulti : own.multiChild? = some child := inOwn
      have noOther : own.wildcardChild? = none := within.child?_eq_none noWildcard
      simp only [Tree.move?, within.literalChild?_eq_none noLiteral, noOther, byMulti,
        goesOn.taken_eq stays]

theorem stuck (within : Within method own all) {s : String} {rest : List String}
    (noMove : all.move? s rest = none) : own.move? s rest = none := by
  obtain ⟨noLiteral, noWildcard, noMulti⟩ := Tree.move?_eq_none.1 noMove
  exact Tree.move?_eq_none.2 ⟨within.literalChild?_eq_none noLiteral,
    within.child?_eq_none noWildcard, within.child?_eq_none noMulti⟩

/-- A whole walk: it passes and leaves the same segments in both trees and stops at related nodes. -/
theorem follow (within : Within method own all) (path : List String)
    (stays : (own.nodeAt? (all.wayKeys path)).isSome) :
    own.walked path = all.walked path ∧ own.unwalked path = all.unwalked path ∧
      Within method (own.stop path) (all.stop path) := by
  induction all, path using Tree.trail_induction generalizing own with
  | arrived all => exact ⟨by simp [Tree.walked], by simp [Tree.unwalked], by simpa [Tree.stop] using within⟩
  | stuck all s rest noMove =>
    have ownStuck := within.stuck noMove
    simp [Tree.walked, Tree.unwalked, Tree.stop, Tree.trail_of_stuck, noMove, ownStuck, within]
  | moved all s rest m isMove ih =>
    rw [Tree.wayKeys_of_move? isMove] at stays
    obtain ⟨child, ownMove, goesOn, staysBelow⟩ := within.move? isMove stays
    obtain ⟨sameWalked, sameLeft, atStop⟩ := ih goesOn staysBelow
    rw [Tree.walked_of_move? isMove, Tree.unwalked_of_move? isMove, Tree.stop_of_move? isMove,
      Tree.walked_of_move? ownMove, Tree.unwalked_of_move? ownMove, Tree.stop_of_move? ownMove]
    exact ⟨congrArg (m.passed ++ ·) sameWalked, sameLeft, atStop⟩

/-- Related nodes settle on the same endpoints, even where only the larger tree has a `**` to go to. -/
theorem settle (within : Within method own all) :
    (own.settle method).endpointsFor method = (all.settle method).endpointsFor method := by
  have here := within.endpointsFor_eq
  unfold Tree.settle
  rw [here]
  split
  · next none =>
    have nothing : own.endpointsFor method = [] := here.trans (List.isEmpty_iff.1 none)
    have below := within.endpoints [multiKey]
    cases inAll : all.multiChild? with
    | none =>
      have inOwn : own.multiChild? = Option.none := within.child?_eq_none inAll
      rw [inOwn]
      exact here
    | some allChild =>
      rw [Tree.endpointsAt_of_child? inAll] at below
      cases inOwn : own.multiChild? with
      | none =>
        rw [Tree.endpointsAt_of_no_child? inOwn] at below
        exact nothing.trans below
      | some ownChild =>
        rw [Tree.endpointsAt_of_child? inOwn] at below
        exact below
  · exact here

end Within

/-- A place that no endpoint of the method lies at or below holds none, and neither does the `**`
below it. -/
theorem unserved_of_not_leadsTo {method : String} {es : List Endpoint} {keys : List String}
    (away : ¬ LeadsTo method es keys) {place : Tree}
    (atKeys : (Tree.ofList es).nodeAt? keys = some place) :
    (place.settle method).endpointsFor method = [] := by
  have noneBelow : ∀ more, (Tree.ofList es).endpointsAt (keys ++ more) method = [] := by
    intro more
    rw [Tree.endpointsAt_ofList]
    refine List.eq_nil_iff_forall_not_mem.2 fun e inNode => ?_
    obtain ⟨listed, atMore, ofMethod⟩ := mem_candidates.1 inNode
    exact away (.inr ⟨e, listed, ofMethod, atMore ▸ List.prefix_append keys more⟩)
  rcases Tree.settle_cases place method with stays | ⟨_, further⟩
  · rw [stays, ← Tree.endpointsAt_of_nodeAt? atKeys]
    simpa using noneBelow []
  · have atMulti := (Tree.nodeAt?_append atKeys [multiKey]).trans (Tree.nodeAt?_of_child? further [])
    rw [← Tree.endpointsAt_of_nodeAt? atMulti]
    exact noneBelow [multiKey]

end Route

namespace Registry

open Route

/-- Walks that pass and leave the same segments and settle on the same endpoints have the same
outcome, as far as it does not tell what was captured. -/
theorem findMatch_congr {es es' : List Endpoint} {r : Http.Request}
    (sameWalked : (ofList es).root.walked (splitPath r.path) =
      (ofList es').root.walked (splitPath r.path))
    (sameLeft : (ofList es).root.unwalked (splitPath r.path) =
      (ofList es').root.unwalked (splitPath r.path))
    (sameEnd : (((ofList es).root.stop (splitPath r.path)).settle r.method).endpointsFor r.method =
      (((ofList es').root.stop (splitPath r.path)).settle r.method).endpointsFor r.method) :
    ((ofList es).findMatch r).map (·.endpoint) = ((ofList es').findMatch r).map (·.endpoint) := by
  have walks := Tree.walk_eq r.method (ofList es).root (splitPath r.path)
  have walks' := Tree.walk_eq r.method (ofList es').root (splitPath r.path)
  rw [← sameWalked, ← sameLeft] at walks'
  by_cases arrives : (ofList es).root.unwalked (splitPath r.path) = []
  · rw [if_pos arrives] at walks walks'
    by_cases unserved :
        (((ofList es).root.stop (splitPath r.path)).settle r.method).endpointsFor r.method = []
    · rw [findMatch_of_unserved walks unserved, findMatch_of_unserved walks' (sameEnd ▸ unserved)]
    · rw [findMatch_of_served walks unserved, findMatch_of_served walks' (sameEnd ▸ unserved)]
      simp only [sameEnd]
      cases choose r (((ofList es').root.stop (splitPath r.path)).settle r.method |>.endpointsFor
        r.method) <;> rfl
  · rw [if_neg arrives] at walks walks'
    rw [findMatch_of_lost walks, findMatch_of_lost walks']

/-- Endpoints of other methods change nothing of an outcome but captures, as long as the walk over
the tree of all endpoints stays on the way to endpoints of the request's method.  Where it is led
away from them, nothing is matched. -/
theorem findMatch_ofMethod (es : List Endpoint) (r : Http.Request) :
    (LeadsTo r.method es ((ofList es).root.wayKeys (splitPath r.path)) →
      ((ofList es).findMatch r).map (·.endpoint) =
        ((ofList (es.filter fun e => e.method = r.method)).findMatch r).map (·.endpoint)) ∧
    (¬ LeadsTo r.method es ((ofList es).root.wayKeys (splitPath r.path)) →
      (∃ matched, (ofList es).findMatch r = .error (.path r.path matched)) ∨
        (ofList es).findMatch r = .error (.method r.path r.method)) := by
  constructor
  · -- the two walks make the same moves, and settle on the same endpoints
    intro stays
    obtain ⟨sameWalked, sameLeft, atStop⟩ := (within_ofMethod r.method es).follow (splitPath r.path)
      ((nodeAt?_ofMethod r.method es _).2 stays)
    exact (findMatch_congr sameWalked sameLeft atStop.settle).symm
  · -- wherever the walk ends, nothing of the method lies there or at the `**` below
    intro away
    have walks := Tree.walk_eq r.method (ofList es).root (splitPath r.path)
    by_cases arrives : (ofList es).root.unwalked (splitPath r.path) = []
    · rw [if_pos arrives] at walks
      exact .inr (findMatch_of_unserved walks
        (unserved_of_not_leadsTo away (Tree.nodeAt?_wayKeys _ _)))
    · rw [if_neg arrives] at walks
      exact .inl ⟨_, findMatch_of_lost walks⟩

/-- The pattern `/users/{id}`. -/
def userById : Pattern :=
  ⟨[.literal "users", .param "id"], by simp [Segment.WellFormed, Segment.isBrace]⟩

/-- The pattern `/users/me`. -/
def currentUser : Pattern :=
  ⟨[.literal "users", .literal "me"], by simp [Segment.WellFormed, Segment.isBrace]⟩

/-- The walk for any other user stays on the way to the endpoint of the method. -/
theorem findMatch_ofMethod_stays :
    LeadsTo "GET" [.plain "read" "GET" userById, .plain "change" "POST" currentUser]
        ((ofList [.plain "read" "GET" userById, .plain "change" "POST" currentUser]).root.wayKeys
          (splitPath "/users/42")) ∧
      ((ofList [.plain "read" "GET" userById, .plain "change" "POST" currentUser]).findMatch
          (.plain "GET" "/users/42")).map (·.endpoint) =
        ((ofList ([Endpoint.plain "read" "GET" userById, .plain "change" "POST" currentUser].filter
          fun e => e.method = "GET")).findMatch (.plain "GET" "/users/42")).map (·.endpoint) := by
  have way : (ofList [.plain "read" "GET" userById, .plain "change" "POST" currentUser]).root.wayKeys
      (splitPath "/users/42") = ["users", wildcardKey] := by cbv
  have stays : LeadsTo "GET" [.plain "read" "GET" userById, .plain "change" "POST" currentUser]
      ((ofList [.plain "read" "GET" userById, .plain "change" "POST" currentUser]).root.wayKeys
        (splitPath "/users/42")) := by
    rw [way]
    exact .inr ⟨_, List.mem_cons_self .., rfl, List.prefix_rfl⟩
  exact ⟨stays, (findMatch_ofMethod _ (.plain "GET" "/users/42")).1 stays⟩

/-- An endpoint of another method can hide one of the request's method: its literal branch is
preferred to `*`, and leads nowhere for this method. -/
theorem findMatch_hidden_by_method :
    ((ofList [.plain "read" "GET" userById, .plain "change" "POST" currentUser]).findMatch
        (.plain "GET" "/users/me")).map (·.endpoint) ≠
      ((ofList ([Endpoint.plain "read" "GET" userById, .plain "change" "POST" currentUser].filter
        fun e => e.method = (Http.Request.plain "GET" "/users/me").method)).findMatch
        (.plain "GET" "/users/me")).map (·.endpoint) := by
  have hidden : (ofList [.plain "read" "GET" userById, .plain "change" "POST" currentUser]).findMatch
      (.plain "GET" "/users/me") = .error (.method "/users/me" "GET") := by cbv
  have alone : (ofList ([Endpoint.plain "read" "GET" userById, .plain "change" "POST" currentUser].filter
      fun e => e.method = (Http.Request.plain "GET" "/users/me").method)).findMatch
      (.plain "GET" "/users/me") = .ok ⟨.plain "read" "GET" userById, [("id", "me")]⟩ := by cbv
  rw [hidden, alone]
  intro same
  cases same

end Registry

end StubServer
