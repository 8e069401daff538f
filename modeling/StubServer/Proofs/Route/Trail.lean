import StubServer.Proofs.Route.Acceptance
import StubServer.Proofs.Route.Contents
import StubServer.Route.Walk

/-! # The trail of a walk

A walk is a sequence of moves.  `Tree.move?` is one of them: the branch that is taken before a
segment, the segments that are passed on it and those that are left.  `Tree.trail` lists the moves
of a whole walk, and `walkFrom_eq` says that the walk is its trail: where it stops, what is left of
the path there, and what it captured.  What one move keeps (`move?_child?`, `move?_passed_append`)
carries over to the trail: its keys lead to the node where it stops, and every pattern with these
keys accepts the segments that it passed.
-/

namespace StubServer.Route

/-- One move of a walk: the key of the branch, the node behind it, the segments passed, and the
segments left. -/
structure Move where
  key : String
  node : Tree
  passed : List String
  rest : List String

/-- A move along `*` captures its segment under the names of the node. -/
def Move.capture (params : Captures) (m : Move) : Captures :=
  if m.key = wildcardKey then m.passed.foldl (fun params s => params.bindAll m.node.names s) params
  else params

namespace Tree

variable {t : Tree} {s : String} {rest : List String} {m : Move}

/-- The move before a path that begins with `s`. -/
def move? (t : Tree) (s : String) (rest : List String) : Option Move :=
  match t.literalChild? s with
  | some child => some ⟨s, child, [s], rest⟩
  | none =>
    match t.wildcardChild? with
    | some child => some ⟨wildcardKey, child, [s], rest⟩
    | none =>
      match t.multiChild? with
      | some child =>
        let n := child.taken (s :: rest)
        some ⟨multiKey, child, (s :: rest).take n, (s :: rest).drop n⟩
      | none => none

/-! ## One move -/

theorem literalChild?_eq_some {child : Tree} :
    t.literalChild? s = some child ↔ s ≠ wildcardKey ∧ s ≠ multiKey ∧ t.child? s = some child := by
  unfold literalChild?
  split
  · next reserved =>
    refine ⟨(nomatch ·), fun free => ?_⟩
    rcases reserved with same | same
    · exact absurd same free.1
    · exact absurd same free.2.1
  · next free => simp only [not_or] at free; simp [free]

theorem literalChild?_eq_none :
    t.literalChild? s = none ↔ (s ≠ wildcardKey → s ≠ multiKey → t.child? s = none) := by
  unfold literalChild?
  split
  · next reserved =>
    exact ⟨fun _ notWildcard notMulti => absurd reserved (not_or.2 ⟨notWildcard, notMulti⟩),
      fun _ => rfl⟩
  · next free =>
    obtain ⟨notWildcard, notMulti⟩ := not_or.1 free
    exact ⟨fun missing _ _ => missing, fun missing => missing notWildcard notMulti⟩

/-- All that a move can be, in the order in which the branches are tried. -/
theorem move?_cases (moved : t.move? s rest = some m) :
    (∃ child, t.literalChild? s = some child ∧ m = ⟨s, child, [s], rest⟩) ∨
      (t.literalChild? s = none ∧
        ∃ child, t.wildcardChild? = some child ∧ m = ⟨wildcardKey, child, [s], rest⟩) ∨
      (t.literalChild? s = none ∧ t.wildcardChild? = none ∧
        ∃ child, t.multiChild? = some child ∧
          m = ⟨multiKey, child, (s :: rest).take (child.taken (s :: rest)),
            (s :: rest).drop (child.taken (s :: rest))⟩) := by
  unfold move? at moved
  cases byLiteral : t.literalChild? s with
  | some child =>
    simp only [byLiteral, Option.some.injEq] at moved
    exact .inl ⟨child, rfl, moved.symm⟩
  | none =>
    cases byWildcard : t.wildcardChild? with
    | some child =>
      simp only [byLiteral, byWildcard, Option.some.injEq] at moved
      exact .inr (.inl ⟨rfl, child, rfl, moved.symm⟩)
    | none =>
      cases byMulti : t.multiChild? with
      | some child =>
        simp only [byLiteral, byWildcard, byMulti, Option.some.injEq] at moved
        exact .inr (.inr ⟨rfl, rfl, child, rfl, moved.symm⟩)
      | none => simp [byLiteral, byWildcard, byMulti] at moved

theorem move?_eq_none : t.move? s rest = none ↔
    t.literalChild? s = none ∧ t.wildcardChild? = none ∧ t.multiChild? = none := by
  unfold move?
  cases t.literalChild? s <;> cases t.wildcardChild? <;> cases t.multiChild? <;> simp

/-- A move goes to the child at its key. -/
theorem move?_child? (moved : t.move? s rest = some m) : t.child? m.key = some m.node := by
  rcases move?_cases moved with ⟨child, found, rfl⟩ | ⟨_, child, found, rfl⟩ | ⟨_, _, child, found, rfl⟩
  · exact (literalChild?_eq_some.1 found).2.2
  · exact found
  · exact found

/-- A move passes a front part of the path and leaves the rest. -/
theorem move?_passed_append (moved : t.move? s rest = some m) : m.passed ++ m.rest = s :: rest := by
  rcases move?_cases moved with ⟨child, _, rfl⟩ | ⟨_, child, _, rfl⟩ | ⟨_, _, child, _, rfl⟩
  · rfl
  · rfl
  · exact List.take_append_drop ..

/-- Every segment with the key of a move takes up what the move passes. -/
theorem move?_accepts {segment : Segment} {pattern : List Segment} {path : List String}
    (moved : t.move? s rest = some m) (wellFormed : segment.WellFormed) (atKey : segment.key = m.key)
    (accepted : Accepts pattern path) : Accepts (segment :: pattern) (m.passed ++ path) := by
  rcases move?_cases moved with ⟨child, found, rfl⟩ | ⟨_, child, _, rfl⟩ | ⟨_, _, child, _, rfl⟩
  · obtain ⟨notWildcard, notMulti, _⟩ := literalChild?_eq_some.1 found
    exact accepts_of_literalKey notWildcard notMulti atKey accepted
  · exact accepts_of_wildcardKey wellFormed atKey s accepted
  · exact accepts_of_multiKey wellFormed atKey _ accepted

/-! ## How far `**` reaches -/

theorem findIdx?_of_nowhere {multi : Tree} {path : List String}
    (nowhere : ∀ y ∈ path, multi.literalChild? y = none) :
    path.findIdx? (fun s => (multi.literalChild? s).isSome) = none :=
  List.findIdx?_eq_none_iff.2 fun y inPath => by rw [nowhere y inPath]; rfl

/-- `**` ends before the first segment with a literal branch behind it. -/
theorem taken_of_first {multi : Tree} {before after : List String} {x : String}
    (noneBefore : ∀ y ∈ before, multi.literalChild? y = none)
    (here : (multi.literalChild? x).isSome) :
    multi.taken (before ++ x :: after) = before.length := by
  have first : (before ++ x :: after).findIdx? (fun s => (multi.literalChild? s).isSome) =
      some before.length := by
    rw [List.findIdx?_append, findIdx?_of_nowhere noneBefore, List.findIdx?_cons, if_pos here]
    simp
  simp only [taken, first]

/-- Without such a segment it leaves the last one to a `*` behind it. -/
theorem taken_of_wildcard {multi child : Tree} {front : List String} {last : String}
    (nowhere : ∀ y ∈ front ++ [last], multi.literalChild? y = none)
    (found : multi.wildcardChild? = some child) : multi.taken (front ++ [last]) = front.length := by
  simp only [taken, findIdx?_of_nowhere nowhere, found, Option.isSome_some, if_true,
    List.length_append, List.length_singleton, Nat.add_sub_cancel]

/-- Without a `*` behind it either, it takes all. -/
theorem taken_of_neither {multi : Tree} {path : List String}
    (nowhere : ∀ y ∈ path, multi.literalChild? y = none) (missing : multi.wildcardChild? = none) :
    multi.taken path = path.length := by
  simp [taken, findIdx?_of_nowhere nowhere, missing]

/-- A path has a first segment with a literal branch, or none at all. -/
theorem first_literal_or_none (multi : Tree) (path : List String) :
    (∃ before x after, path = before ++ x :: after ∧
      (∀ y ∈ before, multi.literalChild? y = none) ∧ (multi.literalChild? x).isSome) ∨
    ∀ y ∈ path, multi.literalChild? y = none := by
  cases first : path.find? fun s => (multi.literalChild? s).isSome with
  | some x =>
    obtain ⟨here, before, after, split, noneBefore⟩ := List.find?_eq_some_iff_append.1 first
    exact .inl ⟨before, x, after, split, fun y inBefore => by simpa using noneBefore y inBefore, here⟩
  | none => exact .inr fun y inPath => by simpa using List.find?_eq_none.1 first y inPath

/-! ## The moves of a walk -/

/-- The moves of a walk from `t`, until the path ends or no branch leads on. -/
def trail (t : Tree) (path : List String) : List Move :=
  match path with
  | [] => []
  | s :: rest =>
    match _ : t.move? s rest with
    | some m => m :: m.node.trail m.rest
    | none => []
termination_by t.height
decreasing_by exact child?_height (move?_child? ‹_›)

@[simp] theorem trail_nil (t : Tree) : t.trail [] = [] := by
  rw [trail]

theorem trail_of_move? (moved : t.move? s rest = some m) :
    t.trail (s :: rest) = m :: m.node.trail m.rest := by
  rw [trail]
  split
  · next other isMove => cases moved.symm.trans isMove; rfl
  · next stuck => cases moved.symm.trans stuck

theorem trail_of_stuck (stuck : t.move? s rest = none) : t.trail (s :: rest) = [] := by
  rw [trail]
  split
  · next other isMove => cases stuck.symm.trans isMove
  · rfl

/-- A walk is at the end of its path, or is stuck before a segment, or makes a move and goes on. -/
theorem trail_induction {motive : Tree → List String → Prop} (arrived : ∀ t, motive t [])
    (stuck : ∀ t s rest, t.move? s rest = none → motive t (s :: rest))
    (moved : ∀ t s rest m, t.move? s rest = some m → motive m.node m.rest → motive t (s :: rest))
    (t : Tree) (path : List String) : motive t path := by
  induction t, path using trail.induct with
  | case1 t => exact arrived t
  | case2 t s rest m isMove ih => exact moved t s rest m isMove ih
  | case3 t s rest noMove => exact stuck t s rest noMove

/-- The node where a walk comes to a halt. -/
def stop (t : Tree) (path : List String) : Tree := (t.trail path).foldl (fun _ m => m.node) t

/-- The segments that a walk leaves. -/
def unwalked (t : Tree) (path : List String) : List String :=
  (t.trail path).foldl (fun _ m => m.rest) path

/-- The segments that a walk passes. -/
def walked (t : Tree) (path : List String) : List String := (t.trail path).flatMap (·.passed)

/-- The keys of the branches that a walk takes. -/
def wayKeys (t : Tree) (path : List String) : List String := (t.trail path).map (·.key)

theorem wayKeys_of_move? (moved : t.move? s rest = some m) :
    t.wayKeys (s :: rest) = m.key :: m.node.wayKeys m.rest := by
  rw [wayKeys, trail_of_move? moved]
  rfl

theorem walked_of_move? (moved : t.move? s rest = some m) :
    t.walked (s :: rest) = m.passed ++ m.node.walked m.rest := by
  rw [walked, trail_of_move? moved]
  rfl

theorem unwalked_of_move? (moved : t.move? s rest = some m) :
    t.unwalked (s :: rest) = m.node.unwalked m.rest := by
  rw [unwalked, trail_of_move? moved]
  rfl

theorem stop_of_move? (moved : t.move? s rest = some m) :
    t.stop (s :: rest) = m.node.stop m.rest := by
  rw [stop, trail_of_move? moved]
  rfl

/-! ## A walk is its trail -/

theorem walkFrom_of_move? (method : String) (moved : t.move? s rest = some m)
    (matched : List String) (params : Captures) :
    t.walkFrom method (s :: rest) matched params =
      m.node.walkFrom method m.rest (matched ++ m.passed) (m.capture params) := by
  rw [walkFrom]
  rcases move?_cases moved with ⟨child, found, rfl⟩ | ⟨noLiteral, child, found, rfl⟩ |
    ⟨noLiteral, noWildcard, child, found, rfl⟩
  · have notWildcard : s ≠ wildcardKey := (literalChild?_eq_some.1 found).1
    split
    · next other isChild =>
      cases found.symm.trans isChild
      simp [Move.capture, notWildcard]
    · next missing => cases found.symm.trans missing
  · split
    · next isChild => cases noLiteral.symm.trans isChild
    · split
      · next isChild =>
        cases found.symm.trans isChild
        simp [Move.capture]
      · next missing => cases found.symm.trans missing
  · split
    · next isChild => cases noLiteral.symm.trans isChild
    · split
      · next isChild => cases noWildcard.symm.trans isChild
      · split
        · next isChild =>
          cases found.symm.trans isChild
          simp [Move.capture, wildcardKey_ne_multiKey.symm]
        · next missing => cases found.symm.trans missing

theorem walkFrom_of_stuck (method : String) (stuck : t.move? s rest = none)
    (matched : List String) (params : Captures) :
    t.walkFrom method (s :: rest) matched params = .error matched := by
  obtain ⟨noLiteral, noWildcard, noMulti⟩ := move?_eq_none.1 stuck
  rw [walkFrom]
  split
  · next isChild => cases noLiteral.symm.trans isChild
  · split
    · next isChild => cases noWildcard.symm.trans isChild
    · split
      · next isChild => cases noMulti.symm.trans isChild
      · rfl

/-- A walk ends well where its trail leaves nothing of the path, and fails with what the trail has
passed otherwise. -/
theorem walkFrom_eq (method : String) (t : Tree) (path matched : List String) (params : Captures) :
    t.walkFrom method path matched params =
      if t.unwalked path = [] then
        .ok ⟨(t.stop path).settle method, (t.trail path).foldl Move.capture params⟩
      else .error (matched ++ t.walked path) := by
  induction t, path using trail_induction generalizing matched params with
  | arrived t => simp [walkFrom, unwalked, stop]
  | stuck t s rest noMove =>
    simp [walkFrom_of_stuck method noMove, unwalked, walked, trail_of_stuck noMove]
  | moved t s rest m isMove ih =>
    rw [walkFrom_of_move? method isMove, ih, unwalked_of_move? isMove, stop_of_move? isMove,
      walked_of_move? isMove, trail_of_move? isMove, List.foldl_cons, List.append_assoc]

theorem walk_eq (method : String) (t : Tree) (path : List String) :
    t.walk method path =
      if t.unwalked path = [] then
        .ok ⟨(t.stop path).settle method, (t.trail path).foldl Move.capture []⟩
      else .error (t.walked path) := by
  rw [walk, walkFrom_eq, List.nil_append]

/-! ## What a trail keeps -/

/-- The keys of a trail lead to the node where it stops. -/
theorem nodeAt?_wayKeys (t : Tree) (path : List String) :
    t.nodeAt? (t.wayKeys path) = some (t.stop path) := by
  induction t, path using trail_induction with
  | arrived t => simp [wayKeys, stop]
  | stuck t s rest noMove => simp [wayKeys, stop, trail_of_stuck noMove]
  | moved t s rest m isMove ih =>
    rw [wayKeys_of_move? isMove, stop_of_move? isMove, nodeAt?_of_child? (move?_child? isMove)]
    exact ih

theorem walked_append_unwalked (t : Tree) (path : List String) :
    t.walked path ++ t.unwalked path = path := by
  induction t, path using trail_induction with
  | arrived t => simp [walked, unwalked]
  | stuck t s rest noMove => simp [walked, unwalked, trail_of_stuck noMove]
  | moved t s rest m isMove ih =>
    rw [walked_of_move? isMove, unwalked_of_move? isMove, List.append_assoc, ih,
      move?_passed_append isMove]

/-- What is left of a path begins with a segment before which no move is open. -/
theorem move?_stop {path : List String} (left : t.unwalked path = s :: rest) :
    (t.stop path).move? s rest = none := by
  induction t, path using trail_induction with
  | arrived t => simp [unwalked] at left
  | stuck t s' rest' noMove =>
    simp only [unwalked, trail_of_stuck noMove, List.foldl_nil, List.cons.injEq] at left
    obtain ⟨rfl, rfl⟩ := left
    simpa [stop, trail_of_stuck noMove] using noMove
  | moved t s' rest' m isMove ih =>
    rw [unwalked_of_move? isMove] at left
    rw [stop_of_move? isMove]
    exact ih left

/-- Every pattern with the keys of a trail accepts what the trail has passed. -/
theorem accepts_walked (t : Tree) (path : List String) {pattern : List Segment}
    (wellFormed : ∀ s ∈ pattern, s.WellFormed) (atKeys : pattern.map Segment.key = t.wayKeys path) :
    Accepts pattern (t.walked path) := by
  induction t, path using trail_induction generalizing pattern with
  | arrived t =>
    have isNil : pattern = [] := by simpa [wayKeys] using atKeys
    subst isNil
    simpa [walked] using Accepts.done
  | stuck t s rest noMove =>
    have isNil : pattern = [] := by simpa [wayKeys, trail_of_stuck noMove] using atKeys
    subst isNil
    simpa [walked, trail_of_stuck noMove] using Accepts.done
  | moved t s rest m isMove ih =>
    rw [wayKeys_of_move? isMove] at atKeys
    obtain ⟨segment, behind, rfl, atHead, atRest⟩ := List.map_eq_cons_iff.1 atKeys
    obtain ⟨ofHead, ofRest⟩ := List.forall_mem_cons.1 wellFormed
    rw [walked_of_move? isMove]
    exact move?_accepts isMove ofHead atHead (ih ofRest atRest)

/-! ## The end of a walk -/

/-- A walk settles where it stops, or one `**` further. -/
theorem settle_cases (t : Tree) (method : String) :
    t.settle method = t ∨
      (t.endpointsFor method = [] ∧ t.multiChild? = some (t.settle method)) := by
  unfold settle
  split
  · next none =>
    cases found : t.multiChild? with
    | none => exact .inl rfl
    | some child => exact .inr ⟨List.isEmpty_iff.1 none, rfl⟩
  · exact .inl rfl

/-- A walk that ends well has left nothing of its path, and its captures are those of its moves. -/
theorem walk_eq_ok {method : String} {path : List String} {arrival : Arrival}
    (arrived : t.walk method path = .ok arrival) :
    t.unwalked path = [] ∧
      arrival = ⟨(t.stop path).settle method, (t.trail path).foldl Move.capture []⟩ := by
  rw [walk_eq] at arrived
  split at arrived
  · next nothingLeft => exact ⟨nothingLeft, (Except.ok.inj arrived).symm⟩
  · cases arrived

/-- A walk that is lost has left something of its path, and comes back with what it has passed. -/
theorem walk_eq_error {method : String} {path lost : List String}
    (isLost : t.walk method path = .error lost) : t.unwalked path ≠ [] ∧ lost = t.walked path := by
  rw [walk_eq] at isLost
  split at isLost
  · cases isLost
  · next someLeft => exact ⟨someLeft, (Except.error.inj isLost).symm⟩

/-- The keys of the end of a walk are those of its way, or one `**` more. -/
theorem settled_keys (t : Tree) (method : String) (path : List String) :
    ∃ keys, t.nodeAt? keys = some ((t.stop path).settle method) ∧
      (keys = t.wayKeys path ∨ keys = t.wayKeys path ++ [multiKey]) := by
  have stopped := nodeAt?_wayKeys t path
  rcases settle_cases (t.stop path) method with stays | ⟨_, further⟩
  · exact ⟨t.wayKeys path, by rw [stays]; exact stopped, .inl rfl⟩
  · refine ⟨t.wayKeys path ++ [multiKey], ?_, .inr rfl⟩
    rw [nodeAt?_append stopped]
    exact nodeAt?_of_child? further []

/-- A walk that ends well ends at keys whose every pattern accepts the path. -/
theorem walk_place {method : String} {path : List String} {arrival : Arrival}
    (arrived : t.walk method path = .ok arrival) :
    ∃ keys, t.nodeAt? keys = some arrival.node ∧
      ∀ pattern : List Segment, (∀ s ∈ pattern, s.WellFormed) → pattern.map Segment.key = keys →
        Accepts pattern path := by
  obtain ⟨nothingLeft, rfl⟩ := walk_eq_ok arrived
  have all : t.walked path = path := by
    have := walked_append_unwalked t path
    rwa [nothingLeft, List.append_nil] at this
  obtain ⟨keys, place, onWay | behindWay⟩ := settled_keys t method path
  · exact ⟨keys, place, fun pattern wellFormed atKeys =>
      all ▸ accepts_walked t path wellFormed (atKeys.trans onWay)⟩
  · refine ⟨keys, place, fun pattern wellFormed atKeys => ?_⟩
    -- the last segment is a `**` that takes up nothing
    obtain ⟨front, back, rfl, atFront, atBack⟩ := List.map_eq_append_iff.1 (atKeys.trans behindWay)
    obtain ⟨last, rest, rfl, atLast, atRest⟩ := List.map_eq_cons_iff.1 atBack
    have isNil : rest = [] := List.map_eq_nil_iff.1 atRest
    subst isNil
    have before := accepts_walked t path
      (fun s inFront => wellFormed s (List.mem_append_left _ inFront)) atFront
    have atEnd : Accepts [last] ([] ++ []) :=
      accepts_of_multiKey (wellFormed last (by simp)) atLast [] .done
    simpa [all] using before.append atEnd

end Tree

end StubServer.Route
