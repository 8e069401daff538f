import StubServer.Proofs.Route.Commitment
import StubServer.Proofs.Route.Outcome
import StubServer.Proofs.Route.PathText

/-! # An endpoint alone

The tree of one endpoint is a single branch (`branch_ofList`).  Along it, a walk serves a path exactly
if the pattern commits to it (`Branch.serves_iff`).  So an endpoint without further conditions serves the
paths that its pattern commits to, and this is all that its pattern accepts for the lossless patterns and
for one more, `//**/**`, which loses a path that no request has (`findMatch_alone`).
-/

namespace StubServer

namespace Route

variable {method : String} {t child : Tree} {s : Segment} {p rest : List Segment}
  {x text : String} {path : List String} {m : Move}

namespace Tree

/-! ## Nodes with one branch -/

/-- The branch of this segment is the only one, and it leads to the child. -/
def Only (t : Tree) (s : Segment) (child : Tree) : Prop :=
  ∀ key, t.child? key = if s.key = key then some child else none

theorem Only.child?_eq_none (only : t.Only s child) {key : String} (other : s.key ≠ key) :
    t.child? key = none := by
  rw [only, if_neg other]

theorem Only.literalChild? (only : t.Only (.literal text) child)
    (wellFormed : (Segment.literal text).WellFormed) :
    t.literalChild? x = if text = x then some child else none := by
  obtain ⟨notWildcard, notMulti⟩ := Segment.literal_key_ne wellFormed
  split
  · next same =>
    subst same
    exact literalChild?_eq_some.2 ⟨notWildcard, notMulti, (only text).trans (if_pos rfl)⟩
  · next other => exact literalChild?_eq_none.2 fun _ _ => only.child?_eq_none other

/-- A parameter, `*` or `**` makes no literal branch. -/
theorem Only.literalChild?_eq_none (only : t.Only s child)
    (reserved : s.key = wildcardKey ∨ s.key = multiKey) : t.literalChild? x = none :=
  Tree.literalChild?_eq_none.2 fun notWildcard notMulti => only.child?_eq_none fun same =>
    reserved.elim (fun atKey => notWildcard (same.symm.trans atKey))
      fun atKey => notMulti (same.symm.trans atKey)

theorem Only.wildcardChild? (only : t.Only s child) (isSingle : s.IsSingle) :
    t.wildcardChild? = some child :=
  (only wildcardKey).trans (if_pos isSingle.key_eq)

theorem Only.multiChild? (only : t.Only .multi child) : t.multiChild? = some child :=
  (only multiKey).trans (if_pos rfl)

theorem move?_of_no_child? (noChild : ∀ key, t.child? key = none) : t.move? x path = none :=
  move?_eq_none.2 ⟨literalChild?_eq_none.2 fun _ _ => noChild x, noChild wildcardKey,
    noChild multiKey⟩

theorem Only.move?_literal (only : t.Only (.literal text) child)
    (wellFormed : (Segment.literal text).WellFormed) (x : String) (path : List String) :
    t.move? x path = if text = x then some ⟨x, child, [x], path⟩ else none := by
  obtain ⟨notWildcard, notMulti⟩ := Segment.literal_key_ne wellFormed
  by_cases same : text = x
  · simp only [move?, only.literalChild? wellFormed, if_pos same]
  · rw [if_neg same, move?_eq_none, only.literalChild? wellFormed, if_neg same]
    exact ⟨rfl, only.child?_eq_none notWildcard, only.child?_eq_none notMulti⟩

theorem Only.move?_single (only : t.Only s child) (isSingle : s.IsSingle) :
    t.move? x path = some ⟨wildcardKey, child, [x], path⟩ := by
  have noLiteral : t.literalChild? x = none := only.literalChild?_eq_none (.inl isSingle.key_eq)
  simp only [move?, noLiteral, only.wildcardChild? isSingle]

theorem Only.move?_multi (only : t.Only .multi child) :
    t.move? x path = some ⟨multiKey, child, (x :: path).take (child.taken (x :: path)),
      (x :: path).drop (child.taken (x :: path))⟩ := by
  have noLiteral : t.literalChild? x = none := only.literalChild?_eq_none (.inr rfl)
  have noWildcard : t.wildcardChild? = none := only.child?_eq_none wildcardKey_ne_multiKey.symm
  simp only [move?, noLiteral, noWildcard, only.multiChild?]

/-! ## How far `**` reaches before one branch -/

theorem Only.taken_first (only : t.Only (.literal text) child)
    (wellFormed : (Segment.literal text).WellFormed) {run behind : List String}
    (notBefore : text ∉ run) : t.taken (run ++ text :: behind) = run.length := by
  refine taken_of_first (fun y inRun => ?_) ?_
  · rw [only.literalChild? wellFormed, if_neg]
    rintro rfl
    exact notBefore inRun
  · rw [only.literalChild? wellFormed, if_pos rfl]
    rfl

theorem Only.taken_nowhere (only : t.Only (.literal text) child)
    (wellFormed : (Segment.literal text).WellFormed) (nowhere : text ∉ path) :
    t.taken path = path.length := by
  refine taken_of_neither (fun y inPath => ?_) (only.child?_eq_none (Segment.literal_key_ne wellFormed).1)
  rw [only.literalChild? wellFormed, if_neg]
  rintro rfl
  exact nowhere inPath

theorem Only.taken_single (only : t.Only s child) (isSingle : s.IsSingle) (front : List String)
    (last : String) : t.taken (front ++ [last]) = front.length :=
  taken_of_wildcard (fun _ _ => only.literalChild?_eq_none (.inl isSingle.key_eq))
    (only.wildcardChild? isSingle)

theorem Only.taken_multi (only : t.Only .multi child) : t.taken path = path.length :=
  taken_of_neither (fun _ _ => only.literalChild?_eq_none (.inr rfl))
    (only.child?_eq_none wildcardKey_ne_multiKey.symm)

/-! ## Walks that are served -/

/-- The walk for a path ends at endpoints of the method. -/
def Serves (t : Tree) (method : String) (path : List String) : Prop :=
  t.unwalked path = [] ∧ ((t.stop path).settle method).endpointsFor method ≠ []

theorem serves_nil : t.Serves method [] ↔ (t.settle method).endpointsFor method ≠ [] := by
  simp [Serves, unwalked, stop]

theorem not_serves_of_stuck (stuck : t.move? x path = none) : ¬ t.Serves method (x :: path) := by
  simp [Serves, unwalked, trail_of_stuck stuck]

theorem serves_of_move? (moved : t.move? x path = some m) :
    t.Serves method (x :: path) ↔ m.node.Serves method m.rest := by
  rw [Serves, unwalked_of_move? moved, stop_of_move? moved, Serves]

end Tree

/-- A tree without other nodes than those of one pattern, and with endpoints of the method at its end
and nowhere before. -/
inductive Branch (method : String) : List Segment → Tree → Prop
  | tip {t : Tree} : (∀ key, t.child? key = none) → t.endpointsFor method ≠ [] → Branch method [] t
  | grow {s : Segment} {rest : List Segment} {t child : Tree} :
      t.endpointsFor method = [] → t.Only s child → Branch method rest child →
      Branch method (s :: rest) t

namespace Branch

theorem endpointsFor_eq_nil (branch : Branch method p t) : t.endpointsFor method = [] ↔ p ≠ [] := by
  cases branch with
  | tip _ held => simpa using held
  | grow unheld _ _ => simpa using unheld

/-- Where the path ends, the pattern ends too or has one `**` more. -/
theorem serves_nil (branch : Branch method p t) (wellFormed : ∀ s ∈ p, s.WellFormed) :
    t.Serves method [] ↔ Commits p [] := by
  rw [Tree.serves_nil, commits_nil, Tree.settle]
  cases branch with
  | tip _ held =>
    rw [if_neg (by simpa using held)]
    simpa using held
  | @grow s rest _ child unheld only below =>
    -- nothing is held here, so the walk settles on the `**` below, if this is the branch
    rw [if_pos (by simp [unheld])]
    by_cases isMulti : s = .multi
    · subst isMulti
      rw [only.multiChild?, Option.getD_some, Ne, below.endpointsFor_eq_nil]
      simp
    · have otherKey : s.key ≠ multiKey := fun atKey =>
        isMulti (Segment.eq_multi_of_key (wellFormed s (List.mem_cons_self ..)) atKey)
      have noMulti : t.multiChild? = none := only.child?_eq_none otherKey
      rw [noMulti, Option.getD_none]
      simp [unheld, isMulti]

/-- Behind a `**` the walk goes on where the pattern does. -/
theorem serves_behind_multi (branch : Branch method rest child)
    (wellFormed : ∀ s ∈ rest, s.WellFormed)
    (below : ∀ path, child.Serves method path ↔ Commits rest path) (x : String) (path : List String) :
    child.Serves method ((x :: path).drop (child.taken (x :: path))) ↔
      Commits (.multi :: rest) (x :: path) := by
  rw [below]
  cases branch with
  | tip noChild _ =>
    have nowhere : ∀ y ∈ x :: path, child.literalChild? y = none := fun y _ =>
      Tree.literalChild?_eq_none.2 fun _ _ => noChild y
    rw [Tree.taken_of_neither nowhere (noChild wildcardKey), List.drop_length]
    exact iff_of_true .done (.all _)
  | @grow s rest _ next _ only _ =>
    cases s with
    | literal text =>
      have ofText := wellFormed _ (List.mem_cons_self ..)
      by_cases somewhere : text ∈ x :: path
      · -- both go on at the first place of the literal
        obtain ⟨run, behind, split, notBefore⟩ := List.eq_append_cons_of_mem somewhere
        rw [split, only.taken_first ofText notBefore, List.drop_left, commits_literal,
          commits_first notBefore]
        simp
      · -- all is taken, and the literal is still to come
        rw [only.taken_nowhere ofText somewhere, List.drop_length, commits_nil]
        exact iff_of_false (by simp) (not_commits_first somewhere)
    | param _ | wildcard =>
      obtain ⟨front, last, split⟩ := exists_last (List.cons_ne_nil x path)
      rw [split, only.taken_single trivial, List.drop_left, commits_single, commits_allButLast]
      all_goals trivial
    | multi =>
      -- all is taken, and the walk settles on the second `**` if the pattern ends with it
      rw [only.taken_multi, List.drop_length, commits_nil, commits_multi_multi]
      simp

/-- A walk along the branch serves the paths that the pattern commits to. -/
theorem serves_iff (branch : Branch method p t) (wellFormed : ∀ s ∈ p, s.WellFormed)
    (path : List String) : t.Serves method path ↔ Commits p path := by
  induction branch generalizing path with
  | tip noChild held =>
    cases path with
    | nil => exact (Branch.tip noChild held).serves_nil wellFormed
    | cons x path =>
      exact iff_of_false (Tree.not_serves_of_stuck (Tree.move?_of_no_child? noChild)) (nomatch ·)
  | @grow s rest t child unheld only below ih =>
    obtain ⟨ofHead, ofRest⟩ := List.forall_mem_cons.1 wellFormed
    have follows := ih ofRest
    cases path with
    | nil => exact (Branch.grow unheld only below).serves_nil wellFormed
    | cons x path =>
      cases s with
      | literal text =>
        rw [commits_literal]
        by_cases same : text = x
        · have moved := (only.move?_literal ofHead x path).trans (if_pos same)
          rw [Tree.serves_of_move? moved, follows]
          simp [same]
        · have stuck := (only.move?_literal ofHead x path).trans (if_neg same)
          exact iff_of_false (Tree.not_serves_of_stuck stuck) fun commits => same commits.1.symm
      | param _ | wildcard =>
        rw [Tree.serves_of_move? (only.move?_single trivial), follows, commits_single]
        trivial
      | multi =>
        rw [Tree.serves_of_move? only.move?_multi]
        exact below.serves_behind_multi ofRest follows x path

end Branch

/-! ## The tree of one endpoint -/

/-- A registration in a node without anything makes a branch. -/
theorem branch_register (e : Endpoint) (p : List Segment) {t : Tree}
    (noChild : ∀ key, t.child? key = none) (unheld : t.endpointsFor e.method = []) :
    Branch e.method p (Tree.register e p t) := by
  induction p generalizing t with
  | nil =>
    refine .tip (fun key => ?_) ?_
    · rw [Tree.register, Tree.child?_addEndpoint]
      exact noChild key
    · rw [Tree.register, Tree.endpointsFor_addEndpoint, if_pos rfl, unheld]
      exact List.cons_ne_nil e []
  | cons s rest ih =>
    have only : (Tree.register e (s :: rest) t).Only s
        (Tree.register e rest (((t.child? s.key).getD .empty).bind s)) := by
      intro key
      rw [Tree.child?_register, noChild key]
    refine .grow ?_ only ?_
    · rw [Tree.register, Tree.endpointsFor_setChild]
      exact unheld
    · -- the child is made now, so there is nothing in it but a name
      rw [noChild s.key, Option.getD_none]
      refine ih (fun key => ?_) ?_
      · rw [Tree.child?_bind]
        rfl
      · rw [Tree.endpointsFor_bind]
        rfl

theorem branch_ofList (e : Endpoint) :
    Branch e.method e.request.pattern.segments (Tree.ofList [e]) :=
  branch_register e e.request.pattern.segments (fun _ => rfl) rfl

end Route

namespace Registry

open Route

variable {es : List Endpoint} {r : Http.Request}

/-- Some endpoint serves the request. -/
def Matches (g : Registry) (r : Http.Request) : Prop := ∃ found, g.findMatch r = .ok found

/-- Without further conditions, the walk decides. -/
theorem matches_iff_serves (allOpen : ∀ e ∈ es, e.request.IsOpen) :
    (ofList es).Matches r ↔ (ofList es).root.Serves r.method (splitPath r.path) := by
  constructor
  · rintro ⟨found, matched⟩
    obtain ⟨arrival, arrived, chosen⟩ := choose_of_matched matched
    obtain ⟨nothingLeft, rfl⟩ := Tree.walk_eq_ok arrived
    refine ⟨nothingLeft, fun unserved => ?_⟩
    rw [unserved] at chosen
    cases chosen
  · rintro ⟨nothingLeft, served⟩
    have arrived := Tree.walk_eq r.method (ofList es).root (splitPath r.path)
    rw [if_pos nothingLeft] at arrived
    obtain ⟨keys, _, held, _⟩ := endpointsFor_arrival arrived
    have allMeet : ∀ e ∈ (((ofList es).root.stop (splitPath r.path)).settle r.method).endpointsFor
        r.method, e.request.Meets r := by
      intro e inNode
      rw [held, mem_candidates] at inNode
      exact (allOpen e inNode.1).meets r
    obtain ⟨e, chosen⟩ := choose_of_allMeet allMeet served
    exact ⟨⟨e, _⟩, findMatch_eq_ok_iff.2 ⟨_, arrived, chosen, rfl⟩⟩

variable {e : Endpoint}

theorem matches_iff_commits (isOpen : e.request.IsOpen) (ofMethod : r.method = e.method) :
    (ofList [e]).Matches r ↔ Commits e.request.pattern.segments (splitPath r.path) := by
  have allOpen : ∀ x ∈ [e], x.request.IsOpen := fun x inList => List.mem_singleton.1 inList ▸ isOpen
  rw [matches_iff_serves allOpen, ofMethod]
  exact (branch_ofList e).serves_iff e.request.pattern.wellFormed _

/-- A lost path is that of a request which the endpoint does not serve, unless it is the single empty
segment. -/
theorem exists_unserved (isOpen : e.request.IsOpen) {path : List String}
    (lost : Lost e.request.pattern.segments path) (notBlank : path ≠ [""]) :
    ∃ r : Http.Request, r.method = e.method ∧ splitPath r.path = path ∧ ¬ (ofList [e]).Matches r := by
  have readBack : splitPath (joinPath path) = path := splitPath_joinPath lost.noSlash notBlank
  refine ⟨.plain e.method (joinPath path), rfl, readBack, ?_⟩
  rw [matches_iff_commits isOpen rfl]
  exact fun commits => lost.missed (readBack ▸ commits)

/-- Of the paths that `//**/**` accepts, only the single empty segment leaves nothing for the first `**`. -/
theorem commits_of_accepts_blank {path : List String} (notBlank : path ≠ [""])
    (accepted : Accepts [.literal "", .multi, .multi] path) :
    Commits [.literal "", .multi, .multi] path := by
  obtain ⟨tail, rfl, _⟩ := accepts_literal.1 accepted
  have someLeft : tail ≠ [] := fun isEmpty => notBlank (congrArg ("" :: ·) isEmpty)
  exact .literal "" (commits_multi_multi.2 ⟨rfl, someLeft⟩)

/-- An endpoint alone, with no condition beside method and path, serves those paths that its pattern
commits to; they are among those that it accepts, and there are none if something stands behind two `**`.
It serves all that its pattern accepts exactly if the pattern is lossless, or is `//**/**`. -/
theorem findMatch_alone (e : Endpoint) (isOpen : e.request.IsOpen) :
    (∀ r : Http.Request, r.method = e.method →
      ((ofList [e]).Matches r ↔ Commits e.request.pattern.segments (splitPath r.path))) ∧
    (∀ r : Http.Request, r.method = e.method → (ofList [e]).Matches r →
      e.request.pattern.Accepts (splitPath r.path)) ∧
    (∀ front back, e.request.pattern.segments = front ++ .multi :: .multi :: back → back ≠ [] →
      ∀ r : Http.Request, r.method = e.method → ¬ (ofList [e]).Matches r) ∧
    ((∀ r : Http.Request, r.method = e.method →
      ((ofList [e]).Matches r ↔ e.request.pattern.Accepts (splitPath r.path))) ↔
        Lossless e.request.pattern.segments ∨
          e.request.pattern.segments = [.literal "", .multi, .multi]) := by
  have served (r : Http.Request) (ofMethod : r.method = e.method) :
      (ofList [e]).Matches r ↔ Commits e.request.pattern.segments (splitPath r.path) :=
    matches_iff_commits isOpen ofMethod
  have sound (r : Http.Request) (ofMethod : r.method = e.method) (matched : (ofList [e]).Matches r) :
      e.request.pattern.Accepts (splitPath r.path) := ((served r ofMethod).1 matched).accepts
  refine ⟨served, sound, fun front back split more r ofMethod matched => ?_, fun servesAll => ?_, ?_⟩
  · have commits := (served r ofMethod).1 matched
    rw [split] at commits
    exact more commits.eq_nil_behind_doubled
  · by_cases lossless : Lossless e.request.pattern.segments
    · exact .inl lossless
    · obtain ⟨path, lost⟩ := exists_lost _ e.request.pattern.wellFormed lossless
      by_cases isBlank : path = [""]
      · exact .inr (lost.blank isBlank)
      · obtain ⟨r, ofMethod, atPath, unserved⟩ := exists_unserved isOpen lost isBlank
        exact absurd ((servesAll r ofMethod).2 (atPath ▸ lost.accepted)) unserved
  · intro losesNone r ofMethod
    refine ⟨sound r ofMethod, fun accepted => (served r ofMethod).2 ?_⟩
    rcases losesNone with lossless | isBlank
    · exact lossless.commits accepted
    · rw [Pattern.Accepts, isBlank] at accepted
      rw [isBlank]
      exact commits_of_accepts_blank (splitPath_ne_blank r.path) accepted

/-- The pattern `/all/**/**`. -/
def belowAll : Pattern :=
  ⟨[.literal "all", .multi, .multi], by simp [Segment.WellFormed, Segment.isBrace]⟩

/-- With two `**` at its end a pattern serves what is below, and not the place itself. -/
theorem findMatch_alone_doubled :
    (Endpoint.plain "below" "GET" belowAll).request.IsOpen ∧
      (ofList [.plain "below" "GET" belowAll]).Matches (.plain "GET" "/all/x/y") ∧
      ¬ (ofList [.plain "below" "GET" belowAll]).Matches (.plain "GET" "/all") ∧
      belowAll.Accepts (splitPath "/all") := by
  obtain ⟨served, _⟩ := findMatch_alone (.plain "below" "GET" belowAll) Endpoint.plain_isOpen
  refine ⟨Endpoint.plain_isOpen, (served _ rfl).2 (.literal "all" (.doubled "x" ["y"])), fun matched => ?_,
    .literal "all" (.multi [] (.multi [] .done))⟩
  have commits : Commits [.literal "all", .multi, .multi] ["all"] := (served _ rfl).1 matched
  rw [commits_literal, commits_multi_multi] at commits
  exact commits.2.2 rfl

/-- The pattern `/**/foo`. -/
def anyFoo : Pattern :=
  ⟨[.multi, .literal "foo"], by simp [Segment.WellFormed, Segment.isBrace]⟩

/-- The pattern `/**/**`. -/
def doubled : Pattern := ⟨[.multi, .multi], by simp [Segment.WellFormed]⟩

/-- `/**/foo` accepts `/foo/foo` and does not serve it, because `**` ends before the first `foo`; nor
does `/**/**` serve the bare slash. -/
theorem findMatch_alone_misses :
    Pattern.parse "/**/foo" = .ok anyFoo ∧ Pattern.parse "/**/**" = .ok doubled ∧
      ¬ ((ofList [.plain "foo" "GET" anyFoo]).Matches (.plain "GET" "/foo/foo") ↔
        anyFoo.Accepts (splitPath "/foo/foo")) ∧
      ¬ ((ofList [.plain "any" "GET" doubled]).Matches (.plain "GET" "/") ↔
        doubled.Accepts (splitPath "/")) := by
  have lostFoo : (ofList [.plain "foo" "GET" anyFoo]).findMatch (.plain "GET" "/foo/foo") =
      .error (.path "/foo/foo" "foo") := by cbv
  have lostAny : (ofList [.plain "any" "GET" doubled]).findMatch (.plain "GET" "/") =
      .error (.method "/" "GET") := by cbv
  have acceptsFoo : anyFoo.Accepts (splitPath "/foo/foo") :=
    .multi ["foo"] (.literal "foo" .done)
  have acceptsAny : doubled.Accepts (splitPath "/") := .multi [] (.multi [] .done)
  refine ⟨rfl, rfl, ?_, ?_⟩
  · intro serves
    obtain ⟨found, matched⟩ := serves.2 acceptsFoo
    cases lostFoo.symm.trans matched
  · intro serves
    obtain ⟨found, matched⟩ := serves.2 acceptsAny
    cases lostAny.symm.trans matched

end Registry

end StubServer
