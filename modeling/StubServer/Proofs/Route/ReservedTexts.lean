import Mathlib.Data.List.Forall2
import StubServer.Proofs.Route.LoadOrder
import StubServer.Proofs.Route.PathText

/-! # Reserved texts in requests

A tree keeps `*` and `**` among the literals, under keys of their own, and a request may well hold a segment
with the text of such a key.  No walk follows it there: at every node it is as good as a text that no pattern
has (`confuses_of_replaced`).  So a walk makes the same moves when reserved texts are replaced by such ones
(`trail_alike`), and the outcome of matching is the same, with the other texts in the captures and in the
matched beginning (`findMatch_replaced`).
-/

namespace StubServer

namespace Route

open Relator

/-- The text is the key of `*` or of `**`. -/
def IsReserved (s : String) : Prop := s = wildcardKey ∨ s = multiKey

instance : DecidablePred IsReserved := fun _ => inferInstanceAs (Decidable (_ ∨ _))

/-- No listed pattern has the text as a literal. -/
def Foreign (es : List Endpoint) (s : String) : Prop :=
  ∀ e ∈ es, Segment.literal s ∉ e.request.pattern.segments

/-- A reserved text gives way to another segment that is foreign to the patterns, and all else stays. -/
inductive Replaced (es : List Endpoint) : String → String → Prop
  | kept {s : String} (notReserved : ¬ IsReserved s) : Replaced es s s
  | reserved {s s' : String} (isReserved : IsReserved s) (notEmpty : s' ≠ "") (noSlash : '/' ∉ s'.toList)
      (foreign : Foreign es s') : Replaced es s s'

/-- The same names, with related values. -/
abbrev RelatedCaptures (R : String → String → Prop) : Captures → Captures → Prop :=
  List.Forall₂ fun row row' => row'.1 = row.1 ∧ R row.2 row'.2

variable {R : String → String → Prop} {t : Tree} {s s' : String} {rest rest' path path' : List String}

/-! ## Captures -/

theorem RelatedCaptures.insert {params params' : Captures} (related : RelatedCaptures R params params')
    (name : String) (value : R s s') :
    RelatedCaptures R (Table.insert params name s) (Table.insert params' name s') := by
  induction related with
  | nil => exact .cons ⟨rfl, value⟩ .nil
  | @cons row row' rows rows' same later ih =>
    obtain ⟨key, old⟩ := row
    obtain ⟨key', old'⟩ := row'
    obtain ⟨rfl, ofOld⟩ := same
    simp only [Table.insert]
    split
    · exact .cons ⟨rfl, value⟩ later
    · split
      · exact .cons ⟨rfl, value⟩ (.cons ⟨rfl, ofOld⟩ later)
      · exact .cons ⟨rfl, ofOld⟩ ih

theorem RelatedCaptures.bindAll {params params' : Captures} (related : RelatedCaptures R params params')
    (names : List String) (value : R s s') :
    RelatedCaptures R (params.bindAll names s) (params'.bindAll names s') := by
  induction names generalizing params params' with
  | nil => exact related
  | cons name others ih => exact ih (related.insert name value)

/-! ## Texts that a tree does not tell apart -/

namespace Tree

/-- The two texts are the same, or there is no literal branch for either of them at any node. -/
def Confuses (t : Tree) (s s' : String) : Prop :=
  s' = s ∨ ∀ keys place, t.nodeAt? keys = some place →
    place.literalChild? s = none ∧ place.literalChild? s' = none

theorem Confuses.child {child : Tree} {key : String} (found : t.child? key = some child)
    (confuses : t.Confuses s s') : child.Confuses s s' := by
  refine confuses.imp_right fun nowhere keys place below => nowhere (key :: keys) place ?_
  rw [nodeAt?_of_child? found]
  exact below

theorem Confuses.literalChild?_eq (confuses : t.Confuses s s') :
    t.literalChild? s' = t.literalChild? s := by
  rcases confuses with rfl | nowhere
  · rfl
  · rw [(nowhere [] t rfl).1, (nowhere [] t rfl).2]

theorem Confuses.eq_of_literalChild? {child : Tree} (confuses : t.Confuses s s')
    (found : t.literalChild? s = some child) : s' = s := by
  rcases confuses with same | nowhere
  · exact same
  · cases (nowhere [] t rfl).1.symm.trans found

/-- A tree does not tell related texts apart. -/
def Blind (t : Tree) (R : String → String → Prop) : Prop := ∀ s s', R s s' → t.Confuses s s'

theorem Blind.child {child : Tree} {key : String} (blind : t.Blind R)
    (found : t.child? key = some child) : child.Blind R :=
  fun s s' related => (blind s s' related).child found

theorem taken_eq_of_blind (blind : t.Blind R) (related : List.Forall₂ R path path') :
    t.taken path' = t.taken path := by
  have first : path'.findIdx? (fun s => (t.literalChild? s).isSome) =
      path.findIdx? fun s => (t.literalChild? s).isSome := by
    induction related with
    | nil => rfl
    | cons same _ ih => rw [List.findIdx?_cons, List.findIdx?_cons, (blind _ _ same).literalChild?_eq, ih]
  simp only [taken, first, related.length_eq]

end Tree

/-! ## Walks -/

/-- Moves along the same branch, which pass and leave related segments. -/
structure RelatedMoves (R : String → String → Prop) (m m' : Move) : Prop where
  key : m'.key = m.key
  node : m'.node = m.node
  passed : List.Forall₂ R m.passed m'.passed
  rest : List.Forall₂ R m.rest m'.rest

theorem RelatedMoves.capture {m m' : Move} (moves : RelatedMoves R m m') {params params' : Captures}
    (related : RelatedCaptures R params params') :
    RelatedCaptures R (m.capture params) (m'.capture params') := by
  unfold Move.capture
  rw [moves.key, moves.node]
  split
  · have bound : ((RelatedCaptures R) ⇒ R ⇒ RelatedCaptures R)
        (fun params s => params.bindAll m.node.names s) fun params s => params.bindAll m.node.names s :=
      fun _ _ related _ _ value => related.bindAll m.node.names value
    exact List.rel_foldl bound related moves.passed
  · exact related

namespace Tree

theorem move?_alike (blind : t.Blind R) (first : R s s') (others : List.Forall₂ R rest rest') :
    Option.Rel (RelatedMoves R) (t.move? s rest) (t.move? s' rest') := by
  have whole : List.Forall₂ R (s :: rest) (s' :: rest') := .cons first others
  unfold move?
  rw [(blind s s' first).literalChild?_eq]
  cases byLiteral : t.literalChild? s with
  | some child => exact .some ⟨(blind s s' first).eq_of_literalChild? byLiteral, rfl, .cons first .nil, others⟩
  | none =>
    cases t.wildcardChild? with
    | some child => exact .some ⟨rfl, rfl, .cons first .nil, others⟩
    | none =>
      cases byMulti : t.multiChild? with
      | some child =>
        dsimp only
        rw [taken_eq_of_blind (blind.child byMulti) whole]
        exact .some ⟨rfl, rfl, List.forall₂_take _ whole, List.forall₂_drop _ whole⟩
      | none => exact .none

/-- Paths that a tree does not tell apart are walked by the same moves. -/
theorem trail_alike (blind : t.Blind R) (related : List.Forall₂ R path path') :
    List.Forall₂ (RelatedMoves R) (t.trail path) (t.trail path') := by
  induction t, path using trail_induction generalizing path' with
  | arrived t =>
    cases related
    rw [trail_nil]
    exact .nil
  | stuck t s rest noMove =>
    cases related with
    | cons first others =>
      rcases none_or_some (move?_alike blind first others) with ⟨_, noMove'⟩ | ⟨m, _, isMove, _⟩
      · rw [trail_of_stuck noMove, trail_of_stuck noMove']
        exact .nil
      · cases noMove.symm.trans isMove
  | moved t s rest m isMove ih =>
    cases related with
    | cons first others =>
      rcases none_or_some (move?_alike blind first others) with ⟨noMove, _⟩ | ⟨_, m', same, isMove', moves⟩
      · cases noMove.symm.trans isMove
      · cases same.symm.trans isMove
        rw [trail_of_move? isMove, trail_of_move? isMove']
        refine .cons moves ?_
        rw [moves.node]
        exact ih (blind.child (move?_child? isMove)) moves.rest

end Tree

/-- What comes of walks along related paths: both are lost behind as many segments, or both arrive at
one node with related captures. -/
inductive RelatedEnds (R : String → String → Prop) (path path' : List String) :
    Except (List String) Arrival → Except (List String) Arrival → Prop
  | lost (k : Nat) : RelatedEnds R path path' (.error (path.take k)) (.error (path'.take k))
  | arrived (place : Tree) {params params' : Captures} (related : RelatedCaptures R params params') :
      RelatedEnds R path path' (.ok ⟨place, params⟩) (.ok ⟨place, params'⟩)

namespace Tree

theorem walked_eq_take (t : Tree) (path : List String) :
    t.walked path = path.take (t.walked path).length := by
  have whole := walked_append_unwalked t path
  exact List.prefix_iff_eq_take.1 ⟨_, whole⟩

theorem walk_alike (blind : t.Blind R) (method : String) (related : List.Forall₂ R path path') :
    RelatedEnds R path path' (t.walk method path) (t.walk method path') := by
  have trails := trail_alike blind related
  have sameStop : t.stop path = t.stop path' := by
    have goes : (Eq ⇒ RelatedMoves R ⇒ Eq) (fun (_ : Tree) (m : Move) => m.node) fun _ m => m.node :=
      fun _ _ _ _ _ moves => moves.node.symm
    exact List.rel_foldl goes rfl trails
  have left : List.Forall₂ R (t.unwalked path) (t.unwalked path') := by
    have goes : (List.Forall₂ R ⇒ RelatedMoves R ⇒ List.Forall₂ R)
        (fun (_ : List String) (m : Move) => m.rest) fun _ m => m.rest :=
      fun _ _ _ _ _ moves => moves.rest
    exact List.rel_foldl goes related trails
  have captured : RelatedCaptures R ((t.trail path).foldl Move.capture [])
      ((t.trail path').foldl Move.capture []) := by
    have goes : (RelatedCaptures R ⇒ RelatedMoves R ⇒ RelatedCaptures R) Move.capture Move.capture :=
      fun _ _ params _ _ moves => moves.capture params
    exact List.rel_foldl goes .nil trails
  have passed : List.Forall₂ R (t.walked path) (t.walked path') :=
    List.rel_flatMap trails fun _ _ moves => moves.passed
  rw [walk_eq, walk_eq, sameStop]
  by_cases nothingLeft : t.unwalked path = []
  · rw [nothingLeft, List.forall₂_nil_left_iff] at left
    rw [if_pos nothingLeft, if_pos left]
    exact .arrived _ captured
  · have someLeft : t.unwalked path' ≠ [] := by
      intro isNil
      rw [isNil, List.forall₂_nil_right_iff] at left
      exact nothingLeft left
    rw [if_neg nothingLeft, if_neg someLeft, walked_eq_take t path, walked_eq_take t path',
      ← passed.length_eq]
    exact .lost _

end Tree

/-! ## Reserved texts -/

/-- No walk follows a foreign text along a literal branch. -/
theorem literalChild?_of_foreign {es : List Endpoint} (foreign : Foreign es s) {keys : List String}
    {place : Tree} (found : (Tree.ofList es).nodeAt? keys = some place) : place.literalChild? s = none := by
  rw [Tree.literalChild?_eq_none]
  intro notWildcard notMulti
  by_contra isBranch
  obtain ⟨child, isChild⟩ := Option.ne_none_iff_exists'.1 isBranch
  have node : ((Tree.ofList es).nodeAt? (keys ++ [s])).isSome := by
    rw [Tree.nodeAt?_append found, Tree.nodeAt?_of_child? isChild]
    rfl
  rcases (Tree.nodeAt?_ofList es _).1 node with isNil | ⟨e, listed, isFront⟩
  · simp at isNil
  · have inKeys : s ∈ e.keys := isFront.subset (List.mem_append_right _ (List.mem_singleton_self s))
    obtain ⟨segment, inPattern, atKey⟩ := List.mem_map.1 inKeys
    rw [Segment.eq_literal_of_key notWildcard notMulti atKey] at inPattern
    exact foreign e listed inPattern

theorem literalChild?_of_reserved (isReserved : IsReserved s) (place : Tree) :
    place.literalChild? s = none :=
  if_pos isReserved

theorem confuses_of_replaced (es : List Endpoint) : (Tree.ofList es).Blind (Replaced es) := by
  intro s s' replaced
  cases replaced with
  | kept => exact .inl rfl
  | reserved isReserved _ _ foreign =>
    right
    intro keys place found
    exact ⟨literalChild?_of_reserved isReserved place, literalChild?_of_foreign foreign found⟩

theorem noSlash_of_replaced {es : List Endpoint} (replaced : List.Forall₂ (Replaced es) path path')
    (noSlash : ∀ s ∈ path, '/' ∉ s.toList) : ∀ s ∈ path', '/' ∉ s.toList := by
  induction replaced with
  | nil => exact noSlash
  | cons first _ ih =>
    obtain ⟨ofFirst, ofOthers⟩ := List.forall_mem_cons.1 noSlash
    refine List.forall_mem_cons.2 ⟨?_, ih ofOthers⟩
    cases first with
    | kept => exact ofFirst
    | reserved _ _ free _ => exact free

/-- Segments with reserved texts replaced are the segments of a path. -/
theorem splitPath_of_replaced {es : List Endpoint} {text : String} {segments : List String}
    (replaced : List.Forall₂ (Replaced es) (splitPath text) segments) :
    splitPath (joinPath segments) = segments := by
  refine splitPath_joinPath
    (noSlash_of_replaced replaced fun s inPath => slash_notMem_of_mem_splitPath inPath) ?_
  rintro rfl
  -- the single empty segment is put for no reserved one, and is not there by itself
  obtain ⟨s, _, replacedBy, nothing, isPath⟩ := List.forall₂_cons_right_iff.1 replaced
  cases List.forall₂_nil_right_iff.1 nothing
  cases replacedBy with
  | kept => exact splitPath_ne_blank text isPath
  | reserved _ notEmpty _ _ => exact notEmpty rfl

end Route

namespace Registry

open Route

/-- Outcomes of two requests that are the same up to the texts of the segments: the same mismatch, of which
the matched beginning has as many segments, or the same endpoint with related captures. -/
inductive RelatedOutcomes (R : String → String → Prop) (r r' : Http.Request) : Outcome → Outcome → Prop
  | lost (k : Nat) : RelatedOutcomes R r r'
      (.error (.path r.path (String.intercalate "/" ((splitPath r.path).take k))))
      (.error (.path r'.path (String.intercalate "/" ((splitPath r'.path).take k))))
  | unserved : RelatedOutcomes R r r' (.error (.method r.path r.method)) (.error (.method r'.path r.method))
  | rejected (rejections : List Rejection) : RelatedOutcomes R r r'
      (.error (.predicates r.path r.method rejections)) (.error (.predicates r'.path r.method rejections))
  | matched (e : Endpoint) {params params' : Captures} (related : RelatedCaptures R params params') :
      RelatedOutcomes R r r' (.ok ⟨e, params⟩) (.ok ⟨e, params'⟩)

theorem choose_of_path (r : Http.Request) (url path : String) (candidates : List Endpoint) :
    choose { r with url, path } candidates = choose r candidates := by
  induction candidates with
  | nil => rfl
  | cons e rest ih =>
    have sameConditions : failedPredicates e.request { r with url, path } = failedPredicates e.request r :=
      rfl
    simp only [choose, sameConditions, ih]

/-- When each segment of a request that is `*` or `**` is replaced by a text that no listed pattern has as a
literal, the segments still make up a path, and a request for it that agrees otherwise has the same outcome:
the same endpoint, with the replaced texts in place of the reserved ones in what is captured, or the same kind
of mismatch, with the same rejections or behind the same number of segments. -/
theorem findMatch_replaced (es : List Endpoint) (r : Http.Request) {segments : List String}
    (replaced : List.Forall₂ (Replaced es) (splitPath r.path) segments) :
    splitPath (joinPath segments) = segments ∧
    ∀ url path, splitPath path = segments →
      RelatedOutcomes (Replaced es) r { r with url, path } ((ofList es).findMatch r)
        ((ofList es).findMatch { r with url, path }) := by
  refine ⟨splitPath_of_replaced replaced, ?_⟩
  rintro url path rfl
  have ends : RelatedEnds (Replaced es) (splitPath r.path) (splitPath path)
      ((ofList es).root.walk r.method (splitPath r.path))
      ((ofList es).root.walk r.method (splitPath path)) :=
    Tree.walk_alike (confuses_of_replaced es) r.method replaced
  unfold findMatch
  generalize (ofList es).root.walk r.method (splitPath r.path) = walk at ends ⊢
  generalize (ofList es).root.walk r.method (splitPath path) = walk' at ends ⊢
  cases ends with
  | lost k => exact .lost k
  | arrived place related =>
    dsimp only
    cases place.endpointsFor r.method with
    | nil => exact .unserved
    | cons first others =>
      dsimp only
      rw [choose_of_path r url path]
      cases choose r (first :: others) with
      | ok e => exact .matched e related
      | error rejections => exact .rejected rejections

/-- The endpoint `GET /files/**/{name}`. -/
def fileByName : Endpoint :=
  .plain "file" "GET" ⟨[.literal "files", .multi, .param "name"],
    by simp [Segment.WellFormed, Segment.isBrace]⟩

/-- A request with both reserved texts in its path is served like one with plain names in their place, and
captures the text as it stands. -/
theorem findMatch_replaced_captured :
    let es := [fileByName]
    List.Forall₂ (Replaced es) (splitPath "/files/*/**") ["files", "a", "b"] ∧
      ∃ params params', RelatedCaptures (Replaced es) params params' ∧
        (ofList es).findMatch (.plain "GET" "/files/*/**") = .ok ⟨fileByName, params⟩ ∧
        (ofList es).findMatch (.plain "GET" "/files/a/b") = .ok ⟨fileByName, params'⟩ ∧
        params = [("name", "**")] ∧ params' = [("name", "b")] := by
  intro es
  have foreign : ∀ s ∈ ["a", "b"], Foreign es s := by
    simp [es, Foreign, fileByName, Endpoint.plain]
  have isPath : splitPath "/files/*/**" = ["files", "*", "**"] := by cbv
  have replaced : List.Forall₂ (Replaced es) (splitPath "/files/*/**") ["files", "a", "b"] := by
    rw [isPath]
    exact .cons (.kept (by decide))
      (.cons (.reserved (.inl rfl) (by decide) (by decide) (foreign "a" (by simp)))
        (.cons (.reserved (.inr rfl) (by decide) (by decide) (foreign "b" (by simp))) .nil))
  have matched : (ofList es).findMatch (.plain "GET" "/files/*/**") =
      .ok ⟨fileByName, [("name", "**")]⟩ := by cbv
  have matched' : (ofList es).findMatch (.plain "GET" "/files/a/b") =
      .ok ⟨fileByName, [("name", "b")]⟩ := by cbv
  have outcomes := (findMatch_replaced es (.plain "GET" "/files/*/**") replaced).2 "/files/a/b" "/files/a/b"
    (by cbv)
  change RelatedOutcomes _ _ _ _ ((ofList es).findMatch (.plain "GET" "/files/a/b")) at outcomes
  rw [matched, matched'] at outcomes
  refine ⟨replaced, _, _, ?_, matched, matched', rfl, rfl⟩
  cases outcomes with
  | matched _ related => exact related

end Registry

end StubServer
