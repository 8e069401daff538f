import StubServer.Proofs.Route.Captures

/-! # Where captured values come from

Each move of a walk takes up a run of segments, one behind the other, and so each segment of a path that
is walked to its end is taken up by exactly one move.  A name is captured exactly if some place of the way
is named so, by whichever endpoint goes along there, and its value is the segment that is taken up at the
last such place (`captured_iff`).  This place is on a `*`: what a literal or `**` takes up is the value of no
name.
-/

namespace StubServer

namespace Route

namespace Tree

variable {t : Tree} {path : List String} {m : Move} {s : String} {i k l : Nat}

/-- The number of segments that a walk has passed before its move at place `k`. -/
def passedBefore (t : Tree) (path : List String) (k : Nat) : Nat :=
  (((t.trail path).take k).flatMap (·.passed)).length

/-- The move at place `k` of a walk takes up the segment at place `i` of the path. -/
structure TakesUp (t : Tree) (path : List String) (k i : Nat) : Prop where
  notBefore : t.passedBefore path k ≤ i
  notBehind : i < t.passedBefore path (k + 1)

theorem passedBefore_mono (le : k ≤ l) : t.passedBefore path k ≤ t.passedBefore path l := by
  obtain ⟨more, split⟩ : (t.trail path).take k <+: (t.trail path).take l :=
    List.take_prefix_take_left le
  rw [passedBefore, passedBefore, ← split, List.flatMap_append, List.length_append]
  exact Nat.le_add_right ..

theorem passedBefore_succ (isMove : (t.trail path)[k]? = some m) :
    t.passedBefore path (k + 1) = t.passedBefore path k + m.passed.length := by
  rw [passedBefore, List.take_add_one, isMove, List.flatMap_append, List.length_append]
  simp [passedBefore]

theorem passedBefore_length (t : Tree) (path : List String) :
    t.passedBefore path (t.trail path).length = (t.walked path).length := by
  rw [passedBefore, List.take_length, walked]

/-- No segment is taken up twice. -/
theorem TakesUp.unique (first : t.TakesUp path k i) (second : t.TakesUp path l i) : k = l := by
  obtain ⟨notBefore, notBehind⟩ := first
  obtain ⟨notBefore', notBehind'⟩ := second
  rcases Nat.lt_trichotomy k l with earlier | same | later
  · have counted : t.passedBefore path (k + 1) ≤ t.passedBefore path l := passedBefore_mono earlier
    omega
  · exact same
  · have counted : t.passedBefore path (l + 1) ≤ t.passedBefore path k := passedBefore_mono later
    omega

/-- Every segment that is passed is taken up by a move. -/
theorem exists_takesUp (isPassed : i < (t.walked path).length) : ∃ k, t.TakesUp path k i := by
  classical
  have reached : ∃ k, i < t.passedBefore path k := ⟨_, passedBefore_length t path ▸ isPassed⟩
  -- the first count that goes beyond `i` is not the one at the root, which is zero
  cases first : Nat.find reached with
  | zero =>
    have := Nat.find_spec reached
    rw [first] at this
    simp [passedBefore] at this
  | succ k =>
    refine ⟨k, not_lt.1 (Nat.find_min reached (by omega)), ?_⟩
    rw [← first]
    exact Nat.find_spec reached

theorem takesUp_iff_of_one (isMove : (t.trail path)[k]? = some m) (one : m.passed = [s]) :
    t.TakesUp path k i ↔ i = t.passedBefore path k := by
  have next := passedBefore_succ isMove
  rw [one, List.length_singleton] at next
  constructor
  · rintro ⟨notBefore, notBehind⟩
    omega
  · rintro rfl
    exact ⟨le_rfl, by omega⟩

theorem getElem?_passedBefore (isMove : (t.trail path)[k]? = some m) (one : m.passed = [s]) :
    path[t.passedBefore path k]? = some s := by
  obtain ⟨inTrail, isKth⟩ := List.getElem?_eq_some_iff.1 isMove
  have walked : t.walked path = ((t.trail path).take k).flatMap (·.passed) ++
      (s :: ((t.trail path).drop (k + 1)).flatMap (·.passed)) := by
    rw [Tree.walked]
    conv => lhs; rw [← List.take_append_drop k (t.trail path), List.drop_eq_getElem_cons inTrail, isKth]
    rw [List.flatMap_append, List.flatMap_cons, one, List.singleton_append]
  have whole := walked_append_unwalked t path
  rw [walked, List.append_assoc, List.cons_append] at whole
  have isNext := congrArg (·[t.passedBefore path k]?) whole.symm
  rwa [passedBefore, List.getElem?_append_right le_rfl, Nat.sub_self] at isNext

end Tree

/-- A name has its value from the segment at place `i` of the path: the move to the deepest `*` that is
named so takes it up. -/
def CapturedFrom (es : List Endpoint) (path : List String) (name : String) (i : Nat) : Prop :=
  ∃ k, LastNamed es ((Tree.ofList es).wayKeys path) name k ∧ (Tree.ofList es).TakesUp path k i

section Origins

variable {es : List Endpoint} {path : List String} {name : String} {k : Nat}

theorem LastNamed.unique {keys : List String} {l : Nat} (first : LastNamed es keys name k)
    (second : LastNamed es keys name l) : k = l := by
  rcases Nat.lt_trichotomy k l with before | same | behind
  · exact absurd second.named (first.last l before)
  · exact same
  · exact absurd first.named (second.last k behind)

/-- A name that is given to some place of the way is captured from one segment of the path. -/
theorem exists_capturedFrom (named : NamedAt es ((Tree.ofList es).wayKeys path) name k) :
    ∃ i s, CapturedFrom es path name i ∧ path[i]? = some s ∧
      Table.get? (((Tree.ofList es).trail path).foldl Move.capture []) name = some s := by
  obtain ⟨l, _, last⟩ := named.exists_last
  obtain ⟨m, s, isMove, one, isValue⟩ := get?_captures_of_lastNamed last
  refine ⟨(Tree.ofList es).passedBefore path l, s, ⟨l, last, ?_⟩, ?_, isValue⟩
  · exact (Tree.takesUp_iff_of_one isMove one).2 rfl
  · exact Tree.getElem?_passedBefore isMove one

theorem CapturedFrom.unique {i j : Nat} (first : CapturedFrom es path name i)
    (second : CapturedFrom es path name j) : i = j := by
  obtain ⟨k, last, takesUp⟩ := first
  obtain ⟨l, last', takesUp'⟩ := second
  cases last.unique last'
  obtain ⟨m, s, isMove, one, _⟩ := get?_captures_of_lastNamed last
  rw [Tree.takesUp_iff_of_one isMove one] at takesUp takesUp'
  rw [takesUp, takesUp']

theorem isSome_captures_iff :
    (Table.get? (((Tree.ofList es).trail path).foldl Move.capture []) name).isSome ↔
      ∃ k, NamedAt es ((Tree.ofList es).wayKeys path) name k := by
  constructor
  · intro isCaptured
    by_contra unnamed
    rw [get?_captures_of_unbound] at isCaptured
    · cases isCaptured
    · intro m inTrail binds
      obtain ⟨k, isMove⟩ := List.getElem?_of_mem inTrail
      exact unnamed ⟨k, (binds_iff_namedAt isMove).1 binds⟩
  · rintro ⟨k, named⟩
    obtain ⟨_, s, _, _, isValue⟩ := exists_capturedFrom named
    exact Option.isSome_iff_exists.2 ⟨s, isValue⟩

theorem get?_captures_iff {s : String} :
    Table.get? (((Tree.ofList es).trail path).foldl Move.capture []) name = some s ↔
      ∃ i, CapturedFrom es path name i ∧ path[i]? = some s := by
  constructor
  · intro isValue
    obtain ⟨k, named⟩ := isSome_captures_iff.1 (Option.isSome_iff_exists.2 ⟨s, isValue⟩)
    obtain ⟨i, _, origin, isSegment, isValue'⟩ := exists_capturedFrom named
    cases isValue.symm.trans isValue'
    exact ⟨i, origin, isSegment⟩
  · rintro ⟨i, origin, isSegment⟩
    obtain ⟨k, last, _⟩ := id origin
    obtain ⟨j, _, origin', isSegment', isValue⟩ := exists_capturedFrom last.named
    cases origin.unique origin'
    cases isSegment.symm.trans isSegment'
    exact isValue

/-- What a literal or `**` takes up is the value of no name. -/
theorem not_capturedFrom {i : Nat} (takesUp : (Tree.ofList es).TakesUp path k i)
    (notWildcard : ((Tree.ofList es).wayKeys path)[k]? ≠ some wildcardKey) :
    ¬ CapturedFrom es path name i := by
  rintro ⟨l, last, takesUp'⟩
  cases takesUp.unique takesUp'
  exact notWildcard last.named.key

end Origins

end Route

namespace Registry

open Route

/-- When a request is matched, each segment of its path has been taken up by exactly one move of the walk.  A
name is captured exactly if an endpoint that goes along with the walk as far as one of its `*` names the
segment there so; its value is the segment that is taken up at the deepest such `*`; and no value comes from a
segment that a literal or `**` takes up. -/
theorem captured_iff (es : List Endpoint) (r : Http.Request) {found : Matched}
    (matched : (ofList es).findMatch r = .ok found) :
    (∀ i < (splitPath r.path).length, ∃! k, (Tree.ofList es).TakesUp (splitPath r.path) k i) ∧
    (∀ name, (Table.get? found.params name).isSome ↔
      ∃ k, NamedAt es ((Tree.ofList es).wayKeys (splitPath r.path)) name k) ∧
    (∀ name s, Table.get? found.params name = some s ↔
      ∃ i, CapturedFrom es (splitPath r.path) name i ∧ (splitPath r.path)[i]? = some s) ∧
    ∀ k i, (Tree.ofList es).TakesUp (splitPath r.path) k i →
      ((Tree.ofList es).wayKeys (splitPath r.path))[k]? ≠ some wildcardKey →
      ∀ name, ¬ CapturedFrom es (splitPath r.path) name i := by
  obtain ⟨nothingLeft, captured⟩ := params_of_matched matched
  have all := Tree.walked_append_unwalked (Tree.ofList es) (splitPath r.path)
  rw [nothingLeft, List.append_nil] at all
  rw [captured]
  refine ⟨fun i inPath => ?_, fun name => isSome_captures_iff, fun name s => get?_captures_iff,
    fun k i takesUp notWildcard name => not_capturedFrom takesUp notWildcard⟩
  rw [← all] at inPath
  obtain ⟨k, takesUp⟩ := Tree.exists_takesUp inPath
  exact ⟨k, takesUp, fun l takesUp' => takesUp'.unique takesUp⟩

/-- The endpoint `GET /{dir}/**/by/{name}`. -/
def byAuthor : Endpoint :=
  .plain "by-author" "GET" ⟨[.param "dir", .multi, .literal "by", .param "author"],
    by simp [Segment.WellFormed, Segment.isBrace]⟩

/-- The endpoint `DELETE /{dir}/**/by/{dir}`. -/
def byDir : Endpoint :=
  .plain "by-dir" "DELETE" ⟨[.param "dir", .multi, .literal "by", .param "dir"],
    by simp [Segment.WellFormed, Segment.isBrace]⟩

/-- The name of the directory is given again behind `**`, by an endpoint of another method.  So its value is
the last segment, and what `**` and the literal have taken up is captured under no name. -/
theorem captured_iff_behind_multi :
    ∃ found, (ofList [byAuthor, byDir]).findMatch (.plain "GET" "/a/b/c/by/d") = .ok found ∧
      found.endpoint = byAuthor ∧ Table.get? found.params "dir" = some "d" ∧
      CapturedFrom [byAuthor, byDir] (splitPath "/a/b/c/by/d") "dir" 4 ∧
      ∀ i ∈ [1, 2, 3], ∀ name, ¬ CapturedFrom [byAuthor, byDir] (splitPath "/a/b/c/by/d") name i := by
  have matched : (ofList [byAuthor, byDir]).findMatch (.plain "GET" "/a/b/c/by/d") =
      .ok ⟨byAuthor, [("author", "d"), ("dir", "d")]⟩ := by cbv
  obtain ⟨_, _, values, others⟩ := captured_iff _ _ matched
  dsimp only [Http.Request.plain] at values others
  have isPath : splitPath "/a/b/c/by/d" = ["a", "b", "c", "by", "d"] := by cbv
  have keys : (Tree.ofList [byAuthor, byDir]).wayKeys ["a", "b", "c", "by", "d"] =
      ["*", "**", "by", "*"] := by cbv
  obtain ⟨one, two, three⟩ : (Tree.ofList [byAuthor, byDir]).passedBefore ["a", "b", "c", "by", "d"] 1 = 1 ∧
      (Tree.ofList [byAuthor, byDir]).passedBefore ["a", "b", "c", "by", "d"] 2 = 3 ∧
      (Tree.ofList [byAuthor, byDir]).passedBefore ["a", "b", "c", "by", "d"] 3 = 4 := by cbv
  rw [isPath] at values others ⊢
  generalize Tree.ofList [byAuthor, byDir] = t at others keys one two three
  refine ⟨_, matched, rfl, by decide, ?_, fun i inRun => ?_⟩
  · obtain ⟨i, origin, isSegment⟩ := (values "dir" "d").1 (by decide)
    -- only the last segment has this text
    suffices i = 4 from this ▸ origin
    rcases i with _ | _ | _ | _ | _ | i <;> simp at isSegment ⊢
  · obtain ⟨k, takesUp, notWildcard⟩ : ∃ k, t.TakesUp ["a", "b", "c", "by", "d"] k i ∧
        (t.wayKeys ["a", "b", "c", "by", "d"])[k]? ≠ some wildcardKey := by
      simp only [List.mem_cons, List.not_mem_nil, or_false] at inRun
      rcases inRun with rfl | rfl | rfl
      · exact ⟨1, ⟨by simp [one], by simp [two]⟩, by rw [keys]; decide⟩
      · exact ⟨1, ⟨by simp [one], by simp [two]⟩, by rw [keys]; decide⟩
      · exact ⟨2, ⟨by simp [two], by simp [three]⟩, by rw [keys]; decide⟩
    exact others k i takesUp notWildcard

end Registry

end StubServer
