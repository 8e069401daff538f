import StubServer.Proofs.Route.Acceptance

/-! # What a pattern commits to

A walk does not go back.  Where `**` ends is settled by what follows it: before a literal at the first
segment equal to it, before a parameter or `*` one segment before the end, and else at the end.  Behind the
end a walk makes one step more, so a pattern may close with two `**` if there is something for the first of
them; two `**` anywhere else are never passed (`Commits.eq_nil_behind_doubled`).  `Commits` is acceptance with
this rule: what a pattern commits to it accepts (`Commits.accepts`).  The converse holds for the patterns of
`Lossless` (`Lossless.commits`) and for no others: `exists_lost` makes a path for each of them that is accepted
and not committed to.
-/

namespace StubServer.Route

/-- A pattern takes up a whole path, and every `**` takes what the rule leaves it. -/
inductive Commits : List Segment → List String → Prop
  | done : Commits [] []
  | literal (text : String) {rest : List Segment} {path : List String} :
      Commits rest path → Commits (.literal text :: rest) (text :: path)
  | single {s : Segment} (x : String) {rest : List Segment} {path : List String} :
      s.IsSingle → Commits rest path → Commits (s :: rest) (x :: path)
  /-- A `**` in the last place takes everything. -/
  | all (run : List String) : Commits [.multi] run
  /-- Before a literal, `**` takes what stands before the first segment equal to it. -/
  | first {text : String} {run path : List String} {rest : List Segment} :
      text ∉ run → Commits rest path → Commits (.multi :: .literal text :: rest) (run ++ text :: path)
  /-- Before a parameter or `*`, it takes all but the last segment. -/
  | allButLast {s : Segment} (run : List String) (x : String) {rest : List Segment} :
      s.IsSingle → Commits rest [] → Commits (.multi :: s :: rest) (run ++ [x])
  /-- Of two `**` in the last places, the first takes everything, and there has to be something. -/
  | doubled (x : String) (run : List String) : Commits [.multi, .multi] (x :: run)

/-- No path is lost by not going back.  Behind a `**` stands nothing; or one parameter or `*`, and
nothing more but a `**`; or a literal, with only parameters and `*` between it and the next `**`. -/
inductive Lossless : List Segment → Prop
  | done : Lossless []
  | literal (text : String) {rest : List Segment} : Lossless rest → Lossless (.literal text :: rest)
  | single {s : Segment} {rest : List Segment} : s.IsSingle → Lossless rest → Lossless (s :: rest)
  | all : Lossless [.multi]
  | allButLast {s : Segment} {rest : List Segment} : s.IsSingle → rest = [] ∨ rest = [.multi] →
      Lossless (.multi :: s :: rest)
  | first (text : String) {singles rest : List Segment} : (∀ s ∈ singles, s.IsSingle) →
      Lossless (.multi :: rest) → Lossless (.multi :: .literal text :: (singles ++ .multi :: rest))

variable {s : Segment} {p rest singles : List Segment} {x text : String} {path run : List String}

theorem Commits.accepts (commits : Commits p path) : Accepts p path := by
  induction commits with
  | done => exact .done
  | literal text _ ih => exact .literal text ih
  | single x isSingle _ ih => exact .single isSingle x ih
  | all run => simpa using Accepts.multi run .done
  | first _ _ ih => exact .multi _ (.literal _ ih)
  | allButLast run x isSingle _ ih => exact .multi run (.single isSingle x ih)
  | doubled x run => simpa using Accepts.multi (x :: run) (.multi [] .done)

/-! ## Reading acceptance and commitment back -/

theorem accepts_multi : Accepts (.multi :: rest) path ↔
    ∃ run tail, path = run ++ tail ∧ Accepts rest tail := by
  constructor
  · intro accepted
    cases accepted with
    | multi run accepted => exact ⟨run, _, rfl, accepted⟩
  · rintro ⟨run, tail, rfl, accepted⟩
    exact .multi run accepted

theorem accepts_literal : Accepts (.literal text :: rest) path ↔
    ∃ tail, path = text :: tail ∧ Accepts rest tail := by
  constructor
  · intro accepted
    cases accepted with
    | literal _ accepted => exact ⟨_, rfl, accepted⟩
  · rintro ⟨tail, rfl, accepted⟩
    exact .literal text accepted

theorem accepts_single (isSingle : s.IsSingle) : Accepts (s :: rest) path ↔
    ∃ x tail, path = x :: tail ∧ Accepts rest tail := by
  constructor
  · intro accepted
    cases accepted with
    | literal _ _ | multi _ _ => exact isSingle.elim
    | param _ x accepted | wildcard x accepted => exact ⟨x, _, rfl, accepted⟩
  · rintro ⟨x, tail, rfl, accepted⟩
    exact .single isSingle x accepted

theorem accepts_singles (allSingle : ∀ s ∈ singles, s.IsSingle) : Accepts (singles ++ rest) path ↔
    ∃ front tail, path = front ++ tail ∧ front.length = singles.length ∧ Accepts rest tail := by
  induction singles generalizing path with
  | nil =>
    constructor
    · intro accepted
      exact ⟨[], path, rfl, rfl, accepted⟩
    · rintro ⟨front, tail, rfl, noFront, accepted⟩
      rw [List.eq_nil_of_length_eq_zero noFront]
      exact accepted
  | cons s singles ih =>
    obtain ⟨isSingle, others⟩ := List.forall_mem_cons.1 allSingle
    rw [List.cons_append, accepts_single isSingle]
    constructor
    · rintro ⟨x, tail, rfl, accepted⟩
      obtain ⟨front, tail, rfl, sameLength, accepted⟩ := (ih others).1 accepted
      exact ⟨x :: front, tail, rfl, by simp [sameLength], accepted⟩
    · rintro ⟨front, tail, rfl, sameLength, accepted⟩
      obtain ⟨x, front, rfl⟩ := List.exists_cons_of_length_eq_add_one sameLength
      have shorter : front.length = singles.length := by simpa using sameLength
      exact ⟨x, front ++ tail, rfl, (ih others).2 ⟨front, tail, rfl, shorter, accepted⟩⟩

theorem commits_nil : Commits p [] ↔ p = [] ∨ p = [.multi] := by
  constructor
  · intro commits
    generalize isEmpty : ([] : List String) = path at commits
    cases commits with
    | done => exact .inl rfl
    | all run => exact .inr rfl
    | literal _ _ | single _ _ _ | doubled _ _ => cases isEmpty
    | first _ _ | allButLast _ _ _ _ => simp at isEmpty
  · rintro (rfl | rfl)
    · exact .done
    · exact .all []

theorem commits_literal : Commits (.literal text :: rest) (x :: path) ↔ x = text ∧ Commits rest path := by
  constructor
  · intro commits
    cases commits with
    | literal _ commits => exact ⟨rfl, commits⟩
    | single _ isSingle _ => exact isSingle.elim
  · rintro ⟨rfl, commits⟩
    exact .literal x commits

theorem commits_single (isSingle : s.IsSingle) :
    Commits (s :: rest) (x :: path) ↔ Commits rest path := by
  constructor
  · intro commits
    generalize whole : x :: path = all at commits
    cases commits with
    | literal _ _ | all _ | first _ _ | allButLast _ _ _ _ | doubled _ _ => exact isSingle.elim
    | single _ _ commits => cases whole; exact commits
  · exact .single x isSingle

theorem commits_singles {front : List String} (allSingle : ∀ s ∈ singles, s.IsSingle)
    (sameLength : front.length = singles.length) :
    Commits (singles ++ rest) (front ++ path) ↔ Commits rest path := by
  induction singles generalizing front with
  | nil => rw [List.eq_nil_of_length_eq_zero sameLength]; rfl
  | cons s singles ih =>
    obtain ⟨isSingle, others⟩ := List.forall_mem_cons.1 allSingle
    obtain ⟨x, front, rfl⟩ := List.exists_cons_of_length_eq_add_one sameLength
    rw [List.cons_append, List.cons_append, commits_single isSingle]
    exact ih others (by simpa using sameLength)

/-- A text has one first place in a path. -/
theorem first_unique {run' path' : List String} (same : run ++ text :: path = run' ++ text :: path')
    (notBefore : text ∉ run) (notBefore' : text ∉ run') : path = path' := by
  have samePlace : run.length = run'.length := by
    simpa [List.idxOf_append, notBefore, notBefore'] using congrArg (List.idxOf text) same
  exact (List.cons.inj (List.append_inj same samePlace).2).2

theorem commits_first (notBefore : text ∉ run) :
    Commits (.multi :: .literal text :: rest) (run ++ text :: path) ↔ Commits rest path := by
  constructor
  · intro commits
    generalize whole : run ++ text :: path = all at commits
    cases commits with
    | single _ isSingle _ | allButLast _ _ isSingle _ => exact isSingle.elim
    | first notBefore' commits =>
      rw [first_unique whole notBefore notBefore']
      exact commits
  · exact .first notBefore

theorem not_commits_first (nowhere : text ∉ path) :
    ¬ Commits (.multi :: .literal text :: rest) path := by
  intro commits
  cases commits with
  | single _ isSingle _ | allButLast _ _ isSingle _ => exact isSingle.elim
  | first _ _ => exact nowhere (by simp)

theorem commits_allButLast (isSingle : s.IsSingle) :
    Commits (.multi :: s :: rest) (run ++ [x]) ↔ Commits rest [] := by
  constructor
  · intro commits
    generalize run ++ [x] = all at commits
    cases commits with
    | single _ multiSingle _ => exact multiSingle.elim
    | first _ _ | doubled _ _ => exact isSingle.elim
    | allButLast _ _ _ commits => exact commits
  · exact .allButLast run x isSingle

theorem commits_multi_multi :
    Commits (.multi :: .multi :: rest) path ↔ rest = [] ∧ path ≠ [] := by
  constructor
  · intro commits
    cases commits with
    | single _ isSingle _ | allButLast _ _ isSingle _ => exact isSingle.elim
    | doubled x run => exact ⟨rfl, List.cons_ne_nil x run⟩
  · rintro ⟨rfl, someLeft⟩
    obtain ⟨x, run, rfl⟩ := List.exists_cons_of_ne_nil someLeft
    exact .doubled x run

/-- Behind the first segment of a pattern that commits to a path, the rest commits to some path too. -/
theorem Commits.exists_tail (commits : Commits (s :: rest) path) : ∃ tail, Commits rest tail := by
  cases commits with
  | literal _ commits | single _ _ commits => exact ⟨_, commits⟩
  | all _ => exact ⟨[], .done⟩
  | first _ commits => exact ⟨_, .literal _ commits⟩
  | allButLast _ x isSingle commits => exact ⟨[x], .single x isSingle commits⟩
  | doubled _ _ => exact ⟨[], .all []⟩

/-- No pattern commits to a path with something behind two `**`. -/
theorem Commits.eq_nil_behind_doubled {front back : List Segment}
    (commits : Commits (front ++ .multi :: .multi :: back) path) : back = [] := by
  induction front generalizing path with
  | nil => exact (commits_multi_multi.1 commits).1
  | cons s front ih =>
    obtain ⟨tail, behind⟩ := commits.exists_tail
    exact ih behind

/-! ## Where nothing is lost -/

theorem accepts_of_more {more : List String} (accepted : Accepts (.multi :: rest) path) :
    Accepts (.multi :: rest) (more ++ path) := by
  obtain ⟨run, tail, rfl, behind⟩ := accepts_multi.1 accepted
  rw [← List.append_assoc]
  exact .multi (more ++ run) behind

/-- Behind the first place of the literal there is at least as much of the path as behind the one
that the acceptance used, and the next `**` takes what is more. -/
theorem accepts_first (allSingle : ∀ s ∈ singles, s.IsSingle)
    (accepted : Accepts (.multi :: .literal text :: (singles ++ .multi :: rest)) path) :
    ∃ run front tail, path = run ++ text :: (front ++ tail) ∧ text ∉ run ∧
      front.length = singles.length ∧ Accepts (.multi :: rest) tail := by
  obtain ⟨run, _, rfl, afterRun⟩ := accepts_multi.1 accepted
  obtain ⟨_, rfl, afterLiteral⟩ := accepts_literal.1 afterRun
  obtain ⟨front, tail, rfl, sameLength, afterSingles⟩ := (accepts_singles allSingle).1 afterLiteral
  obtain ⟨before, between, split, notBefore⟩ :=
    List.eq_append_cons_of_mem (show text ∈ run ++ [text] by simp)
  refine ⟨before, (between ++ front).take singles.length, (between ++ front).drop singles.length ++ tail,
    ?_, notBefore, by simp [sameLength], accepts_of_more afterSingles⟩
  calc run ++ text :: (front ++ tail)
      = (run ++ [text]) ++ (front ++ tail) := by simp
    _ = before ++ text :: ((between ++ front) ++ tail) := by rw [split]; simp
    _ = _ := by rw [← List.append_assoc (List.take ..), List.take_append_drop]

theorem Lossless.commits (lossless : Lossless p) (accepted : Accepts p path) : Commits p path := by
  induction lossless generalizing path with
  | done => cases accepted; exact .done
  | literal text _ ih =>
    obtain ⟨tail, rfl, behind⟩ := accepts_literal.1 accepted
    exact .literal text (ih behind)
  | single isSingle _ ih =>
    obtain ⟨x, tail, rfl, behind⟩ := (accepts_single isSingle).1 accepted
    exact .single x isSingle (ih behind)
  | all => exact .all path
  | allButLast isSingle atMostMulti =>
    obtain ⟨run, _, rfl, afterRun⟩ := accepts_multi.1 accepted
    obtain ⟨x, tail, rfl, _⟩ := (accepts_single isSingle).1 afterRun
    -- the last segment goes to the parameter, wherever the acceptance had put it
    obtain ⟨front, last, split⟩ := exists_last (show run ++ x :: tail ≠ [] by simp)
    rw [split]
    exact .allButLast front last isSingle (commits_nil.2 atMostMulti)
  | first text allSingle _ ih =>
    obtain ⟨run, front, tail, rfl, notBefore, sameLength, behind⟩ := accepts_first allSingle accepted
    exact .first notBefore ((commits_singles allSingle sameLength).2 (ih behind))

/-! ## Where something is lost -/

/-- A path without slashes in its segments that a pattern accepts and does not commit to.  Two patterns leave
no choice but the empty path and the single empty segment. -/
structure Lost (p : List Segment) (path : List String) : Prop where
  noSlash : ∀ x ∈ path, '/' ∉ x.toList
  accepted : Accepts p path
  missed : ¬ Commits p path
  empty : path = [] → p = [.multi, .multi]
  blank : path = [""] → p = [.literal "", .multi, .multi]

theorem Lost.of_long (long : 2 ≤ path.length) (noSlash : ∀ x ∈ path, '/' ∉ x.toList)
    (accepted : Accepts p path) (missed : ¬ Commits p path) : Lost p path where
  noSlash := noSlash
  accepted := accepted
  missed := missed
  empty isEmpty := by simp [isEmpty] at long
  blank isBlank := by simp [isBlank] at long

/-- A path that a pattern accepts, in which `**` takes nothing. -/
def sample : List Segment → List String
  | [] => []
  | .literal text :: rest => text :: sample rest
  | .param _ :: rest | .wildcard :: rest => "x" :: sample rest
  | .multi :: rest => sample rest

/-- Something for each of the segments. -/
def filler (singles : List Segment) : List String := List.replicate singles.length "x"

theorem accepts_sample (p : List Segment) : Accepts p (sample p) := by
  induction p with
  | nil => exact .done
  | cons s rest ih =>
    cases s with
    | literal text => exact .literal text ih
    | param name => exact .param name "x" ih
    | wildcard => exact .wildcard "x" ih
    | multi => exact .multi [] ih

theorem noSlash_literal (wellFormed : (Segment.literal text).WellFormed) : '/' ∉ text.toList :=
  fun inText => (wellFormed '/' inText).1 rfl

theorem noSlash_sample (wellFormed : ∀ s ∈ p, s.WellFormed) : ∀ x ∈ sample p, '/' ∉ x.toList := by
  induction p with
  | nil => simp [sample]
  | cons s rest ih =>
    obtain ⟨ofHead, ofRest⟩ := List.forall_mem_cons.1 wellFormed
    cases s with
    | literal text => exact List.forall_mem_cons.2 ⟨noSlash_literal ofHead, ih ofRest⟩
    | param _ | wildcard => exact List.forall_mem_cons.2 ⟨by decide, ih ofRest⟩
    | multi => exact ih ofRest

theorem noSlash_filler (singles : List Segment) : ∀ x ∈ filler singles, '/' ∉ x.toList := by
  intro x inFiller
  rw [List.eq_of_mem_replicate inFiller]
  decide

theorem accepts_filler (allSingle : ∀ s ∈ singles, s.IsSingle) (accepted : Accepts rest path) :
    Accepts (singles ++ rest) (filler singles ++ path) :=
  (accepts_singles allSingle).2 ⟨filler singles, path, rfl, List.length_replicate .., accepted⟩

theorem Lost.behind_literal (noSlash : '/' ∉ text.toList) (lost : Lost rest path) :
    Lost (.literal text :: rest) (text :: path) where
  noSlash := List.forall_mem_cons.2 ⟨noSlash, lost.noSlash⟩
  accepted := .literal text lost.accepted
  missed commits := lost.missed (commits_literal.1 commits).2
  empty isEmpty := by cases isEmpty
  blank isBlank := by
    obtain ⟨rfl, isEmpty⟩ := List.cons.inj isBlank
    rw [lost.empty isEmpty]

theorem Lost.behind_single (isSingle : s.IsSingle) (lost : Lost rest path) :
    Lost (s :: rest) ("x" :: path) where
  noSlash := List.forall_mem_cons.2 ⟨by decide, lost.noSlash⟩
  accepted := .single isSingle "x" lost.accepted
  missed commits := lost.missed ((commits_single isSingle).1 commits)
  empty isEmpty := by cases isEmpty
  blank isBlank := absurd (List.cons.inj isBlank).1 (by decide)

/-- For the second of two `**` nothing is left of the empty path. -/
theorem lost_doubled : Lost [.multi, .multi] [] where
  noSlash := List.forall_mem_nil _
  accepted := .multi [] (.multi [] .done)
  missed commits := (commits_multi_multi.1 commits).2 rfl
  empty _ := rfl
  blank isBlank := by cases isBlank

theorem lost_multi_multi (wellFormed : ∀ s ∈ rest, s.WellFormed) (more : rest ≠ []) :
    Lost (.multi :: .multi :: rest) ("x" :: "x" :: sample rest) :=
  .of_long (by simp) (by simpa using noSlash_sample wellFormed)
    (.multi ["x", "x"] (.multi [] (accepts_sample rest)))
    fun commits => more (commits_multi_multi.1 commits).1

/-- Behind the last segment nothing is left for more than a `**`. -/
theorem lost_allButLast (isSingle : s.IsSingle) (wellFormed : ∀ s ∈ rest, s.WellFormed)
    (more : ¬ (rest = [] ∨ rest = [.multi])) :
    Lost (.multi :: s :: rest) ("x" :: "x" :: sample rest) := by
  refine .of_long (by simp) (by simpa using noSlash_sample wellFormed)
    (.multi ["x"] (.single isSingle "x" (accepts_sample rest))) fun commits => ?_
  obtain ⟨front, last, split⟩ := exists_last (List.cons_ne_nil "x" ("x" :: sample rest))
  rw [split, commits_allButLast isSingle, commits_nil] at commits
  exact more commits

/-- Where `**` ends before a literal, what is missed behind it is missed on the whole. -/
theorem not_commits_behind_first (allSingle : ∀ s ∈ singles, s.IsSingle) (notBefore : text ∉ run)
    (missed : ¬ Commits rest path) :
    ¬ Commits (.multi :: .literal text :: (singles ++ rest)) (run ++ text :: (filler singles ++ path)) := by
  rw [commits_first notBefore, commits_singles allSingle (by simp [filler])]
  exact missed

/-- The literal stands once more further behind, and `**` might have reached to there. -/
theorem lost_second (allSingle : ∀ s ∈ singles, s.IsSingle) (noSlash : '/' ∉ text.toList)
    (wellFormed : ∀ s ∈ rest, s.WellFormed) (between : List String)
    (noSlashBetween : ∀ x ∈ between, '/' ∉ x.toList)
    (missed : ¬ Commits rest (between ++ text :: (filler singles ++ sample rest))) :
    Lost (.multi :: .literal text :: (singles ++ rest))
      (text :: (filler singles ++ (between ++ text :: (filler singles ++ sample rest)))) := by
  have behind := Accepts.literal text (accepts_filler allSingle (accepts_sample rest))
  refine .of_long ?_ ?_ ?_ (not_commits_behind_first allSingle (List.not_mem_nil (a := text)) missed)
  · simp only [List.length_cons, List.length_append]
    omega
  · simp only [List.forall_mem_cons, List.forall_mem_append]
    exact ⟨noSlash, noSlash_filler singles, noSlashBetween, noSlash, noSlash_filler singles,
      noSlash_sample wellFormed⟩
  · simpa using Accepts.multi (text :: (filler singles ++ between)) behind

/-- What is lost behind the next `**` is lost, whatever the first one takes. -/
theorem Lost.behind_first (allSingle : ∀ s ∈ singles, s.IsSingle) (noSlash : '/' ∉ text.toList)
    (lost : Lost (.multi :: rest) path) :
    Lost (.multi :: .literal text :: (singles ++ .multi :: rest))
      ((text ++ "x") :: text :: (filler singles ++ path)) := by
  have another : text ++ "x" ≠ text := by simp
  have notBefore : text ∉ [text ++ "x"] := by simpa using another.symm
  refine .of_long (by simp) ?_ (.multi [text ++ "x"] (.literal text (accepts_filler allSingle lost.accepted)))
    (not_commits_behind_first allSingle notBefore lost.missed)
  simp only [List.forall_mem_cons, List.forall_mem_append]
  exact ⟨by simpa using noSlash, noSlash, noSlash_filler singles, lost.noSlash⟩

/-- Every pattern begins with some parameters and `*`, and goes on with something else or ends. -/
theorem exists_singles (p : List Segment) : ∃ singles rest, p = singles ++ rest ∧
    (∀ s ∈ singles, s.IsSingle) ∧
    (rest = [] ∨ (∃ text more, rest = .literal text :: more) ∨ ∃ more, rest = .multi :: more) := by
  induction p with
  | nil => exact ⟨[], [], rfl, by simp, .inl rfl⟩
  | cons s p ih =>
    obtain ⟨singles, rest, rfl, allSingle, ends⟩ := ih
    cases s with
    | literal text => exact ⟨[], _, rfl, by simp, .inr (.inl ⟨text, _, rfl⟩)⟩
    | multi => exact ⟨[], _, rfl, by simp, .inr (.inr ⟨_, rfl⟩)⟩
    | param name => exact ⟨.param name :: singles, rest, rfl, by simpa [Segment.IsSingle], ends⟩
    | wildcard => exact ⟨.wildcard :: singles, rest, rfl, by simpa [Segment.IsSingle], ends⟩

/-- A pattern that is not lossless loses some path. -/
theorem exists_lost (p : List Segment) (wellFormed : ∀ s ∈ p, s.WellFormed) (lossy : ¬ Lossless p) :
    ∃ path, Lost p path := by
  match p with
  | [] => exact absurd .done lossy
  | .literal text :: rest =>
    obtain ⟨ofHead, ofRest⟩ := List.forall_mem_cons.1 wellFormed
    obtain ⟨path, lost⟩ := exists_lost rest ofRest fun lossless => lossy (.literal text lossless)
    exact ⟨_, lost.behind_literal (noSlash_literal ofHead)⟩
  | .param name :: rest =>
    obtain ⟨path, lost⟩ := exists_lost rest (List.forall_mem_cons.1 wellFormed).2
      fun lossless => lossy (.single trivial lossless)
    exact ⟨_, lost.behind_single trivial⟩
  | .wildcard :: rest =>
    obtain ⟨path, lost⟩ := exists_lost rest (List.forall_mem_cons.1 wellFormed).2
      fun lossless => lossy (.single trivial lossless)
    exact ⟨_, lost.behind_single trivial⟩
  | [.multi] => exact absurd .all lossy
  | [.multi, .multi] => exact ⟨_, lost_doubled⟩
  | .multi :: .multi :: s :: rest =>
    exact ⟨_, lost_multi_multi (fun s inRest => wellFormed s (by simp [inRest])) (List.cons_ne_nil s rest)⟩
  | .multi :: .param name :: rest =>
    exact ⟨_, lost_allButLast trivial (fun s inRest => wellFormed s (by simp [inRest]))
      fun atMostMulti => lossy (.allButLast trivial atMostMulti)⟩
  | .multi :: .wildcard :: rest =>
    exact ⟨_, lost_allButLast trivial (fun s inRest => wellFormed s (by simp [inRest]))
      fun atMostMulti => lossy (.allButLast trivial atMostMulti)⟩
  | .multi :: .literal text :: behind =>
    obtain ⟨singles, rest, rfl, allSingle, ends⟩ := exists_singles behind
    have noSlash : '/' ∉ text.toList := noSlash_literal (wellFormed _ (by simp))
    have ofRest : ∀ s ∈ rest, s.WellFormed := fun s inRest => wellFormed s (by simp [inRest])
    rcases ends with rfl | ⟨next, more, rfl⟩ | ⟨more, rfl⟩
    · -- the path goes on behind the first place, and the pattern does not
      exact ⟨_, lost_second allSingle noSlash ofRest [] (by simp) (nomatch ·)⟩
    · -- the next literal does not stand where the first place asks for it
      have otherwise : next ++ "x" ≠ next := by simp
      have noSlashOther : '/' ∉ (next ++ "x").toList := by
        simpa using noSlash_literal (ofRest _ (List.mem_cons_self ..))
      refine ⟨_, lost_second allSingle noSlash ofRest [next ++ "x"]
        (by simpa using noSlashOther) fun commits => ?_⟩
      exact otherwise (commits_literal.1 commits).1
    · -- the loss is behind the next `**`
      obtain ⟨path, lost⟩ := exists_lost (.multi :: more) ofRest
        fun lossless => lossy (.first text allSingle lossless)
      exact ⟨_, lost.behind_first allSingle noSlash⟩
termination_by p.length

end StubServer.Route
