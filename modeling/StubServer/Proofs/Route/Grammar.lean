import StubServer.Proofs.Route.Acceptance
import StubServer.Proofs.Route.PathText

/-! # The grammar of path patterns

`Segment.IsText` says which texts may stand between the slashes of a pattern, without regard to the order
in which the reader tries its cases.  These are the texts of the well-formed segments, each of which is
read back from its own text (`parseSegment_written`).  So reading and writing patterns undo each other
(`Pattern.parse_eq_ok_iff`), and on the route tree two segments that have been read share a branch only if
they stand for the same thing (`Segment.key_eq_iff`).
-/

namespace StubServer.Route

namespace Segment

variable {s s' : Segment} {cs : List Char}

def text (s : Segment) : String := String.ofList s.written

/-- What may stand between two slashes of a pattern.  A name stands between the two braces. -/
inductive IsText : String → Prop
  | wildcard : IsText "*"
  | multi : IsText "**"
  | param {name : String} : name ≠ "" → '{' ∉ name.toList → '}' ∉ name.toList →
      IsText ("\x7b" ++ name ++ "\x7d")
  | literal {text : String} : '{' ∉ text.toList → '}' ∉ text.toList → '*' ∉ text.toList → IsText text

/-- The segments have one branch of the route tree. -/
inductive SameBranch : Segment → Segment → Prop
  | literal (text : String) : SameBranch (.literal text) (.literal text)
  | single {s s' : Segment} : s.IsSingle → s'.IsSingle → SameBranch s s'
  | multi : SameBranch .multi .multi

theorem key_eq_iff (wellFormed : s.WellFormed) (wellFormed' : s'.WellFormed) :
    s.key = s'.key ↔ SameBranch s s' := by
  constructor
  · intro same
    cases s with
    | literal text =>
      -- a literal has no reserved key, so the other is a literal of the same text
      obtain ⟨notWildcard, notMulti⟩ := literal_key_ne wellFormed
      rw [eq_literal_of_key notWildcard notMulti same.symm]
      exact .literal text
    | param _ | wildcard => exact .single trivial (isSingle_of_key wellFormed' same.symm)
    | multi =>
      rw [eq_multi_of_key wellFormed' same.symm]
      exact .multi
  · intro branch
    cases branch with
    | literal _ | multi => rfl
    | single isSingle isSingle' => rw [isSingle.key_eq, isSingle'.key_eq]

/-! ## One segment -/

theorem any_isBrace_eq_false : cs.any isBrace = false ↔ '{' ∉ cs ∧ '}' ∉ cs := by
  simp only [List.any_eq_false, isBrace, Bool.or_eq_true, beq_iff_eq, not_or]
  constructor
  · intro each
    exact ⟨fun inText => (each _ inText).1 rfl, fun inText => (each _ inText).2 rfl⟩
  · rintro ⟨noOpening, noClosing⟩ c inText
    constructor
    · rintro rfl
      exact noOpening inText
    · rintro rfl
      exact noClosing inText

theorem wellFormed_literal_iff {text : String} : (literal text).WellFormed ↔
    '/' ∉ text.toList ∧ '*' ∉ text.toList ∧ text.toList.any isBrace = false := by
  simp only [WellFormed, List.any_eq_false, Bool.not_eq_true]
  constructor
  · intro each
    exact ⟨fun inText => (each _ inText).1 rfl, fun inText => (each _ inText).2.1 rfl,
      fun c inText => (each c inText).2.2⟩
  · rintro ⟨noSlash, noStar, noBrace⟩ c inText
    refine ⟨?_, ?_, noBrace c inText⟩
    · rintro rfl
      exact noSlash inText
    · rintro rfl
      exact noStar inText

theorem wellFormed_param_iff {name : String} : (param name).WellFormed ↔
    name.toList ≠ [] ∧ '/' ∉ name.toList ∧ name.toList.any isBrace = false := by
  simp only [WellFormed, List.any_eq_false, Bool.not_eq_true]
  refine and_congr_right fun _ => ?_
  constructor
  · intro each
    exact ⟨fun inName => (each _ inName).1 rfl, fun c inName => (each c inName).2⟩
  · rintro ⟨noSlash, noBrace⟩ c inName
    refine ⟨?_, noBrace c inName⟩
    rintro rfl
    exact noSlash inName

theorem slash_notMem_written (wellFormed : s.WellFormed) : '/' ∉ s.written := by
  cases s with
  | literal text => exact (wellFormed_literal_iff.1 wellFormed).1
  | param name => simp [written, (wellFormed_param_iff.1 wellFormed).2.1]
  | wildcard | multi => simp [written]

theorem text_literal (text : String) : (literal text).text = text := String.ofList_toList

theorem text_param (name : String) : (param name).text = "\x7b" ++ name ++ "\x7d" := by
  rw [← String.toList_inj]
  simp [Segment.text, written]

/-- Only the empty literal has no text. -/
theorem eq_of_text_empty (empty : s.text = "") : s = .literal "" := by
  have nothing : s.written = [] := by
    rw [← String.toList_ofList (l := s.written)]
    exact congrArg String.toList empty
  cases s with
  | literal text => rw [← String.toList_inj.1 (show text.toList = "".toList from nothing)]
  | param _ | wildcard | multi => simp [written] at nothing

end Segment

open Segment (IsText)

variable {cs name : List Char} {s : Segment} {ss : List Segment} {texts : List (List Char)}
  {p : Pattern}

theorem braced?_eq_some_iff : braced? cs = some name ↔ cs = '{' :: name ++ ['}'] := by
  unfold braced?
  split
  · next rest =>
    rw [Option.ite_none_right_eq_some, Option.some.injEq, List.getLast?_eq_some_iff, List.cons_append,
      List.cons.injEq]
    constructor
    · rintro ⟨⟨front, rfl⟩, rfl⟩
      simp
    · rintro ⟨-, rfl⟩
      simp
  · next notBraced =>
    refine iff_of_false (by simp) fun isBraced => ?_
    exact notBraced _ isBraced

theorem written_of_parseSegment (parsed : parseSegment cs = .ok s) : s.written = cs := by
  unfold parseSegment at parsed
  split at parsed
  · next isStar =>
    cases parsed
    exact isStar.symm
  · split at parsed
    · next areStars =>
      cases parsed
      exact areStars.symm
    · split at parsed
      · next name isBraced =>
        split at parsed
        · cases parsed
        · cases parsed
          rw [Segment.written, String.toList_ofList, braced?_eq_some_iff.1 isBraced]
      · split at parsed
        · cases parsed
        · split at parsed
          · cases parsed
          · cases parsed
            exact String.toList_ofList

/-- A well-formed segment falls into its own case and into none of those tried before. -/
theorem parseSegment_written (wellFormed : s.WellFormed) : parseSegment s.written = .ok s := by
  cases s with
  | literal text =>
    obtain ⟨_, noStar, noBrace⟩ := Segment.wellFormed_literal_iff.1 wellFormed
    have notStar : text.toList ≠ ['*'] := by
      intro isStar
      simp [isStar] at noStar
    have notStars : text.toList ≠ ['*', '*'] := by
      intro areStars
      simp [areStars] at noStar
    have notBraced : braced? text.toList = none := by
      rw [Option.eq_none_iff_forall_ne_some]
      intro name isBraced
      rw [braced?_eq_some_iff.1 isBraced] at noBrace
      simp [Segment.isBrace] at noBrace
    simp [Segment.written, parseSegment, notStar, notStars, notBraced, noBrace, noStar]
  | param name =>
    obtain ⟨notEmpty, _, noBrace⟩ := Segment.wellFormed_param_iff.1 wellFormed
    have isBraced : braced? (Segment.param name).written = some name.toList :=
      braced?_eq_some_iff.2 rfl
    have notStar : (Segment.param name).written ≠ ['*'] := by simp [Segment.written]
    have notStars : (Segment.param name).written ≠ ['*', '*'] := by simp [Segment.written]
    rw [parseSegment, if_neg notStar, if_neg notStars, isBraced]
    simp [noBrace, show name ≠ "" by simpa using notEmpty]
  | wildcard | multi => rfl

/-- The texts without a slash that the grammar allows are those of the well-formed segments. -/
theorem isText_iff {text : String} (noSlash : '/' ∉ text.toList) :
    IsText text ↔ ∃ s : Segment, s.WellFormed ∧ s.text = text := by
  constructor
  · intro isText
    cases isText with
    | wildcard => exact ⟨.wildcard, trivial, rfl⟩
    | multi => exact ⟨.multi, trivial, rfl⟩
    | @param name notEmpty noOpening noClosing =>
      have noBrace := Segment.any_isBrace_eq_false.2 ⟨noOpening, noClosing⟩
      have noSlashWithin : '/' ∉ name.toList := by
        intro inName
        apply noSlash
        simp [inName]
      exact ⟨.param name, Segment.wellFormed_param_iff.2 ⟨by simpa using notEmpty, noSlashWithin, noBrace⟩,
        Segment.text_param name⟩
    | literal noOpening noClosing noStar =>
      have noBrace := Segment.any_isBrace_eq_false.2 ⟨noOpening, noClosing⟩
      exact ⟨.literal text, Segment.wellFormed_literal_iff.2 ⟨noSlash, noStar, noBrace⟩,
        Segment.text_literal text⟩
  · rintro ⟨s, wellFormed, rfl⟩
    cases s with
    | wildcard => exact .wildcard
    | multi => exact .multi
    | param name =>
      obtain ⟨notEmpty, _, noBrace⟩ := Segment.wellFormed_param_iff.1 wellFormed
      obtain ⟨noOpening, noClosing⟩ := Segment.any_isBrace_eq_false.1 noBrace
      rw [Segment.text_param]
      exact .param (by simpa using notEmpty) noOpening noClosing
    | literal text =>
      obtain ⟨_, noStar, noBrace⟩ := Segment.wellFormed_literal_iff.1 wellFormed
      obtain ⟨noOpening, noClosing⟩ := Segment.any_isBrace_eq_false.1 noBrace
      rw [Segment.text_literal]
      exact .literal noOpening noClosing noStar

/-! ## All segments -/

theorem written_of_parseSegments (parsed : parseSegments texts = .ok ss) :
    ss.map Segment.written = texts := by
  induction texts generalizing ss with
  | nil =>
    cases parsed
    rfl
  | cons cs rest ih =>
    unfold parseSegments at parsed
    split at parsed
    · cases parsed
    · next s isSegment =>
      split at parsed
      · cases parsed
      · next tail isTail =>
        cases parsed
        rw [List.map_cons, written_of_parseSegment isSegment, ih isTail]

/-- The missing slash is no fault of a segment. -/
theorem parseSegments_ne_noLeadingSlash {cause : PatternError}
    (refused : parseSegments texts = .error cause) : cause ≠ .noLeadingSlash := by
  induction texts with
  | nil => cases refused
  | cons cs rest ih =>
    unfold parseSegments at refused
    split at refused
    · next other isOther =>
      cases refused
      unfold parseSegment at isOther
      grind
    · split at refused
      · next other isOther =>
        cases refused
        exact ih isOther
      · cases refused

theorem parseSegments_written (wellFormed : ∀ s ∈ ss, s.WellFormed) :
    parseSegments (ss.map Segment.written) = .ok ss := by
  induction ss with
  | nil => rfl
  | cons s rest ih =>
    obtain ⟨ofFirst, ofRest⟩ := List.forall_mem_cons.1 wellFormed
    simp only [List.map_cons, parseSegments, parseSegment_written ofFirst, ih ofRest]

theorem exists_pattern {texts : List String}
    (each : ∀ text ∈ texts, ∃ s : Segment, s.WellFormed ∧ s.text = text) :
    ∃ p : Pattern, p.segments.map Segment.text = texts := by
  induction texts with
  | nil => exact ⟨⟨[], List.forall_mem_nil _⟩, rfl⟩
  | cons text rest ih =>
    obtain ⟨⟨s, wellFormed, isText⟩, ofRest⟩ := List.forall_mem_cons.1 each
    obtain ⟨p, areTexts⟩ := ih ofRest
    exact ⟨⟨s :: p.segments, List.forall_mem_cons.2 ⟨wellFormed, p.wellFormed⟩⟩, by simp [isText, areTexts]⟩

namespace Pattern

/-- A pattern as it is written. -/
def text (p : Pattern) : String := joinPath (p.segments.map Segment.text)

variable {path : String}

/-- What is read has the texts between the slashes as its segments. -/
theorem parse_eq_ok_iff : parse path = .ok p ↔
    path.toList.head? = some '/' ∧ p.segments.map Segment.text = splitPath path := by
  have asTexts (segments : List Segment) : segments.map Segment.text = splitPath path ↔
      segments.map Segment.written = splitPathChars path.toList := by
    rw [splitPath, ← List.map_inj_right (f := String.ofList) fun _ _ => String.ofList_injective,
      List.map_map]
    rfl
  rw [asTexts]
  unfold parse
  split
  · next begins =>
    split
    · next refused =>
      -- had the texts been written from segments, these would have been read
      refine iff_of_false (by simp) fun written => ?_
      rw [← written.2, parseSegments_written p.wellFormed] at refused
      cases refused
    · next segments parsed =>
      rw [Except.ok.injEq]
      constructor
      · rintro rfl
        exact ⟨begins, written_of_parseSegments parsed⟩
      · rintro ⟨-, written⟩
        rw [← written, parseSegments_written p.wellFormed] at parsed
        cases parsed
        rfl
  · next noSlash => exact iff_of_false (by simp) fun read => noSlash read.1

theorem parse_eq_noLeadingSlash_iff :
    parse path = .error .noLeadingSlash ↔ path.toList.head? ≠ some '/' := by
  unfold parse
  split
  · next begins =>
    refine iff_of_false ?_ fun noSlash => noSlash begins
    split
    · next cause refused => simpa using parseSegments_ne_noLeadingSlash refused
    · simp
  · next noSlash => exact iff_of_true rfl noSlash

theorem text_of_parse (parsed : parse path = .ok p) : p.text = path := by
  obtain ⟨begins, areTexts⟩ := parse_eq_ok_iff.1 parsed
  rw [Pattern.text, areTexts, joinPath_splitPath begins]

/-- The single empty literal is written as the bare slash, which has no segments. -/
theorem parse_text_iff (p : Pattern) : parse p.text = .ok p ↔ p.segments ≠ [.literal ""] := by
  constructor
  · intro parsed blank
    have areTexts := (parse_eq_ok_iff.1 parsed).2
    rw [Pattern.text, blank] at areTexts
    exact absurd areTexts (by decide)
  · intro notBlank
    have noSlash : ∀ text ∈ p.segments.map Segment.text, '/' ∉ text.toList := by
      intro text inTexts
      obtain ⟨s, inPattern, rfl⟩ := List.mem_map.1 inTexts
      rw [Segment.text, String.toList_ofList]
      exact Segment.slash_notMem_written (p.wellFormed s inPattern)
    have notEmpty : p.segments.map Segment.text ≠ [""] := by
      intro isEmpty
      obtain ⟨s, rest, isPattern, noText, noMore⟩ := List.map_eq_cons_iff.1 isEmpty
      rw [Segment.eq_of_text_empty noText, List.map_eq_nil_iff.1 noMore] at isPattern
      exact notBlank isPattern
    refine parse_eq_ok_iff.2 ⟨?_, (splitPath_joinPath noSlash notEmpty).symm⟩
    simp [Pattern.text, joinPath]

theorem exists_parse_iff : (∃ p, parse path = .ok p) ↔
    path.toList.head? = some '/' ∧ ∀ piece ∈ splitPath path, IsText piece := by
  constructor
  · rintro ⟨p, parsed⟩
    obtain ⟨begins, areTexts⟩ := parse_eq_ok_iff.1 parsed
    refine ⟨begins, fun piece inPath => (isText_iff (slash_notMem_of_mem_splitPath inPath)).2 ?_⟩
    rw [← areTexts] at inPath
    obtain ⟨s, inPattern, isText⟩ := List.mem_map.1 inPath
    exact ⟨s, p.wellFormed s inPattern, isText⟩
  · rintro ⟨begins, areTexts⟩
    obtain ⟨p, written⟩ := exists_pattern fun piece inPath =>
      (isText_iff (slash_notMem_of_mem_splitPath inPath)).1 (areTexts piece inPath)
    exact ⟨p, parse_eq_ok_iff.2 ⟨begins, written⟩⟩

/-- A path can be read as a pattern exactly if it begins with a slash and each of its segments is in the
grammar; what has been read is written as the path again, and every pattern but the single empty literal is
read from what it is written as.  In what has been read no literal has a reserved key, so that two segments
with one key are equal literals, or both stand for one segment, or both for any number. -/
theorem parse_grammar :
    (∀ path, (∃ p, parse path = .ok p) ↔
      path.toList.head? = some '/' ∧ ∀ piece ∈ splitPath path, IsText piece) ∧
    (∀ path p, parse path = .ok p →
      "/" ++ String.intercalate "/" (p.segments.map Segment.text) = path) ∧
    (∀ p : Pattern, parse ("/" ++ String.intercalate "/" (p.segments.map Segment.text)) = .ok p ↔
      p.segments ≠ [.literal ""]) ∧
    ∀ path p, parse path = .ok p →
      (∀ text, .literal text ∈ p.segments →
        text ≠ Segment.wildcard.key ∧ text ≠ Segment.multi.key) ∧
      ∀ path' p', parse path' = .ok p' → ∀ s ∈ p.segments, ∀ s' ∈ p'.segments,
        s.key = s'.key ↔ Segment.SameBranch s s' := by
  refine ⟨fun path => exists_parse_iff, fun path p => text_of_parse, parse_text_iff, ?_⟩
  intro path p _
  constructor
  · intro text inPattern
    exact Segment.literal_key_ne (p.wellFormed _ inPattern)
  · intro path' p' _ s inPattern s' inPattern'
    exact Segment.key_eq_iff (p.wellFormed s inPattern) (p'.wellFormed s' inPattern')

/-- A pattern with every kind of segment and a slash at its end. -/
def everyKind : Pattern :=
  ⟨[.literal "users", .param "id*", .wildcard, .multi, .literal ""], by
    simp [Segment.WellFormed, Segment.isBrace]⟩

/-- The name of a parameter may hold a star, and a slash at the end is an empty literal. -/
theorem parse_grammar_everyKind :
    parse "/users/{id*}/*/**/" = .ok everyKind ∧ IsText "{id*}" ∧
      parse everyKind.text = .ok everyKind ∧ Segment.SameBranch (.param "id*") .wildcard := by
  obtain ⟨grammar, _, written, keys⟩ := parse_grammar
  have parsed : parse "/users/{id*}/*/**/" = .ok everyKind :=
    parse_eq_ok_iff.2 ⟨by decide, by decide⟩
  have areTexts := ((grammar _).1 ⟨everyKind, parsed⟩).2
  exact ⟨parsed, areTexts _ (by decide), (written everyKind).2 (by decide),
    ((keys _ everyKind parsed).2 _ everyKind parsed _ (by decide) _ (by decide)).1 rfl⟩

end Pattern

end StubServer.Route
