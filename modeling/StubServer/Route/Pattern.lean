import StubServer.Text.Blank

/-! # Path patterns

A path is cut at its slashes into segments.  A pattern has one of four things in each place: a
literal text, a named parameter `{name}`, `*` for any one segment, or `**` for any number of
segments.  `Pattern` holds segments that can be written and read back; `Pattern.parse` builds
nothing else.
-/

namespace StubServer.Route

/-- The segments of a path without its leading slash; a trailing slash leaves an empty last
segment, and the bare slash has no segments. -/
def splitPathChars (cs : List Char) : List (List Char) :=
  let inner := match cs with
    | '/' :: rest => rest
    | _ => cs
  if inner.isEmpty then [] else Text.splitChars '/' inner

def splitPath (path : String) : List String := (splitPathChars path.toList).map String.ofList

inductive Segment where
  /-- Exactly this text. -/
  | literal (text : String)
  /-- Any one segment, captured under a name. -/
  | param (name : String)
  /-- Any one segment. -/
  | wildcard
  /-- Any number of segments. -/
  | multi
  deriving DecidableEq, Repr

def wildcardKey : String := "*"

def multiKey : String := "**"

namespace Segment

/-- The branch of the route tree that a segment lies on: parameters and `*` share one. -/
def key : Segment → String
  | .literal text => text
  | .param _ => wildcardKey
  | .wildcard => wildcardKey
  | .multi => multiKey

def written : Segment → List Char
  | .literal text => text.toList
  | .param name => '{' :: name.toList ++ ['}']
  | .wildcard => ['*']
  | .multi => ['*', '*']

def isBrace (c : Char) : Bool := c == '{' || c == '}'

/-- The segment can be written and read back. -/
def WellFormed : Segment → Prop
  | .literal text => ∀ c ∈ text.toList, c ≠ '/' ∧ c ≠ '*' ∧ isBrace c = false
  | .param name => name.toList ≠ [] ∧ ∀ c ∈ name.toList, c ≠ '/' ∧ isBrace c = false
  | .wildcard => True
  | .multi => True

end Segment

inductive PatternError where
  | noLeadingSlash
  | badParameter (segment : String)
  | unbalancedBraces (segment : String)
  | partialWildcard (segment : String)
  deriving DecidableEq, Repr

def PatternError.message : PatternError → String
  | .noLeadingSlash => "path must begin with '/'"
  | .badParameter s => "invalid parameter segment '" ++ s ++ "'"
  | .unbalancedBraces s => "unbalanced braces in segment '" ++ s ++ "'"
  | .partialWildcard s => "'*' must be a whole segment, got '" ++ s ++ "'"

/-- The name between an opening brace in front and a closing one at the end. -/
def braced? (cs : List Char) : Option (List Char) :=
  match cs with
  | '{' :: rest => if rest.getLast? = some '}' then some rest.dropLast else none
  | _ => none

def parseSegment (cs : List Char) : Except PatternError Segment :=
  if cs = ['*'] then .ok .wildcard
  else if cs = ['*', '*'] then .ok .multi
  else
    match braced? cs with
    | some name =>
      if name.isEmpty || name.any Segment.isBrace then .error (.badParameter (String.ofList cs))
      else .ok (.param (String.ofList name))
    | none =>
      if cs.any Segment.isBrace then .error (.unbalancedBraces (String.ofList cs))
      else if cs.contains '*' then .error (.partialWildcard (String.ofList cs))
      else .ok (.literal (String.ofList cs))

/-- Reads the segments from left to right; the first bad one is reported. -/
def parseSegments : List (List Char) → Except PatternError (List Segment)
  | [] => .ok []
  | cs :: rest =>
    match parseSegment cs with
    | .error e => .error e
    | .ok s =>
      match parseSegments rest with
      | .error e => .error e
      | .ok ss => .ok (s :: ss)

/-! ## Segments come out well formed -/

theorem mem_of_braced? {cs name : List Char} (isBraced : braced? cs = some name) :
    ∀ c ∈ name, c ∈ cs := by
  intro c inName
  unfold braced? at isBraced
  split at isBraced
  · next rest =>
    split at isBraced
    · injection isBraced with same
      subst same
      exact List.mem_cons_of_mem _ (List.dropLast_subset _ inName)
    · cases isBraced
  · cases isBraced

theorem parseSegment_wellFormed {cs : List Char} {s : Segment} (noSlash : '/' ∉ cs)
    (parsed : parseSegment cs = .ok s) : s.WellFormed := by
  have apart : ∀ c ∈ cs, c ≠ '/' := fun c inText same => noSlash (same ▸ inText)
  unfold parseSegment at parsed
  split at parsed
  · cases parsed; trivial
  · split at parsed
    · cases parsed; trivial
    · split at parsed
      · next name isBraced =>
        split at parsed
        · cases parsed
        · next sound =>
          cases parsed
          simp only [Bool.or_eq_true, List.isEmpty_iff, List.any_eq_true, not_or, not_exists,
            not_and, Bool.not_eq_true] at sound
          refine ⟨by simpa using sound.1, fun c inName => ?_⟩
          rw [String.toList_ofList] at inName
          exact ⟨apart c (mem_of_braced? isBraced c inName), sound.2 c inName⟩
      · split at parsed
        · cases parsed
        · next noBrace =>
          split at parsed
          · cases parsed
          · next noStar =>
            cases parsed
            intro c inText
            rw [String.toList_ofList] at inText
            simp only [List.any_eq_true, not_exists, not_and, Bool.not_eq_true] at noBrace
            refine ⟨apart c inText, fun same => ?_, noBrace c inText⟩
            subst same
            exact noStar (List.contains_iff_mem.2 inText)

theorem parseSegments_wellFormed {texts : List (List Char)} {ss : List Segment}
    (noSlash : ∀ cs ∈ texts, '/' ∉ cs) (parsed : parseSegments texts = .ok ss) :
    ∀ s ∈ ss, s.WellFormed := by
  induction texts generalizing ss with
  | nil => cases parsed; simp
  | cons cs rest ih =>
    unfold parseSegments at parsed
    split at parsed
    · cases parsed
    · next s isSegment =>
      split at parsed
      · cases parsed
      · next tail isTail =>
        cases parsed
        intro x inList
        rcases List.mem_cons.1 inList with same | inTail
        · subst same
          exact parseSegment_wellFormed (noSlash cs (List.mem_cons_self ..)) isSegment
        · exact ih (fun cs inRest => noSlash cs (List.mem_cons_of_mem _ inRest)) isTail x inTail

theorem not_mem_splitChars (sep : Char) (cs : List Char) :
    ∀ piece ∈ Text.splitChars sep cs, sep ∉ piece := by
  induction cs with
  | nil => simp [Text.splitChars]
  | cons c cs ih =>
    unfold Text.splitChars
    split
    · intro piece inPieces
      rcases List.mem_cons.1 inPieces with same | later
      · subst same; simp
      · exact ih piece later
    · next distinct =>
      split
      · intro piece inPieces
        simp only [List.mem_singleton] at inPieces
        subst inPieces
        simpa using fun same : sep = c => distinct same.symm
      · next first others splitted =>
        intro piece inPieces
        rcases List.mem_cons.1 inPieces with same | later
        · subst same
          intro inPiece
          rcases List.mem_cons.1 inPiece with same | inFirst
          · exact distinct same.symm
          · exact ih first (splitted ▸ List.mem_cons_self ..) inFirst
        · exact ih piece (splitted ▸ List.mem_cons_of_mem _ later)

theorem splitPathChars_noSlash (cs : List Char) : ∀ piece ∈ splitPathChars cs, '/' ∉ piece := by
  unfold splitPathChars
  dsimp only
  split
  all_goals
    split
    · simp
    · exact not_mem_splitChars '/' _

/-! ## Patterns -/

structure Pattern where
  segments : List Segment
  wellFormed : ∀ s ∈ segments, s.WellFormed

namespace Pattern

def keys (p : Pattern) : List String := p.segments.map Segment.key

/-- Reads a pattern, which has to begin with a slash. -/
def parse (text : String) : Except PatternError Pattern :=
  if text.toList.head? = some '/' then
    match parsed : parseSegments (splitPathChars text.toList) with
    | .error e => .error e
    | .ok ss => .ok ⟨ss, parseSegments_wellFormed (splitPathChars_noSlash _) parsed⟩
  else .error .noLeadingSlash

end Pattern

end StubServer.Route
