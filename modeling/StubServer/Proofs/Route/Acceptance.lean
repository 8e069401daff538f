import StubServer.Route.Pattern

/-! # What a pattern accepts

The declared meaning of a pattern, which knows nothing of trees and walks: one segment after the
other takes up its part of a path, and nothing of the path is left over.  Only the key of a segment
matters for this, because well-formed literals never have the key of `*` or `**`; the lemmas
`accepts_of_*Key` extend an acceptance to the front by a segment that is known by its key alone.
-/

namespace StubServer.Route

theorem wildcardKey_ne_multiKey : wildcardKey ≠ multiKey := by decide

namespace Segment

/-- Stands for exactly one segment of a path, whatever it is. -/
def IsSingle : Segment → Prop
  | .param _ | .wildcard => True
  | .literal _ | .multi => False

theorem isSingle_of_key {s : Segment} (wellFormed : s.WellFormed) (atKey : s.key = wildcardKey) :
    s.IsSingle := by
  cases s with
  | literal text =>
    have starInText : '*' ∈ text.toList := by
      rw [show text = wildcardKey from atKey]; decide
    exact absurd rfl (wellFormed '*' starInText).2.1
  | param _ | wildcard => trivial
  | multi => exact absurd atKey.symm wildcardKey_ne_multiKey

theorem eq_multi_of_key {s : Segment} (wellFormed : s.WellFormed) (atKey : s.key = multiKey) :
    s = .multi := by
  cases s with
  | literal text =>
    have starInText : '*' ∈ text.toList := by
      rw [show text = multiKey from atKey]; decide
    exact absurd rfl (wellFormed '*' starInText).2.1
  | param _ | wildcard => exact absurd atKey wildcardKey_ne_multiKey
  | multi => rfl

theorem eq_literal_of_key {s : Segment} {text : String} (notWildcard : text ≠ wildcardKey)
    (notMulti : text ≠ multiKey) (atKey : s.key = text) : s = .literal text := by
  cases s with
  | literal _ => exact congrArg literal atKey
  | param _ | wildcard => exact absurd atKey.symm notWildcard
  | multi => exact absurd atKey.symm notMulti

theorem IsSingle.key_eq {s : Segment} (single : s.IsSingle) : s.key = wildcardKey := by
  cases s with
  | literal _ | multi => exact single.elim
  | param _ | wildcard => rfl

/-- A literal is kept apart from the two reserved keys. -/
theorem literal_key_ne {text : String} (wellFormed : (literal text).WellFormed) :
    text ≠ wildcardKey ∧ text ≠ multiKey := by
  constructor
  · intro same
    exact isSingle_of_key wellFormed same
  · intro same
    cases eq_multi_of_key wellFormed same

end Segment

/-- A pattern takes up a whole path: a literal one equal segment, a parameter or `*` any one, and
`**` any run of them, also none. -/
inductive Accepts : List Segment → List String → Prop
  | done : Accepts [] []
  | literal (text : String) {rest : List Segment} {path : List String} :
      Accepts rest path → Accepts (.literal text :: rest) (text :: path)
  | param (name s : String) {rest : List Segment} {path : List String} :
      Accepts rest path → Accepts (.param name :: rest) (s :: path)
  | wildcard (s : String) {rest : List Segment} {path : List String} :
      Accepts rest path → Accepts (.wildcard :: rest) (s :: path)
  | multi (run : List String) {rest : List Segment} {path : List String} :
      Accepts rest path → Accepts (.multi :: rest) (run ++ path)

namespace Pattern

def Accepts (p : Pattern) (path : List String) : Prop := Route.Accepts p.segments path

end Pattern

variable {s : Segment} {rest : List Segment} {path : List String}

theorem Accepts.single (isSingle : s.IsSingle) (x : String) (accepted : Accepts rest path) :
    Accepts (s :: rest) (x :: path) := by
  cases s with
  | literal _ | multi => exact isSingle.elim
  | param name => exact .param name x accepted
  | wildcard => exact .wildcard x accepted

theorem accepts_of_literalKey {text : String} (notWildcard : text ≠ wildcardKey)
    (notMulti : text ≠ multiKey) (atKey : s.key = text) (accepted : Accepts rest path) :
    Accepts (s :: rest) (text :: path) := by
  rw [Segment.eq_literal_of_key notWildcard notMulti atKey]
  exact .literal text accepted

theorem accepts_of_wildcardKey (wellFormed : s.WellFormed) (atKey : s.key = wildcardKey)
    (x : String) (accepted : Accepts rest path) : Accepts (s :: rest) (x :: path) :=
  .single (Segment.isSingle_of_key wellFormed atKey) x accepted

theorem accepts_of_multiKey (wellFormed : s.WellFormed) (atKey : s.key = multiKey)
    (run : List String) (accepted : Accepts rest path) : Accepts (s :: rest) (run ++ path) := by
  rw [Segment.eq_multi_of_key wellFormed atKey]
  exact .multi run accepted

theorem exists_last (notEmpty : path ≠ []) : ∃ front last, path = front ++ [last] :=
  ⟨path.dropLast, path.getLast notEmpty, (List.dropLast_concat_getLast notEmpty).symm⟩

/-- Two patterns that accept a path each accept the paths one behind the other. -/
theorem Accepts.append {front back : List Segment} {path tail : List String}
    (first : Accepts front path) (second : Accepts back tail) :
    Accepts (front ++ back) (path ++ tail) := by
  induction first with
  | done => exact second
  | literal text _ ih => exact .literal text ih
  | param name x _ ih => exact .param name x ih
  | wildcard x _ ih => exact .wildcard x ih
  | multi run _ ih =>
    rw [List.append_assoc]
    exact .multi run ih

end StubServer.Route
