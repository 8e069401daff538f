import Mathlib.Data.List.DropRight
import StubServer.Proofs.Route.PathText
import StubServer.Proofs.Server.Reception

/-! # Paths of admin routes

A path is for the admin routes when it is the prefix without the slashes at its end, or goes on with a
slash there (`isSome_below?_iff`).  The slashes behind the prefix and at the end of the path do not
count, those between the segments do: which paths spell a list of segments is `Spells`, and a path
is read as these segments exactly when it spells them (`below?_eq_some_iff`).
-/

namespace StubServer

theorem Text.dropStart?_eq_some_iff {start cs rest : List Char} :
    dropStart? start cs = some rest ↔ cs = start ++ rest := by
  induction start generalizing cs with
  | nil => simp [dropStart?]
  | cons p ps ih =>
    cases cs with
    | nil => simp [dropStart?]
    | cons c cs =>
      rw [dropStart?]
      split
      · next same => rw [ih, same, List.cons_append, List.cons_inj_right]
      · next differ => simp [Ne.symm differ]

namespace Admin

/-! ## Slashes at the ends -/

def slashes (n : Nat) : List Char := List.replicate n '/'

theorem eq_slashes {cs : List Char} (all : ∀ c ∈ cs, isSlash c = true) : cs = slashes cs.length :=
  List.eq_replicate_iff.2 ⟨rfl, fun c inList => by simpa [isSlash] using all c inList⟩

theorem dropWhile_slashes (n : Nat) {cs : List Char} (front : cs.head? ≠ some '/') :
    (slashes n ++ cs).dropWhile isSlash = cs := by
  induction n with
  | succ n ih => exact ih
  | zero =>
    cases cs with
    | nil => rfl
    | cons c cs => exact List.dropWhile_cons_of_neg (by simpa [isSlash] using front)

theorem dropEndWhile_slashes (n : Nat) {cs : List Char} (back : cs.getLast? ≠ some '/') :
    Text.dropEndWhile isSlash (cs ++ slashes n) = cs := by
  have turned : (cs ++ slashes n).reverse = slashes n ++ cs.reverse := by
    rw [List.reverse_append, slashes, List.reverse_replicate]
  rw [Text.dropEndWhile, turned, dropWhile_slashes n (by rwa [List.head?_reverse]),
    List.reverse_reverse]

/-- Stripping takes away the slashes around a text that has none of its own at its ends. -/
theorem strip_slashes (a b : Nat) {cs : List Char} (front : cs.head? ≠ some '/')
    (back : cs.getLast? ≠ some '/') :
    Text.stripWhile isSlash (slashes a ++ (cs ++ slashes b)) = cs := by
  rw [Text.stripWhile]
  by_cases blank : cs = []
  · -- there is nothing but slashes, and those in front take the others along
    subst blank
    have all : ∀ c ∈ slashes a ++ ([] ++ slashes b), isSlash c = true := by
      simp [slashes, isSlash]
    rw [List.dropWhile_eq_nil_iff.2 all]
    rfl
  · rw [dropWhile_slashes a (by rwa [List.head?_append_of_ne_nil _ blank]),
      dropEndWhile_slashes b back]

theorem exists_dropEndWhile (cs : List Char) :
    ∃ n, cs = Text.dropEndWhile isSlash cs ++ slashes n := by
  have ends : cs.rtakeWhile isSlash = slashes (cs.rtakeWhile isSlash).length :=
    eq_slashes fun _ inList => List.mem_rtakeWhile_imp inList
  exact ⟨_, ends ▸ List.rdropWhile_append_rtakeWhile.symm⟩

/-- Nothing but slashes is stripped. -/
theorem exists_strip (cs : List Char) :
    ∃ a b, cs = slashes a ++ (Text.stripWhile isSlash cs ++ slashes b) := by
  have starts : cs.takeWhile isSlash = slashes (cs.takeWhile isSlash).length :=
    eq_slashes fun _ inList => List.mem_takeWhile_imp inList
  obtain ⟨b, ends⟩ := exists_dropEndWhile (cs.dropWhile isSlash)
  refine ⟨(cs.takeWhile isSlash).length, b, ?_⟩
  rw [← starts, Text.stripWhile, ← ends, List.takeWhile_append_dropWhile]

/-! ## Below the prefix -/

/-- The prefix without the slashes at its end. -/
def base (start : String) : String := String.ofList (start.toList.rdropWhile (· == '/'))

theorem toList_base (start : String) :
    (base start).toList = Text.dropEndWhile isSlash start.toList :=
  String.toList_ofList

theorem exists_base (start : String) : ∃ n, start.toList = (base start).toList ++ slashes n := by
  rw [toList_base]
  exact exists_dropEndWhile start.toList

/-- There is a prefix, and the path is the prefix without the slashes at its end or goes on there with
a slash. -/
def IsAdminPath (start path : String) : Prop :=
  start ≠ "" ∧ (path = base start ∨ (base start).toList ++ ['/'] <+: path.toList)

instance (start path : String) : Decidable (IsAdminPath start path) :=
  inferInstanceAs (Decidable (_ ∧ _))

theorem behindPrefix_eq_some_iff {start path rest : List Char} :
    behindPrefix start path = some rest ↔
      start ≠ [] ∧ (path = Text.dropEndWhile isSlash start ∧ rest = [] ∨
        ∃ tail, path = Text.dropEndWhile isSlash start ++ '/' :: tail ∧
          rest = Text.stripWhile isSlash tail) := by
  rw [behindPrefix]
  by_cases noPrefix : start = []
  · simp [noPrefix]
  rw [if_neg (by simpa using noPrefix)]
  simp only [ne_eq, noPrefix, not_false_eq_true, true_and]
  split
  · next isBase =>
    rw [Text.dropStart?_eq_some_iff, List.append_nil] at isBase
    simp [isBase, eq_comm]
  · next tail goesOn =>
    rw [Text.dropStart?_eq_some_iff] at goesOn
    simp [goesOn, eq_comm]
  · next notBase notFurther =>
    refine iff_of_false nofun ?_
    rintro (⟨isBase, -⟩ | ⟨tail, goesOn, -⟩)
    · exact notBase (Text.dropStart?_eq_some_iff.2 (by rw [isBase, List.append_nil]))
    · exact notFurther tail (Text.dropStart?_eq_some_iff.2 goesOn)

/-- The paths that are read as segments behind the prefix are the admin paths. -/
theorem isSome_below?_iff {start path : String} :
    (below? start path).isSome ↔ IsAdminPath start path := by
  have asChars : path = base start ↔ path.toList = Text.dropEndWhile isSlash start.toList := by
    rw [← toList_base, String.toList_inj]
  rw [below?, Option.isSome_map, Option.isSome_iff_exists, IsAdminPath, asChars, toList_base]
  simp only [behindPrefix_eq_some_iff]
  constructor
  · rintro ⟨rest, someStart, ⟨isBase, -⟩ | ⟨tail, goesOn, -⟩⟩
    · exact ⟨by simpa using someStart, .inl isBase⟩
    · exact ⟨by simpa using someStart, .inr ⟨tail, by simp [goesOn]⟩⟩
  · rintro ⟨someStart, isBase | ⟨tail, goesOn⟩⟩
    · exact ⟨[], by simpa using someStart, .inl ⟨isBase, rfl⟩⟩
    · exact ⟨_, by simpa using someStart, .inr ⟨tail, by simp [← goesOn], rfl⟩⟩

example : IsAdminPath "/__admin/" "/__admin" ∧ IsAdminPath "/" "/users" ∧
    ¬ IsAdminPath "/__admin" "/__administrator" ∧ ¬ IsAdminPath "" "/users" := by decide

theorem below?_eq_none_iff {start path : String} :
    below? start path = none ↔ ¬ IsAdminPath start path := by
  rw [← isSome_below?_iff, Option.not_isSome_iff_eq_none]

/-! ## Segments -/

/-- A text that can stand between two slashes by itself. -/
def IsSegment (s : String) : Prop := s ≠ "" ∧ '/' ∉ s.toList

instance (s : String) : Decidable (IsSegment s) := inferInstanceAs (Decidable (_ ∧ _))

/-- Behind the prefix and at least one slash, the path is these segments with a slash between any two;
there may be further slashes at its end. -/
def Spells (start : String) (below : List String) (path : String) : Prop :=
  ∃ a b, path.toList = (base start).toList ++
    '/' :: (slashes a ++ ((String.intercalate "/" below).toList ++ slashes b))

theorem spells_append (start : String) (below : List String) :
    Spells start below (start ++ "/" ++ String.intercalate "/" below) := by
  obtain ⟨n, start_eq⟩ := exists_base start
  refine ⟨n, 0, ?_⟩
  have turned : slashes n ++ ['/'] = '/' :: slashes n := List.replicate_succ'.symm
  rw [String.toList_append, String.toList_append, start_eq, List.append_assoc, List.append_assoc,
    ← List.append_assoc (slashes n), show "/".toList = ['/'] from rfl, turned]
  simp [slashes]

theorem notMem_of_mem_segments {rest : List Char} {s : String} (inList : s ∈ segments rest) :
    '/' ∉ s.toList := by
  rw [segments] at inList
  split at inList
  · cases inList
  · obtain ⟨piece, isPiece, rfl⟩ := List.mem_map.1 inList
    rw [String.toList_ofList]
    exact Route.not_mem_splitChars '/' rest piece isPiece

section Segments

variable {start path : String} {below : List String} (notEmpty : below ≠ [])
  (proper : ∀ s ∈ below, IsSegment s)

include notEmpty proper

theorem intercalate_ne_nil : (String.intercalate "/" below).toList ≠ [] := by
  refine Route.intercalate_ne_nil notEmpty ?_
  rintro rfl
  exact (proper "" List.mem_cons_self).1 rfl

theorem head?_intercalate : (String.intercalate "/" below).toList.head? ≠ some '/' := by
  obtain ⟨s, others, rfl⟩ := List.exists_cons_of_ne_nil notEmpty
  obtain ⟨notBlank, noSlash⟩ := proper s List.mem_cons_self
  have atFront : (String.intercalate "/" (s :: others)).toList.head? = s.toList.head? := by
    have someText : s.toList ≠ [] := by simpa using notBlank
    rw [String.toList_intercalate, List.map_cons]
    cases others with
    | nil => rw [List.map_nil, List.intercalate_singleton]
    | cons t more =>
      rw [List.map_cons, List.intercalate_cons_cons, List.append_assoc,
        List.head?_append_of_ne_nil _ someText]
  rw [atFront]
  exact fun isSlash => noSlash (List.mem_of_head? isSlash)

theorem getLast?_intercalate : (String.intercalate "/" below).toList.getLast? ≠ some '/' := by
  induction below with
  | nil => exact absurd rfl notEmpty
  | cons s others ih =>
    by_cases last : others = []
    · subst last
      rw [String.intercalate_singleton]
      exact fun isSlash => (proper s List.mem_cons_self).2 (List.mem_of_getLast? isSlash)
    · have properBehind : ∀ t ∈ others, IsSegment t := fun t inList =>
        proper t (List.mem_cons_of_mem s inList)
      rw [String.toList_intercalate, List.map_cons,
        List.intercalate_cons_of_ne_nil (by simpa using last), ← String.toList_intercalate,
        List.getLast?_append_of_ne_nil _ (intercalate_ne_nil last properBehind)]
      exact ih last properBehind

theorem segments_eq_iff {rest : List Char} :
    segments rest = below ↔ rest = (String.intercalate "/" below).toList := by
  constructor
  · rintro rfl
    rw [segments] at notEmpty ⊢
    split at notEmpty
    · exact absurd rfl notEmpty
    · next someText =>
      rw [if_neg someText, String.toList_intercalate, List.map_map, Text.splitChars_eq_splitOn]
      simp [Function.comp_def, List.intercalate_splitOn]
  · rintro rfl
    rw [segments, if_neg (by simpa using intercalate_ne_nil notEmpty proper)]
    exact Route.splitChars_intercalate (fun s inList => (proper s inList).2) notEmpty

/-- A path is read as segments exactly when it spells them. -/
theorem below?_eq_some_iff :
    below? start path = some below ↔ start ≠ "" ∧ Spells start below path := by
  rw [below?, Option.map_eq_some_iff, Spells, toList_base]
  simp only [behindPrefix_eq_some_iff, segments_eq_iff notEmpty proper]
  constructor
  · rintro ⟨rest, ⟨someStart, ⟨-, noRest⟩ | ⟨tail, goesOn, isTail⟩⟩, spelled⟩
    · exact absurd (noRest ▸ spelled).symm (intercalate_ne_nil notEmpty proper)
    · obtain ⟨a, b, around⟩ := exists_strip tail
      rw [← isTail, spelled] at around
      exact ⟨by simpa using someStart, a, b, by rw [goesOn, around]⟩
  · rintro ⟨someStart, a, b, spelled⟩
    refine ⟨_, ⟨by simpa using someStart, .inr ⟨_, spelled, ?_⟩⟩, rfl⟩
    exact (strip_slashes a b (head?_intercalate notEmpty proper)
      (getLast?_intercalate notEmpty proper)).symm

theorem below?_append (somePrefix : start ≠ "") :
    below? start (start ++ "/" ++ String.intercalate "/" below) = some below :=
  (below?_eq_some_iff notEmpty proper).2 ⟨somePrefix, spells_append start below⟩

end Segments

end Admin

end StubServer
