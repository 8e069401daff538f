import StubServer.Proofs.Text.Pieces
import StubServer.Route.Pattern

/-! # The text of a path

`joinPath` writes segments down as a path.  Reading the path again gives them back, if none of them
holds a slash (`splitPath_joinPath`); only the single empty segment has no text of its own, for the
bare slash has no segments at all.  Conversely every path with a leading slash is written again from its
segments (`joinPath_splitPath`).
-/

namespace StubServer

namespace Route

/-- The segments behind a leading slash, with slashes between them. -/
def joinPath (segments : List String) : String := "/" ++ String.intercalate "/" segments

theorem slash_notMem_of_mem_splitPath {path piece : String} (inPath : piece ∈ splitPath path) :
    '/' ∉ piece.toList := by
  obtain ⟨cs, inChars, rfl⟩ := List.mem_map.1 inPath
  rw [String.toList_ofList]
  exact splitPathChars_noSlash _ cs inChars

theorem splitPathChars_ne_blank (cs : List Char) : splitPathChars cs ≠ [[]] := by
  unfold splitPathChars
  extract_lets inner
  split
  · simp
  · next notBare =>
    intro single
    have isNil : inner = [] := calc
      inner = ['/'].intercalate (inner.splitOn '/') := (List.intercalate_splitOn '/').symm
      _ = ['/'].intercalate [[]] := by rw [← Text.splitChars_eq_splitOn, single]
      _ = [] := rfl
    exact notBare (List.isEmpty_iff.2 isNil)

/-- No path has the single empty segment, since the bare slash has none. -/
theorem splitPath_ne_blank (path : String) : splitPath path ≠ [""] := by
  intro single
  have pieces := congrArg (List.map String.toList) single
  rw [splitPath, List.map_map, show String.toList ∘ String.ofList = id from funext fun _ => String.toList_ofList,
    List.map_id] at pieces
  exact splitPathChars_ne_blank path.toList pieces

theorem intercalate_ne_nil {segments : List String} (notEmpty : segments ≠ [])
    (notBlank : segments ≠ [""]) : (String.intercalate "/" segments).toList ≠ [] := by
  match segments with
  | [] => exact absurd rfl notEmpty
  | [s] => simpa using notBlank
  | s :: next :: others => simp [String.toList_intercalate]

theorem splitChars_intercalate {segments : List String} (noSlash : ∀ s ∈ segments, '/' ∉ s.toList)
    (notEmpty : segments ≠ []) :
    (Text.splitChars '/' (String.intercalate "/" segments).toList).map String.ofList = segments := by
  have asWritten : (segments.map String.toList).map String.ofList = segments := by
    simp [Function.comp_def]
  have apart : ∀ cs ∈ segments.map String.toList, '/' ∉ cs := by simpa using noSlash
  rw [String.toList_intercalate, Text.splitChars_eq_splitOn, show "/".toList = ['/'] from rfl,
    List.splitOn_intercalate '/' apart (by simpa using notEmpty)]
  exact asWritten

theorem splitPath_joinPath {segments : List String} (noSlash : ∀ s ∈ segments, '/' ∉ s.toList)
    (notBlank : segments ≠ [""]) : splitPath (joinPath segments) = segments := by
  rw [splitPath, joinPath, String.toList_append, show "/".toList = ['/'] from rfl,
    List.singleton_append, splitPathChars]
  by_cases bare : segments = []
  · subst bare
    rfl
  rw [if_neg (by simpa using intercalate_ne_nil bare notBlank)]
  exact splitChars_intercalate noSlash bare

theorem joinPath_splitPath {path : String} (begins : path.toList.head? = some '/') :
    joinPath (splitPath path) = path := by
  obtain ⟨inner, isPath⟩ : ∃ inner, path.toList = '/' :: inner := List.head?_eq_some_iff.1 begins
  have asWritten : (String.intercalate "/" (splitPath path)).toList = inner := by
    rw [String.toList_intercalate, splitPath, isPath, splitPathChars]
    simp only [List.map_map, Function.comp_def, String.toList_ofList, List.map_id']
    split
    · next bare => rw [List.isEmpty_iff.1 bare, List.intercalate_nil]
    · rw [Text.splitChars_eq_splitOn]
      exact List.intercalate_splitOn '/'
  rw [← String.toList_inj, joinPath, String.toList_append, asWritten, isPath]
  rfl

end Route

end StubServer
