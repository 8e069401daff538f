import StubServer.Proofs.Config.Validation
import StubServer.Proofs.History.Log
import StubServer.Proofs.Server.AdminPaths
import StubServer.Proofs.Server.Reload

/-! # Reading the history of an endpoint

Two admin routes show what a history holds under an id, which is a segment of their paths.  A path is
split at every slash, so no segment holds one, and an answer shows nothing of ids that are no
segments of the path (`answerBelow_congr`).  Validation asks of an id only that it is not empty;
hence of the endpoints that are served, the routes show the history of those whose ids are free of
slashes, and of no others (`readable_iff`).
-/

namespace StubServer

namespace Admin

/-! ## Answers -/

section Answers

variable {start method : String} {below ids : List String} {h h' : History}

theorem mem_of_find? {route : Route} (isRoute : Route.find? method below = some route) {id : String}
    (asks : route = .matchRecords id ∨ route = .matchCount id) : id ∈ below := by
  unfold Route.find? at isRoute
  split at isRoute <;> cases isRoute <;> simp_all

/-- An answer shows of a history what it holds under the segments of the path, and its mismatches. -/
theorem answerBelow_congr (records : ∀ id ∈ below, h.matchRecords id = h'.matchRecords id)
    (counts : ∀ id ∈ below, h.matchCount id = h'.matchCount id)
    (mismatched : h.mismatched = h'.mismatched) :
    (answerBelow method below ids (.held h)).1 = (answerBelow method below ids (.held h')).1 := by
  unfold answerBelow
  cases isRoute : Route.find? method below with
  | none => rfl
  | some route =>
    cases route with
    | matchRecords id =>
      simp only [Route.answer, showPart, History.Store.read,
        records id (mem_of_find? isRoute (.inl rfl))]
    | matchCount id =>
      simp only [Route.answer, showPart, History.Store.read,
        counts id (mem_of_find? isRoute (.inr rfl))]
    | mismatchRecords =>
      simp only [Route.answer, showPart, History.Store.read, History.mismatchRecords, mismatched]
    | mismatchCount =>
      simp only [Route.answer, showPart, History.Store.read, History.mismatchCount, mismatched]
    | _ => rfl

/-- An answer shows nothing of an id that holds a slash. -/
theorem respond?_addMatchCount {id : String} (hasSlash : '/' ∈ id.toList) (n : Int64) (path : String) :
    (respond? start method path ids (.held (h.addMatchCounts [(id, n)]))).map (·.1) =
      (respond? start method path ids (.held h)).map (·.1) := by
  rw [respond?_eq, respond?_eq, Option.map_map, Option.map_map]
  refine Option.map_congr fun below isBelow => ?_
  have notId (other : String) (inPath : other ∈ below) : id ≠ other := by
    obtain ⟨rest, _, rfl⟩ := Option.map_eq_some_iff.1 isBelow
    rintro rfl
    exact notMem_of_mem_segments inPath hasSlash
  refine answerBelow_congr (fun other _ => h.matchRecords_addMatchCounts other _)
    (fun other inPath => ?_) rfl
  rw [h.matchCount_addMatchCounts, History.sumOf]
  simp [notId other inPath]

end Answers

/-! ## Routes of an id -/

/-- Both routes for the history of an endpoint show what is held under its id. -/
structure Readable (start : String) (ids : List String) (id : String) : Prop where
  records : ∀ h : History, respond? start "GET" (start ++ "/matches/" ++ id) ids (.held h) =
    some (.json 200 (.arr ((h.matchRecords id).map (·.toJson))), .held h)
  count : ∀ h : History, respond? start "GET" (start ++ "/matches/" ++ id ++ "/count") ids (.held h) =
    some (.json 200 (.object [("count", .ofInt (h.matchCount id).toInt)]), .held h)

theorem readable_of_isSegment {start id : String} (somePrefix : start ≠ "") (isSegment : IsSegment id)
    (ids : List String) : Readable start ids id where
  records h := by
    have isBelow : below? start (start ++ "/matches/" ++ id) = some ["matches", id] := by
      have spelled : start ++ "/matches/" ++ id =
          start ++ "/" ++ String.intercalate "/" ["matches", id] := by
        simp [← String.toList_inj]
      rw [spelled]
      exact below?_append (by simp) (by simpa using ⟨by decide, isSegment⟩) somePrefix
    rw [respond?_eq, isBelow]
    rfl
  count h := by
    have isBelow : below? start (start ++ "/matches/" ++ id ++ "/count") =
        some ["matches", id, "count"] := by
      have spelled : start ++ "/matches/" ++ id ++ "/count" =
          start ++ "/" ++ String.intercalate "/" ["matches", id, "count"] := by
        simp [← String.toList_inj]
      rw [spelled]
      exact below?_append (by simp) (by simpa using ⟨by decide, isSegment, by decide⟩) somePrefix
    rw [respond?_eq, isBelow]
    rfl

/-- No route tells an empty history from one that has counted a match under an id with a slash. -/
theorem Readable.noSlash {start id : String} {ids : List String} (readable : Readable start ids id) :
    '/' ∉ id.toList := by
  intro hasSlash
  let path := start ++ "/matches/" ++ id ++ "/count"
  let one := (History.empty .default).addMatchCounts [(id, 1)]
  have same : (respond? start "GET" path ids (.held one)).map (·.1) =
      (respond? start "GET" path ids (.held (.empty .default))).map (·.1) :=
    respond?_addMatchCount hasSlash 1 path
  have counted : one.matchCount id = 1 := by
    rw [History.matchCount_addMatchCounts]
    simp [History.sumOf, show (History.empty .default).matchCount id = 0 from rfl]
  have differ : Http.Response.json 200 (.object [("count", .ofInt (1 : Int64).toInt)]) ≠
      .json 200 (.object [("count", .ofInt (0 : Int64).toInt)]) := by
    decide
  rw [readable.count, readable.count, counted] at same
  exact differ (Option.some.inj same)

end Admin

namespace Endpoint

/-- Of the endpoints that are loaded from a checked configuration, the admin routes show the records and
the count of those whose ids hold no slash. -/
theorem readable_iff {start : String} {config : Config} {counter : Nat} {endpoints : List Endpoint}
    (somePrefix : start ≠ "") (valid : config.validate = .ok ())
    (loaded : (load counter config).2 = .ok endpoints) {e : Endpoint} (isServed : e ∈ endpoints) :
    Admin.Readable start (endpoints.map (·.id)) e.id ↔ '/' ∉ e.id.toList := by
  refine ⟨Admin.Readable.noSlash, fun noSlash => ?_⟩
  exact Admin.readable_of_isSegment somePrefix ⟨id_ne_empty valid loaded isServed, noSlash⟩ _

/-- A page with the id `a`, read below a prefix that ends in a slash. -/
theorem readable_page :
    let start := "/__admin/"
    ∀ h : History, Admin.respond? start "GET" "/__admin//matches/a" ["a"] (.held h) =
      some (.json 200 (.arr ((h.matchRecords "a").map (·.toJson))), .held h) := by
  intro start h
  have valid : (onePage "a" "id" "200").validate = .ok () := by cbv
  have loaded : (load 0 (onePage "a" "id" "200")).2 = .ok [page "a" "200"] := by cbv
  exact ((readable_iff (by decide) valid loaded List.mem_cons_self).2 (by decide)).records h

/-- An id with a slash passes validation and is served, and its records are found on no route. -/
theorem not_readable_of_slash :
    let config := onePage "a/b" "id" "200"
    config.validate = .ok () ∧ (load 0 config).2 = .ok [page "a/b" "200"] ∧
      ∀ h : History, Admin.respond? "/__admin" "GET" "/__admin/matches/a/b" ["a/b"] (.held h) =
        some (Admin.notFound, .held h) := by
  refine ⟨by cbv, by cbv, fun h => ?_⟩
  have isBelow : Admin.below? "/__admin" "/__admin/matches/a/b" = some ["matches", "a", "b"] := by decide
  rw [Admin.respond?_eq, isBelow]
  rfl

end Endpoint

end StubServer
