import StubServer.Http.Request
import StubServer.Proofs.Http.QueryText

/-! # What a query gives

Every query, however it is written, stands for a list of names with values (`pairs`): one for each part that is
not empty, with the escapes read.  Reading the query groups this list by names (`parse_eq`), so that a value
is found under a name exactly if the two are a pair of the list (`exists_value_iff`).
-/

namespace StubServer.Http

namespace Query

/-- The name and the value that a part stands for. -/
def pairOf (part : List Char) : String × String :=
  match Text.splitOnce '=' part with
  | some (name, value) => (decodeChars name, decodeChars value)
  | none => (decodeChars part, "")

def pairs (query : String) : List (String × String) :=
  ((Text.splitChars '&' query.toList).filter fun part => !part.isEmpty).map pairOf

theorem addPart_eq {part : List Char} (notEmpty : ¬part.isEmpty) (params : Params) :
    addPart params part = addValue params (pairOf part).1 (pairOf part).2 := by
  rw [addPart, if_neg notEmpty, pairOf]
  cases Text.splitOnce '=' part with
  | none => rfl
  | some sides => rfl

theorem parse_eq (query : String) :
    parse query = (pairs query).foldl (fun params p => addValue params p.1 p.2) [] := by
  rw [parse, pairs, List.foldl_map, foldl_addPart_filter]
  refine List.foldl_ext _ _ _ fun params part inParts => ?_
  exact addPart_eq (by simpa using (List.mem_filter.1 inParts).2) params

theorem mem_valuesOf {given : List (String × String)} {name value : String} :
    value ∈ valuesOf given name ↔ (name, value) ∈ given := by
  simp [valuesOf]

theorem exists_value_iff {query name value : String} :
    (∃ values, Table.get? (parse query) name = some values ∧ value ∈ values) ↔
      (name, value) ∈ pairs query := by
  rw [parse_eq, get?_foldl_addValue, ← mem_valuesOf]
  by_cases occurs : name ∈ (pairs query).map (·.1)
  · simp [occurs]
  · simp [occurs, valuesOf_eq_nil occurs]

end Query

/-- All names with the values that the query of a request gives them. -/
def Request.pairs (r : Request) : List (String × String) := Query.pairs (r.query.getD "")

end StubServer.Http
