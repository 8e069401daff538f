import Mathlib.Data.List.Forall2
import Mathlib.Data.List.Induction
import StubServer.Http.Query
import StubServer.Proofs.Text.Escaping
import StubServer.Proofs.Text.Pieces

/-! # Writing queries

A query is written with its names and values escaped, so that no `&` and no `=` is left in them and each
part is read as the pair that it was written for (`Written.addPart`).  Reading the whole groups the values by
their names, in the order in which they were written (`get?_foldl_addValue`), and passes over empty parts.
-/

namespace StubServer.Http.Query

open Text.Percent (Escaped exists_escaped)
open Text.Utf8 (encode)

variable {pair : String × String} {pairs : List (String × String)} {part : List Char}
  {parts : List (List Char)}

/-! ## Parts -/

/-- The part `name=value`, with both sides escaped. -/
def Written (pair : String × String) (part : List Char) : Prop :=
  ∃ name value, part = name ++ '=' :: value ∧ Escaped (encode pair.1) name ∧
    Escaped (encode pair.2) value

theorem exists_written (pair : String × String) : ∃ part, Written pair part := by
  obtain ⟨name, isName⟩ := exists_escaped (encode pair.1)
  obtain ⟨value, isValue⟩ := exists_escaped (encode pair.2)
  exact ⟨_, name, value, rfl, isName, isValue⟩

theorem Written.notMem (written : Written pair part) : '&' ∉ part := by
  obtain ⟨name, value, rfl, isName, isValue⟩ := written
  have inName : '&' ∉ name := isName.notMem (by decide) (by decide)
  have inValue : '&' ∉ value := isValue.notMem (by decide) (by decide)
  simp [inName, inValue]

theorem Written.addPart (written : Written pair part) (params : Params) :
    Query.addPart params part = addValue params pair.1 pair.2 := by
  obtain ⟨name, value, rfl, isName, isValue⟩ := written
  have notEmpty : ¬(name ++ '=' :: value).isEmpty := by simp
  rw [Query.addPart, if_neg notEmpty, Text.splitOnce_append (isName.notMem (by decide) (by decide))]
  dsimp only
  rw [decodeChars, decodeChars, isName.decode, isValue.decode]

theorem foldl_addPart (written : List.Forall₂ Written pairs parts) (params : Params) :
    parts.foldl addPart params = pairs.foldl (fun params p => addValue params p.1 p.2) params := by
  induction written generalizing params with
  | nil => rfl
  | cons first _ ih => rw [List.foldl_cons, List.foldl_cons, first.addPart, ih]

/-- Empty parts leave no trace. -/
theorem foldl_addPart_filter (parts : List (List Char)) (params : Params) :
    parts.foldl addPart params = (parts.filter fun part => !part.isEmpty).foldl addPart params := by
  rw [List.foldl_filter]
  congr 1
  funext params part
  cases part <;> rfl

theorem notMem_of_written (written : List.Forall₂ Written pairs parts) :
    ∀ part ∈ parts, '&' ∉ part := by
  induction written with
  | nil => simp
  | cons first _ ih => exact List.forall_mem_cons.2 ⟨first.notMem, ih⟩

/-! ## Values by name -/

/-- The values that are given to a name, in order. -/
def valuesOf (pairs : List (String × String)) (name : String) : List String :=
  (pairs.filter (·.1 = name)).map (·.2)

theorem valuesOf_concat (pairs : List (String × String)) (name value other : String) :
    valuesOf (pairs ++ [(name, value)]) other =
      if name = other then valuesOf pairs other ++ [value] else valuesOf pairs other := by
  by_cases same : name = other <;> simp [valuesOf, same]

theorem valuesOf_eq_nil {name : String}
    (missing : name ∉ pairs.map (·.1)) : valuesOf pairs name = [] := by
  rw [valuesOf, List.map_eq_nil_iff, List.filter_eq_nil_iff]
  intro pair inPairs same
  exact missing (List.mem_map.2 ⟨pair, inPairs, of_decide_eq_true same⟩)

/-- Adding pairs one after the other groups their values by name. -/
theorem get?_foldl_addValue (pairs : List (String × String)) (name : String) :
    Table.get? (pairs.foldl (fun params p => addValue params p.1 p.2) []) name =
      if name ∈ pairs.map (·.1) then some (valuesOf pairs name) else none := by
  -- from the end: the last value goes behind those that its name has by then
  induction pairs using List.reverseRecOn with
  | nil => rfl
  | append_singleton before last ih =>
    obtain ⟨n, v⟩ := last
    rw [List.foldl_append, List.foldl_cons, List.foldl_nil, addValue, Table.update, Table.get?_insert,
      List.map_append, List.map_singleton, valuesOf_concat]
    by_cases same : n = name
    · subst same
      rw [if_pos rfl, if_pos (List.mem_append_right _ (List.mem_singleton_self n)), if_pos rfl, ih]
      by_cases earlier : n ∈ before.map (·.1)
      · rw [if_pos earlier, Option.getD_some]
      · rw [if_neg earlier, Option.getD_none, valuesOf_eq_nil earlier]
    · have notLast : name ∈ before.map (·.1) ++ [n] ↔ name ∈ before.map (·.1) := by
        simp only [List.mem_append, List.mem_singleton, Ne.symm same, or_false]
      rw [if_neg same, if_neg same, ih]
      simp only [notLast]

theorem exists_parts (pairs : List (String × String)) : ∃ parts, List.Forall₂ Written pairs parts := by
  induction pairs with
  | nil => exact ⟨[], .nil⟩
  | cons pair pairs ih =>
    obtain ⟨parts, written⟩ := ih
    obtain ⟨part, first⟩ := exists_written pair
    exact ⟨part :: parts, .cons first written⟩

/-- Reading the parts of a query that are joined by `&`. -/
theorem parse_intercalate (apart : ∀ part ∈ parts, '&' ∉ part) :
    parse (String.ofList (['&'].intercalate parts)) = parts.foldl addPart [] := by
  rw [parse, String.toList_ofList, Text.splitChars_eq_splitOn]
  by_cases none : parts = []
  · subst none
    rfl
  · rw [List.splitOn_intercalate '&' apart none]

/-- Every list of pairs can be written down, and however it is, with empty parts at any place too, reading
it gives each name that occurs its values in their order, and no other name any. -/
theorem parse_written (pairs : List (String × String)) :
    (∃ parts, List.Forall₂ Written pairs parts) ∧
    ∀ parts : List (List Char), List.Forall₂ Written pairs (parts.filter fun part => !part.isEmpty) →
      ∀ name, Table.get? (parse (String.ofList (['&'].intercalate parts))) name =
        if name ∈ pairs.map (·.1) then some (valuesOf pairs name) else none := by
  refine ⟨exists_parts pairs, fun parts written name => ?_⟩
  have apart : ∀ part ∈ parts, '&' ∉ part := by
    intro part inParts
    by_cases empty : part.isEmpty
    · simp [List.isEmpty_iff.1 empty]
    · exact notMem_of_written written part (List.mem_filter.2 ⟨inParts, by simpa using empty⟩)
  rw [parse_intercalate apart, foldl_addPart_filter, foldl_addPart written, get?_foldl_addValue]

/-- A name with a blank has two values, and the empty name one of two bytes.  The digits are written in small
and in capital letters, and there are empty parts at both ends and in between. -/
theorem parse_written_repeated :
    let pairs := [("a b", "1"), ("", "é"), ("a b", "/")]
    let parts := ["", "a%20b=1", "=%c3%A9", "", "a%20b=%2f", ""].map String.toList
    List.Forall₂ Written pairs (parts.filter fun part => !part.isEmpty) ∧
      String.ofList (['&'].intercalate parts) = "&a%20b=1&=%c3%A9&&a%20b=%2f&" ∧
      Table.get? (parse "&a%20b=1&=%c3%A9&&a%20b=%2f&") "a b" = some ["1", "/"] := by
  intro pairs parts
  have blank : Escaped [97, 32, 98] "a%20b".toList :=
    .plain (c := 'a') rfl (.escape (by decide) rfl rfl (.plain (c := 'b') rfl .nil))
  have one : Escaped [49] "1".toList := .plain (c := '1') rfl .nil
  have accented : Escaped [195, 169] "%c3%A9".toList :=
    .escape (by decide) rfl rfl (.escape (by decide) rfl rfl .nil)
  have slash : Escaped [47] "%2f".toList := .escape (by decide) rfl rfl .nil
  have written : List.Forall₂ Written pairs (parts.filter fun part => !part.isEmpty) :=
    .cons ⟨_, _, rfl, blank, one⟩
      (.cons ⟨_, _, rfl, .nil, accented⟩ (.cons ⟨_, _, rfl, blank, slash⟩ .nil))
  have text : String.ofList (['&'].intercalate parts) = "&a%20b=1&=%c3%A9&&a%20b=%2f&" := by decide
  refine ⟨written, text, ?_⟩
  rw [← text]
  exact (parse_written pairs).2 parts written "a b"

end StubServer.Http.Query
