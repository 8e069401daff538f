import Mathlib.Data.List.Induction
import Mathlib.Data.List.Sort
import Mathlib.Data.String.Basic
import StubServer.Table

/-! # The order of tables

The rows of a table ascend by their keys, so that no key has two rows.  Putting a row in keeps the
order (`Ascending.insert`); so every table of given rows is in order (`ascending_ofList`), and rows
that are in order already are the table of themselves (`ofList_of_ascending`).  Tables in order that
give the same values are equal (`Ascending.ext`).
-/

namespace StubServer.Table

universe u

variable {α : Type u}

/-- Each key is less than the next. -/
def Ascending (t : Table α) : Prop := t.Pairwise fun a b => a.1 < b.1

theorem ascending_nil : Ascending ([] : Table α) := .nil

theorem mem_insert {t : Table α} {key : String} {value : α} {row : String × α}
    (inTable : row ∈ insert t key value) : row = (key, value) ∨ row ∈ t := by
  induction t with
  | nil => exact .inl (List.mem_singleton.1 inTable)
  | cons first rest ih =>
    obtain ⟨k, v⟩ := first
    simp only [insert] at inTable
    split at inTable
    · rcases List.mem_cons.1 inTable with same | later
      · exact .inl same
      · exact .inr (List.mem_cons_of_mem _ later)
    · split at inTable
      · exact List.mem_cons.1 inTable
      · rcases List.mem_cons.1 inTable with same | later
        · exact .inr (same ▸ List.mem_cons_self ..)
        · exact (ih later).imp_right (List.mem_cons_of_mem _)

theorem Ascending.insert {t : Table α} (ascending : t.Ascending) (key : String) (value : α) :
    (Table.insert t key value).Ascending := by
  induction t with
  | nil => exact List.pairwise_singleton ..
  | cons first rest ih =>
    obtain ⟨k, v⟩ := first
    obtain ⟨least, ascends⟩ := List.pairwise_cons.1 ascending
    simp only [Table.insert]
    split
    · next same =>
      subst same
      exact List.pairwise_cons.2 ⟨least, ascends⟩
    · next differs =>
      split
      · next before =>
        refine List.pairwise_cons.2 ⟨fun row inTable => ?_, ascending⟩
        rcases List.mem_cons.1 inTable with rfl | later
        · exact before
        · exact lt_trans before (least row later)
      · next notBefore =>
        have behind : k < key := lt_of_le_of_ne (not_lt.1 notBefore) (Ne.symm differs)
        refine List.pairwise_cons.2 ⟨fun row inTable => ?_, ih ascends⟩
        rcases mem_insert inTable with rfl | inRest
        · exact behind
        · exact least row inRest

theorem Ascending.update {t : Table α} (ascending : t.Ascending) (key : String) (absent : α)
    (f : α → α) : (Table.update t key absent f).Ascending :=
  ascending.insert key _

/-! ## Rows and look-ups -/

theorem Ascending.mem_iff {t : Table α} (ascending : t.Ascending) {key : String} {value : α} :
    (key, value) ∈ t ↔ get? t key = some value := by
  induction t with
  | nil => simp [get?]
  | cons first rest ih =>
    obtain ⟨k, v⟩ := first
    obtain ⟨least, ascends⟩ := List.pairwise_cons.1 ascending
    rw [List.mem_cons, ih ascends, get?]
    by_cases same : k = key
    · -- no later row has the key of the first
      subst same
      have notLater : get? rest k ≠ some value := fun later =>
        absurd (least _ ((ih ascends).2 later)) (lt_irrefl k)
      simp [notLater, eq_comm]
    · simp [same, Ne.symm same]

/-- Tables in order that give the same value for every key are equal. -/
theorem Ascending.ext {t t' : Table α} (ascending : t.Ascending) (ascending' : t'.Ascending)
    (same : ∀ key, get? t key = get? t' key) : t = t' := by
  have asymm : Std.Antisymm fun a b : String × α => a.1 < b.1 :=
    ⟨fun _ _ before after => absurd before (lt_asymm after)⟩
  have irrefl : Std.Irrefl fun a b : String × α => a.1 < b.1 := ⟨fun row => lt_irrefl row.1⟩
  refine List.Pairwise.eq_of_mem_iff ascending ascending' fun row => ?_
  obtain ⟨key, value⟩ := row
  rw [ascending.mem_iff, ascending'.mem_iff, same]

/-! ## Tables of given rows -/

theorem ofList_concat (rows : List (String × α)) (row : String × α) :
    ofList (rows ++ [row]) = insert (ofList rows) row.1 row.2 := by
  rw [ofList, List.foldl_append]
  rfl

theorem insert_of_last {t : Table α} {key : String} (last : ∀ row ∈ t, row.1 < key) (value : α) :
    insert t key value = t ++ [(key, value)] := by
  induction t with
  | nil => rfl
  | cons first rest ih =>
    obtain ⟨k, v⟩ := first
    obtain ⟨before, later⟩ := List.forall_mem_cons.1 last
    rw [insert, if_neg (ne_of_gt before), if_neg (not_lt_of_gt before), ih later]
    rfl

theorem insert_of_first {t : Table α} {key : String} (first : ∀ row ∈ t, key < row.1) (value : α) :
    insert t key value = (key, value) :: t := by
  cases t with
  | nil => rfl
  | cons row rest =>
    obtain ⟨k, v⟩ := row
    have before : key < k := first _ List.mem_cons_self
    rw [insert, if_neg (ne_of_lt before), if_pos before]

/-- Rows that are in order already stay as they are. -/
theorem ofList_of_ascending {t : Table α} (ascending : t.Ascending) : ofList t = t := by
  induction t using List.reverseRecOn with
  | nil => rfl
  | append_singleton before last ih =>
    obtain ⟨ordered, _, isLast⟩ := List.pairwise_append.1 ascending
    rw [ofList_concat, ih ordered, insert_of_last fun row inTable => isLast row inTable _ (by simp)]

theorem ascending_ofList (rows : List (String × α)) : (ofList rows).Ascending := by
  induction rows using List.reverseRecOn with
  | nil => exact ascending_nil
  | append_singleton before last ih =>
    rw [ofList_concat]
    exact ih.insert _ _

theorem mem_ofList {rows : List (String × α)} {row : String × α} (inTable : row ∈ ofList rows) :
    row ∈ rows := by
  induction rows using List.reverseRecOn with
  | nil => exact inTable
  | append_singleton before last ih =>
    rw [ofList_concat] at inTable
    rcases mem_insert inTable with same | earlier
    · exact List.mem_append_right _ (List.mem_singleton.2 same)
    · exact List.mem_append_left _ (ih earlier)

/-- Of the rows with a key, the last one counts. -/
theorem get?_ofList (rows : List (String × α)) (key : String) :
    get? (ofList rows) key = get? rows.reverse key := by
  induction rows using List.reverseRecOn with
  | nil => rfl
  | append_singleton before last ih =>
    rw [ofList_concat, get?_insert, ih, List.reverse_append, List.reverse_singleton, List.singleton_append]
    rfl

theorem contains_iff {t : Table α} {key : String} : contains t key = true ↔ key ∈ t.map (·.1) := by
  induction t with
  | nil => simp [contains, get?]
  | cons row rest ih =>
    obtain ⟨k, v⟩ := row
    rw [List.map_cons, List.mem_cons, ← ih, contains, contains, get?]
    by_cases same : k = key
    · simp [same]
    · simp [same, Ne.symm same]

theorem contains_ofList_iff {rows : List (String × α)} {key : String} :
    contains (ofList rows) key = true ↔ key ∈ rows.map (·.1) := by
  rw [contains, get?_ofList, ← contains, contains_iff, List.map_reverse, List.mem_reverse]

/-- A table that gives each listed key what `f` makes of it. -/
theorem get?_ofList_map (keys : List String) (f : String → α) (key : String) :
    get? (ofList (keys.map fun k => (k, f k))) key = if key ∈ keys then some (f key) else none := by
  induction keys using List.reverseRecOn with
  | nil => rfl
  | append_singleton before last ih =>
    rw [List.map_append, List.map_singleton, ofList_concat, get?_insert, ih]
    by_cases same : last = key
    · simp [same]
    · simp [same, Ne.symm same]

end StubServer.Table
