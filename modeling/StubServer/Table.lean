/-! # Tables

A table maps texts to values.  Its rows are in ascending order of their keys, so two tables that
were filled in different orders with the same rows are equal.  `get?_insert` and `get?_erase` say
what the two updates do to every look-up; `replace` changes a single row and leaves it at its place.
-/

namespace StubServer

universe u v

abbrev Table (α : Type u) := List (String × α)

namespace Table

variable {α : Type u} {β : Type v}

def get? : Table α → String → Option α
  | [], _ => none
  | (k, v) :: rest, key => if k = key then some v else get? rest key

def contains (t : Table α) (key : String) : Bool := (get? t key).isSome

/-- Puts a row at its place in the order, instead of one with the same key if there is one. -/
def insert : Table α → String → α → Table α
  | [], key, value => [(key, value)]
  | (k, v) :: rest, key, value =>
    if key = k then (key, value) :: rest
    else if key < k then (key, value) :: (k, v) :: rest
    else (k, v) :: insert rest key value

/-- Puts another value in the row of a key, which stays where it is. -/
def replace : Table α → String → α → Table α
  | [], _, _ => []
  | (k, v) :: rest, key, value =>
    if k = key then (k, value) :: rest else (k, v) :: replace rest key value

def erase (t : Table α) (key : String) : Table α := t.filter fun row => row.1 != key

/-- Orders rows that came in any order; of two with one key the later stays. -/
def ofList (rows : List (String × α)) : Table α :=
  rows.foldl (fun t row => insert t row.1 row.2) []

/-- Replaces the value at `key`, taken as `absent` where there is none. -/
def update (t : Table α) (key : String) (absent : α) (f : α → α) : Table α :=
  insert t key (f ((get? t key).getD absent))

theorem get?_insert (t : Table α) (key other : String) (value : α) :
    get? (insert t key value) other = if key = other then some value else get? t other := by
  induction t with
  | nil => simp [insert, get?]
  | cons row rest ih =>
    obtain ⟨k, v⟩ := row
    simp only [insert]
    split
    · next same => subst same; by_cases h : key = other <;> simp [get?, h]
    · split
      · by_cases h : key = other <;> simp [get?, h]
      · next distinct _ =>
        by_cases h : key = other
        · subst h
          simp [get?, ih, Ne.symm distinct]
        · simp [get?, ih, h]

theorem get?_erase (t : Table α) (key other : String) :
    get? (erase t key) other = if key = other then none else get? t other := by
  induction t with
  | nil => simp [erase, get?]
  | cons row rest ih =>
    obtain ⟨k, v⟩ := row
    by_cases hk : k = key
    · subst hk
      have : erase ((k, v) :: rest) k = erase rest k := by simp [erase]
      rw [this, ih]
      by_cases h : k = other <;> simp [get?, h]
    · have : erase ((k, v) :: rest) key = (k, v) :: erase rest key := by simp [erase, hk]
      rw [this]
      by_cases h : key = other
      · subst h; simp [get?, hk, ih]
      · simp [get?, ih, h]

/-- What is found under a key stands in the first row with this key. -/
theorem exists_first {t : Table α} {key : String} {value : α} (found : get? t key = some value) :
    ∃ before after, t = before ++ (key, value) :: after ∧ ∀ row ∈ before, row.1 ≠ key := by
  induction t with
  | nil => cases found
  | cons row rest ih =>
    obtain ⟨k, v⟩ := row
    simp only [get?] at found
    split at found
    · next same =>
      cases found
      exact ⟨[], rest, by rw [same]; rfl, List.forall_mem_nil _⟩
    · next distinct =>
      obtain ⟨before, after, rfl, first⟩ := ih found
      exact ⟨(k, v) :: before, after, rfl, List.forall_mem_cons.2 ⟨distinct, first⟩⟩

theorem get?_of_first {before after : Table α} {key : String} (first : ∀ row ∈ before, row.1 ≠ key)
    (value : α) : get? (before ++ (key, value) :: after) key = some value := by
  induction before with
  | nil => simp [get?]
  | cons row rest ih =>
    obtain ⟨distinct, later⟩ := List.forall_mem_cons.1 first
    rw [List.cons_append, get?, if_neg distinct, ih later]

theorem replace_of_first {before after : Table α} {key : String} (first : ∀ row ∈ before, row.1 ≠ key)
    (old value : α) :
    replace (before ++ (key, old) :: after) key value = before ++ (key, value) :: after := by
  induction before with
  | nil => simp [replace]
  | cons row rest ih =>
    obtain ⟨distinct, later⟩ := List.forall_mem_cons.1 first
    rw [List.cons_append, replace, if_neg distinct, ih later]
    rfl

theorem erase_of_missing {t : Table α} {key : String} (missing : get? t key = none) :
    erase t key = t := by
  induction t with
  | nil => rfl
  | cons row rest ih =>
    obtain ⟨k, v⟩ := row
    simp only [get?] at missing
    split at missing
    · cases missing
    · next distinct =>
      rw [erase, List.filter_cons_of_pos (by simpa using distinct)]
      exact congrArg _ (ih missing)

/-- Putting a row in where there was none is undone by taking it out. -/
theorem erase_insert {t : Table α} {key : String} (missing : get? t key = none) (value : α) :
    erase (insert t key value) key = t := by
  induction t with
  | nil => simp [insert, erase]
  | cons row rest ih =>
    obtain ⟨k, v⟩ := row
    have kept : erase ((k, v) :: rest) key = (k, v) :: rest := erase_of_missing missing
    simp only [get?] at missing
    split at missing
    · cases missing
    · next distinct =>
      rw [insert, if_neg (Ne.symm distinct)]
      split
      · rw [erase, List.filter_cons_of_neg (by simp)]
        exact kept
      · rw [erase, List.filter_cons_of_pos (by simpa using distinct)]
        exact congrArg _ (ih missing)

end Table

end StubServer
