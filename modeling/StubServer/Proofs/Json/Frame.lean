import StubServer.Proofs.Json.Edits
import StubServer.Proofs.Json.Pointers

/-! # What an edit leaves alone

An edit changes one container, the one that all tokens but the last lead to, and puts it back in its place
(`addAt_concat`, `removeAt_concat`).  `ChangedAt` says what this means for the whole value: on the way to
the container only the member or the item on the way is another, and its siblings are the same, in the same
order.  `Added` and `Removed` say what happens in the container itself.
-/

namespace StubServer.Json

variable {j j' c c' value : Json} {token last : String} {tokens front rest : List String}

/-! ## A change in one place -/

/-- The second value is the first with a change at the place that the tokens name, and nowhere else. -/
inductive ChangedAt (change : Json → Json → Prop) : List String → Json → Json → Prop
  | here {j j' : Json} (changed : change j j') : ChangedAt change [] j j'
  | member {before after : Members} {name : String} {c c' : Json} {rest : List String}
      (first : ∀ row ∈ before, row.1 ≠ name) (inMember : ChangedAt change rest c c') :
      ChangedAt change (name :: rest) (.obj (before ++ (name, c) :: after))
        (.obj (before ++ (name, c') :: after))
  | item {before after : List Json} {c c' : Json} {rest : List String}
      (fits : before.length < 2 ^ 64) (inItem : ChangedAt change rest c c') :
      ChangedAt change (toString before.length :: rest) (.arr (before ++ c :: after))
        (.arr (before ++ c' :: after))

/-- Changes the value that the tokens lead to, where there is one. -/
def modifyAt (change : Json → Json) : List String → Json → Json
  | [], j => change j
  | token :: rest, j =>
    match j.child? token with
    | none => j
    | some c => j.setChild token (modifyAt change rest c)

theorem modifyAt_of_child {change : Json → Json} (child : j.Child token c) :
    modifyAt change (token :: rest) j = j.setChild token (modifyAt change rest c) := by
  rw [modifyAt, child?_eq_some_iff.2 child]

/-- An item stands between those before and those behind it. -/
theorem exists_item {items : List Json} {i : Nat} (found : items[i]? = some c) :
    ∃ before after, items = before ++ c :: after ∧ before.length = i := by
  obtain ⟨inRange, isItem⟩ := List.getElem?_eq_some_iff.1 found
  refine ⟨items.take i, items.drop (i + 1), ?_, List.length_take_of_le inRange.le⟩
  rw [← isItem, ← List.drop_eq_getElem_cons inRange, List.take_append_drop]

theorem setChild_item {before after : List Json} (fits : before.length < 2 ^ 64) :
    (arr (before ++ c :: after)).setChild (toString before.length) c' =
      .arr (before ++ c' :: after) := by
  rw [setChild, plainIndex?_eq_some_iff.2 ⟨rfl, fits⟩]
  simp

theorem setChild_member {before after : Members} (first : ∀ row ∈ before, row.1 ≠ token) :
    (obj (before ++ (token, c) :: after)).setChild token c' = .obj (before ++ (token, c') :: after) := by
  rw [setChild, Table.replace_of_first first]

/-- A change below a child is one below the value, when the changed child is put back. -/
theorem ChangedAt.setChild {change : Json → Json → Prop} (child : j.Child token c)
    (inChild : ChangedAt change rest c c') : ChangedAt change (token :: rest) j (j.setChild token c') := by
  cases child with
  | member found =>
    obtain ⟨before, after, rfl, first⟩ := Table.exists_first found
    rw [setChild_member first]
    exact .member first inChild
  | item found fits =>
    obtain ⟨before, after, rfl, rfl⟩ := exists_item found
    rw [setChild_item fits]
    exact .item fits inChild

/-- Putting back the child that is there changes nothing. -/
theorem setChild_self (child : j.Child token c) : j.setChild token c = j := by
  cases child with
  | member found =>
    obtain ⟨before, after, rfl, first⟩ := Table.exists_first found
    exact setChild_member first
  | item found fits =>
    obtain ⟨before, after, rfl, rfl⟩ := exists_item found
    exact setChild_item fits

theorem changedAt_modifyAt {change : Json → Json → Prop} {f : Json → Json} (leads : j.LeadsTo tokens c)
    (changed : change c (f c)) : ChangedAt change tokens j (modifyAt f tokens j) := by
  induction leads with
  | here j => exact .here changed
  | step child _ ih =>
    rw [modifyAt_of_child child]
    exact .setChild child (ih changed)

/-- Where the tokens lead nowhere, or to a value that the change keeps, all stays as it is. -/
theorem modifyAt_eq_self {f : Json → Json} (kept : ∀ c, j.LeadsTo tokens c → f c = c) :
    modifyAt f tokens j = j := by
  induction tokens generalizing j with
  | nil => exact kept j (.here j)
  | cons token rest ih =>
    cases isChild : j.child? token with
    | none => rw [modifyAt, isChild]
    | some c =>
      have child := child?_eq_some_iff.1 isChild
      rw [modifyAt_of_child child, ih fun target further => kept target (.step child further)]
      exact setChild_self child

/-- The changed place is where it was before. -/
theorem ChangedAt.leadsTo {change : Json → Json → Prop} (changedAt : ChangedAt change tokens j j') :
    ∃ c c', j.LeadsTo tokens c ∧ j'.LeadsTo tokens c' ∧ change c c' := by
  induction changedAt with
  | here changed => exact ⟨_, _, .here _, .here _, changed⟩
  | member first _ ih =>
    obtain ⟨c, c', leads, leads', changed⟩ := ih
    exact ⟨c, c', .step (.member (Table.get?_of_first first _)) leads,
      .step (.member (Table.get?_of_first first _)) leads', changed⟩
  | item fits _ ih =>
    obtain ⟨c, c', leads, leads', changed⟩ := ih
    exact ⟨c, c', .step (.item (by simp) fits) leads, .step (.item (by simp) fits) leads', changed⟩

/-! ## Edits are changes of one container -/

theorem addAt_concat (front : List String) (last : String) (value j : Json) :
    addAt value (front ++ [last]) j =
      (j.resolve? front).bind fun c =>
        (c.addHere last value).map fun c' => modifyAt (fun _ => c') front j := by
  induction front generalizing j with
  | nil => simp [addAt, resolve?, modifyAt]
  | cons token rest ih =>
    rw [List.cons_append, addAt_cons (by simp), resolve?]
    cases isChild : j.child? token with
    | none => rfl
    | some c =>
      simp only [Option.bind_some, ih, modifyAt, isChild]
      cases c.resolve? rest with
      | none => rfl
      | some container => simp only [Option.bind_some, Option.map_map, Function.comp_def]

theorem removeAt_concat (front : List String) (last : String) (j : Json) :
    removeAt (front ++ [last]) j = modifyAt (·.removeHere last) front j := by
  induction front generalizing j with
  | nil => rfl
  | cons token rest ih =>
    rw [List.cons_append, removeAt, modifyAt]
    · cases j.child? token with
      | none => rfl
      | some c => simp only [ih]
    · simp

/-- Changes the value that a pointer names, where there is one. -/
def changePointer (change : Json → Json) (path : String) (j : Json) : Json :=
  match pointerTokens? path with
  | some tokens => modifyAt change tokens j
  | none => j

/-- The container of an addition is the one that the pointer written out of all tokens but the last names;
the tokens come back from this text as they are, whatever characters they hold. -/
theorem addAt_pointerText (front : List String) (last : String) (value j : Json) :
    addAt value (front ++ [last]) j =
      (j.pointer? (pointerText front)).bind fun c =>
        (c.addHere last value).map fun c' => j.changePointer (fun _ => c') (pointerText front) := by
  simp only [addAt_concat, pointer?_pointerText, changePointer, pointerTokens?_pointerText]

theorem removeAt_pointerText (front : List String) (last : String) (j : Json) :
    removeAt (front ++ [last]) j = j.changePointer (·.removeHere last) (pointerText front) := by
  simp only [removeAt_concat, changePointer, pointerTokens?_pointerText]

/-! ## In the container -/

/-- The value is added to a container: a member under this name, an item at the end, or an item before
the one that had the index. -/
inductive Added (value : Json) : String → Json → Json → Prop
  | member {members members' : Members} {name : String} (isValue : Table.get? members' name = some value)
      (others : ∀ other, other ≠ name → Table.get? members' other = Table.get? members other) :
      Added value name (.obj members) (.obj members')
  | atEnd (items : List Json) : Added value "-" (.arr items) (.arr (items ++ [value]))
  | item {before after : List Json} {token : String} (index : editIndex? token = some before.length) :
      Added value token (.arr (before ++ after)) (.arr (before ++ value :: after))

/-- The container has a member or an item of this name. -/
inductive Holds : Json → String → Prop
  | member {members : Members} {name : String} (found : (Table.get? members name).isSome) :
      Holds (.obj members) name
  | item {items : List Json} {token : String} {i : Nat} (index : editIndex? token = some i)
      (inRange : i < items.length) : Holds (.arr items) token

/-- A member or an item is taken out of a container that has it. -/
inductive Removed : String → Json → Json → Prop
  | member {members members' : Members} {name : String} (found : (Table.get? members name).isSome)
      (gone : Table.get? members' name = none)
      (others : ∀ other, other ≠ name → Table.get? members' other = Table.get? members other) :
      Removed name (.obj members) (.obj members')
  | item {before after : List Json} {x : Json} {token : String}
      (index : editIndex? token = some before.length) :
      Removed token (.arr (before ++ x :: after)) (.arr (before ++ after))

theorem insertIdx_append {α : Type} (before after : List α) (x : α) :
    (before ++ after).insertIdx before.length x = before ++ x :: after := by
  induction before with
  | nil => exact List.insertIdx_zero
  | cons y before ih => rw [List.cons_append, List.length_cons, List.insertIdx_succ_cons, ih]; rfl

theorem added_of_addHere (added : c.addHere token value = some c') : Added value token c c' := by
  cases c with
  | obj members =>
    cases added
    refine .member ?_ fun other distinct => ?_
    · rw [Table.get?_insert, if_pos rfl]
    · rw [Table.get?_insert, if_neg (Ne.symm distinct)]
  | arr items =>
    -- first `-` is asked for, then the index, and last whether it is in range
    rw [addHere] at added
    split at added
    · next isEnd =>
      subst isEnd
      cases added
      exact .atEnd items
    · split at added
      · next i index =>
        split at added
        · next inRange =>
          cases added
          obtain ⟨before, after, rfl, rfl⟩ : ∃ before after, items = before ++ after ∧
              before.length = i :=
            ⟨_, _, (List.take_append_drop i items).symm, List.length_take_of_le inRange⟩
          rw [insertIdx_append]
          exact .item index
        · cases added
      · cases added
  | _ => cases added

theorem removed_of_holds (holds : c.Holds token) : Removed token c (c.removeHere token) := by
  cases holds with
  | member found =>
    refine .member found ?_ fun other distinct => ?_
    · rw [Table.get?_erase, if_pos rfl]
    · rw [Table.get?_erase, if_neg (Ne.symm distinct)]
  | item index inRange =>
    obtain ⟨x, found⟩ : ∃ x, _ = some x := ⟨_, List.getElem?_eq_getElem inRange⟩
    obtain ⟨before, after, rfl, rfl⟩ := exists_item found
    rw [removeHere, index]
    dsimp only
    rw [List.eraseIdx_append_of_length_le le_rfl, Nat.sub_self]
    exact .item index

theorem removeHere_of_not_holds (missing : ¬ c.Holds token) : c.removeHere token = c := by
  cases c with
  | obj members =>
    have notFound : Table.get? members token = none := by
      rw [← Option.not_isSome_iff_eq_none]
      exact fun found => missing (.member found)
    rw [removeHere, Table.erase_of_missing notFound]
  | arr items =>
    rw [removeHere]
    split
    · next i index =>
      rw [List.eraseIdx_of_length_le (by
        by_contra inRange
        exact missing (.item index (not_le.1 inRange)))]
    · rfl
  | _ => rfl

end StubServer.Json
