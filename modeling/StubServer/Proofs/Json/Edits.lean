import StubServer.Json.Pointer

/-! # Where a value can be added

An edit follows all tokens but the last to a container, and needs of this container a place under the
last (`Takes`).  Nothing else can keep it from adding a value: each token on the way has to lead on, and
what they lead to has to take the value there (`isSome_addAt_iff`).
-/

namespace StubServer.Json

/-- The container has a place for a value under the token: an object under every name, an array at its
end, in front of each of its items and behind the last. -/
inductive Takes : Json → String → Prop
  | member (members : List (String × Json)) (name : String) : Takes (.obj members) name
  | atEnd (items : List Json) : Takes (.arr items) "-"
  | item {items : List Json} {token : String} {i : Nat} (index : editIndex? token = some i)
      (inRange : i ≤ items.length) : Takes (.arr items) token

variable {token last : String} {value : Json}

theorem isSome_addHere_iff {j : Json} : (j.addHere token value).isSome ↔ j.Takes token := by
  cases j with
  | obj members => exact ⟨fun _ => .member members token, fun _ => rfl⟩
  | arr items =>
    by_cases atEnd : token = "-"
    · subst atEnd
      exact ⟨fun _ => .atEnd items, fun _ => rfl⟩
    simp only [addHere, if_neg atEnd]
    constructor
    · intro added
      split at added
      · next i index =>
        split at added
        · next inRange => exact .item index inRange
        · cases added
      · cases added
    · rintro (_ | _ | ⟨index, inRange⟩)
      · exact absurd rfl atEnd
      · simp only [index, if_pos inRange, Option.isSome_some]
  | _ => exact ⟨nofun, nofun⟩

/-- An edit below a member or an item is an edit of what is there. -/
theorem addAt_cons {rest : List String} (notLast : rest ≠ []) (j : Json) :
    addAt value (token :: rest) j =
      (j.child? token).bind fun c => (addAt value rest c).map fun c => j.setChild token c := by
  cases rest with
  | nil => exact absurd rfl notLast
  | cons next rest =>
    rw [addAt]
    · cases j.child? token <;> rfl
    · simp

theorem isSome_addAt_iff {front : List String} {j : Json} :
    (addAt value (front ++ [last]) j).isSome ↔
      ∃ container, j.resolve? front = some container ∧ container.Takes last := by
  induction front generalizing j with
  | nil =>
    rw [List.nil_append, addAt, isSome_addHere_iff]
    simp [resolve?]
  | cons token rest ih =>
    rw [List.cons_append, addAt_cons (by simp), resolve?]
    cases j.child? token with
    | none => simp
    | some c => simpa using ih

end StubServer.Json
