import StubServer.Proofs.Documents.Edits

/-! # Taking out what has been added

An addition and the removal at the same pointer change the same container, one after the other
(`modifyAt_modifyAt`).  So the removal undoes the addition when it does so in this container, and there the
two read the last token alike: it does unless the value took the place of a member, or went behind the last
item by `-`, which names no item to take out (`removeHere_of_added_iff`).
-/

namespace StubServer

namespace Json

variable {j c c' value : Json} {token path : String} {tokens : List String}

/-! ## Two changes in one place -/

/-- What is put in the place of a child is the child afterwards. -/
theorem child?_setChild (child : j.Child token c) : (j.setChild token c').child? token = some c' := by
  cases child with
  | member found =>
    obtain ⟨before, after, rfl, first⟩ := Table.exists_first found
    rw [setChild_member first]
    exact Table.get?_of_first first c'
  | item found fits =>
    obtain ⟨before, after, rfl, rfl⟩ := exists_item found
    rw [setChild_item fits]
    exact child?_eq_some_iff.2 (.item (by simp) fits)

theorem setChild_setChild (child : j.Child token c) (first second : Json) :
    (j.setChild token first).setChild token second = j.setChild token second := by
  cases child with
  | member found =>
    obtain ⟨before, after, rfl, isFirst⟩ := Table.exists_first found
    simp only [setChild_member isFirst]
  | item found fits =>
    obtain ⟨before, after, rfl, rfl⟩ := exists_item found
    simp only [setChild_item fits]

theorem modifyAt_modifyAt (f g : Json → Json) (tokens : List String) (j : Json) :
    modifyAt f tokens (modifyAt g tokens j) = modifyAt (fun c => f (g c)) tokens j := by
  induction tokens generalizing j with
  | nil => rfl
  | cons token rest ih =>
    cases isChild : j.child? token with
    | none => simp only [modifyAt, isChild]
    | some c =>
      have child := child?_eq_some_iff.1 isChild
      rw [modifyAt_of_child child, modifyAt_of_child child,
        modifyAt_of_child (child?_eq_some_iff.1 (child?_setChild child)), ih, setChild_setChild child]

/-- Another value in a place leaves the whole as it was only if it is the value that was there. -/
theorem modifyAt_eq_self_iff (leads : j.LeadsTo tokens c) :
    modifyAt (fun _ => c') tokens j = j ↔ c' = c := by
  constructor
  · intro same
    have changed : ChangedAt (fun _ after => after = c') tokens j (modifyAt (fun _ => c') tokens j) :=
      changedAt_modifyAt leads rfl
    -- the same tokens lead to both values, and to one place only
    obtain ⟨_, after, _, leads', isNew⟩ := changed.leadsTo
    rw [same, ← resolve?_eq_some_iff, resolve?_eq_some_iff.2 leads, Option.some.injEq] at leads'
    rw [← isNew, ← leads']
  · rintro rfl
    refine modifyAt_eq_self fun other leads' => ?_
    rw [← resolve?_eq_some_iff, resolve?_eq_some_iff.2 leads, Option.some.injEq] at leads'
    exact leads'

/-! ## In the container -/

/-- The token names a place of its own for a value that goes into the container: a member that an object
does not have yet, or an index of an array. -/
inductive OffersNew : Json → String → Prop
  | member {members : Members} {name : String} (missing : Table.get? members name = none) :
      OffersNew (.obj members) name
  | item (items : List Json) {token : String} (notEnd : token ≠ "-") : OffersNew (.arr items) token

theorem removeHere_of_added_iff (added : c.addHere token value = some c') :
    c'.removeHere token = c ↔ c.OffersNew token := by
  cases c with
  | obj members =>
    cases added
    rw [removeHere]
    constructor
    · intro same
      refine .member ?_
      rw [← Json.obj.inj same, Table.get?_erase, if_pos rfl]
    · rintro ⟨missing⟩
      rw [Table.erase_insert missing]
  | arr items =>
    rw [addHere] at added
    split at added
    · next isEnd =>
      -- `-` is no index, so nothing is taken out again
      subst isEnd
      cases added
      have kept : (arr (items ++ [value])).removeHere "-" = arr (items ++ [value]) := rfl
      rw [kept]
      refine iff_of_false (by simp) ?_
      rintro ⟨⟩
      contradiction
    · next notEnd =>
      split at added
      · next i index =>
        split at added
        · cases added
          rw [removeHere, index]
          exact iff_of_true (congrArg _ (List.eraseIdx_insertIdx_self value)) (.item items notEnd)
        · cases added
      · cases added
  | _ => cases added

/-! ## In the document -/

/-- The pointer has tokens, and the last one names a place of its own in the container that the others
lead to. -/
def OffersNewAt (doc : Json) (path : String) : Prop :=
  ∃ front last container, pointerTokens? path = some (front ++ [last]) ∧
    doc.LeadsTo front container ∧ container.OffersNew last

theorem exists_token (notRoot : path ≠ "") (isRead : pointerTokens? path = some tokens) :
    ∃ front last, tokens = front ++ [last] := by
  rcases tokens.eq_nil_or_concat with rfl | ⟨front, last, rfl⟩
  · unfold pointerTokens? at isRead
    split at isRead
    · next bare => exact absurd (String.toList_eq_nil_iff.1 bare) notRoot
    · simp [Text.splitChars_eq_splitOn] at isRead
    · cases isRead
  · exact ⟨front, last, List.concat_eq_append⟩

/-- After a value has been added, taking it out at the same pointer succeeds and gives the document back as
it was, exactly if the value had a place of its own: it did not replace a member, and it did not go to the
end of an array by `-`. -/
theorem removeIn_of_added_iff (doc value : Json) (notRoot : path ≠ "")
    (added : (doc.addIn path value).2 = .ok ()) :
    (doc.addIn path value).1.removeIn path = (doc, .ok ()) ↔ doc.OffersNewAt path := by
  obtain ⟨tokens, isRead, isChanged⟩ := exists_addAt added
  obtain ⟨front, last, rfl⟩ := exists_token notRoot isRead
  rw [addAt_concat, Option.bind_eq_some_iff] at isChanged
  obtain ⟨container, isContainer, isChanged⟩ := isChanged
  obtain ⟨container', addedHere, isDocument⟩ := Option.map_eq_some_iff.1 isChanged
  have leads := resolve?_eq_some_iff.1 isContainer
  have removed : (doc.addIn path value).1.removeIn path =
      (modifyAt (fun _ => container'.removeHere last) front doc, .ok ()) := by
    rw [removeIn, isRead, ← isDocument]
    dsimp only
    rw [removeAt_concat, modifyAt_modifyAt]
  have isNew : doc.OffersNewAt path ↔ container.OffersNew last := by
    refine ⟨?_, fun new => ⟨front, last, container, isRead, leads, new⟩⟩
    rintro ⟨front', last', other, isRead', leads', new⟩
    obtain ⟨rfl, same⟩ := List.append_inj' (Option.some.inj (isRead.symm.trans isRead')) rfl
    cases same
    cases isContainer.symm.trans (resolve?_eq_some_iff.2 leads')
    exact new
  rw [removed, isNew, ← removeHere_of_added_iff addedHere, ← modifyAt_eq_self_iff leads]
  simp

/-- A value that went behind the last item of an array, below a name with a slash and by an index with a
plus sign and a zero in front. -/
theorem removeIn_of_added_behind :
    let doc : Json := .obj [("a/b", .arr [.ofNat 1, .ofNat 3])]
    let path := "/a~1b/+02"
    path ≠ "" ∧ (doc.addIn path (.ofNat 2)).2 = .ok () ∧ doc.OffersNewAt path ∧
      (doc.addIn path (.ofNat 2)).1.removeIn path = (doc, .ok ()) := by
  intro doc path
  have isRead : pointerTokens? path = some (["a/b"] ++ ["+02"]) := by decide
  have notRoot : path ≠ "" := by decide
  have added : (doc.addIn path (.ofNat 2)).2 = .ok () := by rw [addIn_of_some isRead rfl]
  have new : doc.OffersNewAt path :=
    ⟨["a/b"], "+02", .arr [.ofNat 1, .ofNat 3], isRead, .step (.member rfl) (.here _), .item _ (by decide)⟩
  exact ⟨notRoot, added, new, (removeIn_of_added_iff doc _ notRoot added).2 new⟩

end Json

end StubServer
