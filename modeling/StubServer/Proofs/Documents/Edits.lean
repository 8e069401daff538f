import StubServer.Proofs.Documents.FailedEdits
import StubServer.Proofs.Json.Frame

/-! # Edits of one document

Adding to the document under a key and taking something out of it are edits of this document: `Json.addIn` and
`Json.removeIn`.  At a pointer that is written out of its tokens, an edit changes the container that the tokens
but the last lead to, if this has a place for the last, and nothing else (`edits_at`).  What has been added is
found again under the same pointer, unless it went into an array and its index is not written plainly
(`pointer?_of_added`).
-/

namespace StubServer

namespace Json

variable {doc value changed : Json} {path last : String} {front tokens : List String}

theorem addIn_of_some (isRead : pointerTokens? path = some tokens)
    (added : addAt value tokens doc = some changed) : doc.addIn path value = (changed, .ok ()) := by
  simp only [addIn, isRead, Option.bind_some, added]

theorem addIn_of_none (isRead : pointerTokens? path = some tokens)
    (failed : addAt value tokens doc = none) :
    doc.addIn path value = (doc, .error (.invalidPointer path)) := by
  simp only [addIn, isRead, Option.bind_some, failed]

/-- What was added successfully was added at the tokens of the pointer. -/
theorem exists_addAt (added : (doc.addIn path value).2 = .ok ()) :
    ∃ tokens, pointerTokens? path = some tokens ∧
      addAt value tokens doc = some (doc.addIn path value).1 := by
  cases isRead : pointerTokens? path with
  | none => simp [addIn, isRead] at added
  | some tokens =>
    refine ⟨tokens, rfl, ?_⟩
    cases result : addAt value tokens doc with
    | none => rw [addIn_of_none isRead result] at added; cases added
    | some changed => rw [addIn_of_some isRead result]

/-- An addition changes the container that the tokens but the last lead to. -/
theorem changedAt_of_addAt (added : addAt value (front ++ [last]) doc = some changed) :
    ChangedAt (Added value last) front doc changed := by
  rw [addAt_concat, Option.bind_eq_some_iff] at added
  obtain ⟨container, isContainer, added⟩ := added
  obtain ⟨container', addedHere, rfl⟩ := Option.map_eq_some_iff.1 added
  exact changedAt_modifyAt (resolve?_eq_some_iff.1 isContainer) (added_of_addHere addedHere)

/-- An edit at the pointer of the tokens `front ++ [last]`.  The pointer of `front` names what these tokens
lead to.  Adding succeeds exactly if this is an object, or an array that has the place `last`; it then adds
the value there, and leaves the document as it is otherwise.  Taking out always succeeds; it takes out what
is there, and leaves the document as it is if nothing is. -/
theorem edits_at (doc value : Json) (front : List String) (last : String) :
    let path := pointerText (front ++ [last])
    (∀ container, doc.pointer? (pointerText front) = some container ↔ doc.LeadsTo front container) ∧
    ((doc.addIn path value).2 = .ok () ↔
      ∃ container, doc.LeadsTo front container ∧ container.Takes last) ∧
    ((doc.addIn path value).2 = .ok () →
      ChangedAt (Added value last) front doc (doc.addIn path value).1) ∧
    ((doc.addIn path value).2 ≠ .ok () → (doc.addIn path value).1 = doc) ∧
    (doc.removeIn path).2 = .ok () ∧
    ((∃ container, doc.LeadsTo front container ∧ container.Holds last) →
      ChangedAt (Removed last) front doc (doc.removeIn path).1) ∧
    ((¬ ∃ container, doc.LeadsTo front container ∧ container.Holds last) →
      (doc.removeIn path).1 = doc) := by
  intro path
  have isRead : pointerTokens? path = some (front ++ [last]) := pointerTokens?_pointerText _
  have removed : doc.removeIn path = (modifyAt (·.removeHere last) front doc, .ok ()) := by
    rw [removeIn, isRead, ← removeAt_concat]
  have succeeds : (doc.addIn path value).2 = .ok () ↔ (addAt value (front ++ [last]) doc).isSome := by
    cases result : addAt value (front ++ [last]) doc with
    | none => simp [addIn_of_none isRead result]
    | some changed => simp [addIn_of_some isRead result]
  refine ⟨fun container => ?_, ?_, fun added => ?_, fun failed => ?_, by rw [removed], ?_,
    fun missing => ?_⟩
  · rw [pointer?_pointerText, resolve?_eq_some_iff]
  · rw [succeeds, isSome_addAt_iff]
    simp only [resolve?_eq_some_iff]
  · obtain ⟨tokens, isRead', isChanged⟩ := exists_addAt added
    cases isRead.symm.trans isRead'
    exact changedAt_of_addAt isChanged
  · rw [Ne, succeeds, Option.not_isSome_iff_eq_none] at failed
    rw [addIn_of_none isRead failed]
  · rintro ⟨container, leads, holds⟩
    rw [removed]
    exact changedAt_modifyAt leads (removed_of_holds holds)
  · rw [removed]
    exact modifyAt_eq_self fun c leads => removeHere_of_not_holds fun holds => missing ⟨c, leads, holds⟩

/-- The tokens of `/a~1b/1` lead to an array below a name with a slash.  A value goes in before the item
at 1, and the item at 1 is what is taken out. -/
theorem edits_at_escaped :
    let doc : Json := .obj [("a/b", .arr [.ofNat 1, .ofNat 3])]
    pointerText ["a/b", "1"] = "/a~1b/1" ∧
      ChangedAt (Added (.ofNat 2) "1") ["a/b"] doc (doc.addIn "/a~1b/1" (.ofNat 2)).1 ∧
      ChangedAt (Removed "1") ["a/b"] doc (doc.removeIn "/a~1b/1").1 := by
  intro doc
  have isText : pointerText (["a/b"] ++ ["1"]) = "/a~1b/1" := by decide
  have leads : doc.LeadsTo ["a/b"] (.arr [.ofNat 1, .ofNat 3]) := .step (.member rfl) (.here _)
  have index : editIndex? "1" = some 1 := by decide
  obtain ⟨_, adds, added, _, _, removed, _⟩ := edits_at doc (.ofNat 2) ["a/b"] "1"
  rw [isText] at adds added removed
  exact ⟨isText, added (adds.2 ⟨_, leads, .item index (by decide)⟩),
    removed ⟨_, leads, .item index (by decide)⟩⟩

/-! ## Finding what has been added -/

/-- The token is no other spelling of an index, where an index is asked for. -/
def NamesPlainly : Json → String → Prop
  | .arr _, token => ∃ i : Nat, token = toString i
  | _, _ => True

/-- A pointer that leads to an array ends with the plain text of an index. -/
def PlainIn (doc : Json) (path : String) : Prop :=
  ∀ front last container, pointerTokens? path = some (front ++ [last]) →
    doc.LeadsTo front container → container.NamesPlainly last

theorem child?_of_added {container container' : Json} (added : Added value last container container') :
    (container'.child? last = some value ↔ container.NamesPlainly last) ∧
      (¬ container.NamesPlainly last → container'.child? last = none) := by
  cases added with
  | member isValue _ => exact ⟨iff_of_true isValue trivial, fun other => absurd trivial other⟩
  | atEnd items =>
    have missing : (arr (items ++ [value])).child? "-" = none := rfl
    refine ⟨?_, fun _ => missing⟩
    rw [missing]
    refine iff_of_false nofun ?_
    rintro ⟨n, isNumber⟩
    exact dash_ne_toString n isNumber
  | @item before after _ index =>
    by_cases plain : ∃ n : Nat, last = toString n
    · have isItem : (arr (before ++ value :: after)).child? last = some value := by
        rw [child?, plainIndex?_of_editIndex? index plain]
        simp
      exact ⟨iff_of_true isItem plain, fun other => absurd plain other⟩
    · have missing : (arr (before ++ value :: after)).child? last = none := by
        rw [child?, plainIndex?_eq_none plain]
        rfl
      exact ⟨iff_of_false (by simp [missing]) plain, fun _ => missing⟩

/-- What has been added successfully is found under the same pointer, and nothing else is, exactly if no
index of an array at its end is spelled in another way; it is not found at all under such a spelling. -/
theorem pointer?_of_added (doc value : Json) {path : String}
    (added : (doc.addIn path value).2 = .ok ()) :
    ((doc.addIn path value).1.pointer? path = some value ↔ doc.PlainIn path) ∧
      (¬ doc.PlainIn path → (doc.addIn path value).1.pointer? path = none) := by
  obtain ⟨tokens, isRead, isChanged⟩ := exists_addAt added
  rw [pointer?, isRead, Option.bind_some]
  rcases tokens.eq_nil_or_concat with rfl | ⟨front, last, rfl⟩
  · -- the value has taken the place of the document, and there is no last token
    have plain : doc.PlainIn path := by
      intro front last _ isRead' _
      simp [isRead] at isRead'
    rw [addAt, Option.some.injEq] at isChanged
    rw [← isChanged]
    exact ⟨iff_of_true rfl plain, fun other => absurd plain other⟩
  · rw [List.concat_eq_append] at isRead isChanged ⊢
    obtain ⟨container, container', leads, leads', addedHere⟩ := (changedAt_of_addAt isChanged).leadsTo
    have atLast : (doc.addIn path value).1.resolve? (front ++ [last]) = container'.child? last := by
      rw [resolve?_append, resolve?_eq_some_iff.2 leads', Option.bind_some, resolve?]
      exact Option.bind_fun_some _
    have isPlain : doc.PlainIn path ↔ container.NamesPlainly last := by
      refine ⟨fun plain => plain front last container isRead leads, ?_⟩
      intro plain front' last' other isRead' leadsOther
      obtain ⟨rfl, same⟩ := List.append_inj' (Option.some.inj (isRead.symm.trans isRead')) rfl
      cases same
      have sameContainer := (resolve?_eq_some_iff.2 leads).symm.trans (resolve?_eq_some_iff.2 leadsOther)
      cases sameContainer
      exact plain
    rw [atLast, isPlain]
    exact child?_of_added addedHere

/-- A value that went in before the item at 1 is found at 1. -/
theorem pointer?_of_added_plain :
    let doc : Json := .obj [("a/b", .arr [.ofNat 1, .ofNat 3])]
    (doc.addIn "/a~1b/1" (.ofNat 2)).2 = .ok () ∧
      (doc.addIn "/a~1b/1" (.ofNat 2)).1.pointer? "/a~1b/1" = some (.ofNat 2) := by
  intro doc
  have isRead : pointerTokens? "/a~1b/1" = some (["a/b"] ++ ["1"]) := by decide
  have added : (doc.addIn "/a~1b/1" (.ofNat 2)).2 = .ok () := by rw [addIn_of_some isRead rfl]
  refine ⟨added, (pointer?_of_added doc _ added).1.2 fun front last container isRead' _ => ?_⟩
  obtain ⟨-, same⟩ := List.append_inj' (Option.some.inj (isRead.symm.trans isRead')) rfl
  cases same
  cases container with
  | arr items => exact ⟨1, by decide⟩
  | _ => trivial

/-- With a leading zero the value goes in all the same, and is not found. -/
theorem pointer?_of_added_padded :
    let doc : Json := .arr []
    (doc.addIn "/00" (.ofNat 1)).2 = .ok () ∧ pointerTokens? "/00" = some ["00"] ∧ "00" ≠ "-" ∧
      (doc.addIn "/00" (.ofNat 1)).1 = .arr [.ofNat 1] ∧
      (doc.addIn "/00" (.ofNat 1)).1.pointer? "/00" ≠ some (.ofNat 1) := by
  intro doc
  have isRead : pointerTokens? "/00" = some ["00"] := by decide
  have added : doc.addIn "/00" (.ofNat 1) = (.arr [.ofNat 1], .ok ()) := addIn_of_some isRead rfl
  have notFound : (arr [ofNat 1]).pointer? "/00" = none := by
    rw [pointer?, isRead]
    rfl
  rw [added]
  exact ⟨rfl, isRead, by decide, rfl, by simp [notFound]⟩

end Json

end StubServer
