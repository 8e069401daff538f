import StubServer.Documents
import StubServer.Proofs.Json.Edits

/-! # Edits that fail

Adding and taking out are edits of a document: they name a key and a place below it.  An edit fails for
its pointer alone, which cannot be read or, when something is to be added, leads to no place in the
document (`add_eq_ok_iff`, `remove_eq_ok_iff`).  It then leaves every document as it was, with one
exception: adding to a key without a document makes an empty one first, and that one stays
(`get_of_failed_edit`).
-/

namespace StubServer

/-- A value can be added to the document where the pointer says. -/
def Json.HasPlace (doc : Json) (path : String) : Prop :=
  ∃ tokens, pointerTokens? path = some tokens ∧
    ∀ front last, tokens = front ++ [last] →
      ∃ container, doc.resolve? front = some container ∧ container.Takes last

theorem Json.hasPlace_iff {doc : Json} {path : String} (value : Json) :
    doc.HasPlace path ↔ ((pointerTokens? path).bind fun tokens => addAt value tokens doc).isSome := by
  cases isRead : pointerTokens? path with
  | none => simp [HasPlace, isRead]
  | some tokens =>
    rw [Option.bind_some]
    rcases tokens.eq_nil_or_concat with rfl | ⟨front, last, rfl⟩
    · -- without tokens the value takes the place of all
      simp [HasPlace, isRead, addAt]
    · rw [List.concat_eq_append] at isRead ⊢
      rw [isSome_addAt_iff]
      constructor
      · rintro ⟨_, same, reaches⟩
        cases isRead.symm.trans same
        exact reaches front last rfl
      · intro reached
        refine ⟨_, isRead, fun front' last' split => ?_⟩
        obtain ⟨rfl, same⟩ := List.append_inj' split rfl
        cases same
        exact reached

/-! ## Edits of one document -/

namespace Json

variable {doc value : Json} {path : String} {cause : DocumentError}

theorem addIn_eq_ok_iff : (doc.addIn path value).2 = .ok () ↔ doc.HasPlace path := by
  rw [hasPlace_iff value, addIn]
  split
  · next changed => simp [changed]
  · next unchanged => simp [unchanged]

theorem addIn_of_failed (failed : (doc.addIn path value).2 = .error cause) :
    doc.addIn path value = (doc, .error (.invalidPointer path)) := by
  unfold addIn at failed ⊢
  split at failed
  · cases failed
  · rfl

theorem removeIn_eq_ok_iff : (doc.removeIn path).2 = .ok () ↔ (pointerTokens? path).isSome := by
  unfold removeIn
  cases pointerTokens? path <;> simp

theorem removeIn_of_failed (failed : (doc.removeIn path).2 = .error cause) :
    doc.removeIn path = (doc, .error (.invalidPointer path)) := by
  unfold removeIn at failed ⊢
  split at failed
  · cases failed
  · rfl

end Json

namespace Documents

variable {docs : Documents} {key path value : String}

/-! ## Edits in the store -/

/-- The document that is added to, which is an empty object where there is none. -/
def docOrEmpty (docs : Documents) (key : String) : Json := (docs.get key).getD (.obj [])

theorem add_eq_ok_iff : (docs.add key path value).2 = .ok () ↔ (docs.docOrEmpty key).HasPlace path :=
  Json.addIn_eq_ok_iff

/-- An addition that fails puts back the document that it was to change. -/
theorem add_of_failed {cause : DocumentError} (failed : (docs.add key path value).2 = .error cause) :
    docs.add key path value =
      (Table.insert docs key (docs.docOrEmpty key), .error (.invalidPointer path)) := by
  have unchanged : (docs.docOrEmpty key).addIn path (readValue value) =
      (docs.docOrEmpty key, .error (.invalidPointer path)) := Json.addIn_of_failed failed
  rw [add, ← docOrEmpty, unchanged]

theorem not_hasPlace_of_add_failed {cause : DocumentError}
    (failed : (docs.add key path value).2 = .error cause) :
    ¬ (docs.docOrEmpty key).HasPlace path := by
  intro hasPlace
  have added : (docs.add key path value).2 = .ok () := add_eq_ok_iff.2 hasPlace
  cases added.symm.trans failed

/-- What is put back is what was there, if anything was. -/
theorem get_add_of_failed {cause : DocumentError}
    (failed : (docs.add key path value).2 = .error cause) (other : String) :
    (docs.add key path value).1.get other =
      if other = key ∧ (docs.get key).isNone then some (.obj []) else docs.get other := by
  have putBack : (docs.add key path value).1.get other =
      if key = other then some (docs.docOrEmpty key) else docs.get other := by
    rw [add_of_failed failed]
    exact Table.get?_insert ..
  rw [putBack]
  by_cases isKey : other = key
  · subst isKey
    rw [if_pos rfl, docOrEmpty]
    cases docs.get other <;> simp
  · have notBoth : ¬ (other = key ∧ (docs.get key).isNone) := fun both => isKey both.1
    rw [if_neg (Ne.symm isKey), if_neg notBoth]

theorem remove_eq_ok_iff :
    (docs.remove key path).2 = .ok () ↔
      docs.get key = none ∨ (Json.pointerTokens? path).isSome := by
  unfold remove
  cases docs.get key with
  | none => simp
  | some doc => simpa using Json.removeIn_eq_ok_iff

/-- A removal that fails puts back the document that it was to change, and there is one. -/
theorem remove_of_failed {cause : DocumentError} (failed : (docs.remove key path).2 = .error cause) :
    ∃ doc, docs.get key = some doc ∧
      docs.remove key path = (Table.insert docs key doc, .error (.invalidPointer path)) := by
  cases found : docs.get key with
  | none => simp [remove, found] at failed
  | some doc =>
    simp only [remove, found] at failed ⊢
    exact ⟨doc, rfl, by rw [Json.removeIn_of_failed failed]⟩

theorem get_remove_of_failed {cause : DocumentError}
    (failed : (docs.remove key path).2 = .error cause) (other : String) :
    (docs.remove key path).1.get other = docs.get other := by
  obtain ⟨doc, found, unchanged⟩ := remove_of_failed failed
  rw [unchanged]
  refine (Table.get?_insert ..).trans ?_
  split
  · next isKey => exact isKey ▸ found.symm
  · rfl

theorem not_hasPlace_of_remove_failed {cause : DocumentError}
    (failed : (docs.remove key path).2 = .error cause) : ¬ (docs.docOrEmpty key).HasPlace path := by
  rintro ⟨tokens, isRead, _⟩
  have readable : (Json.pointerTokens? path).isSome := by rw [isRead]; rfl
  have removed : (docs.remove key path).2 = .ok () := remove_eq_ok_iff.2 (.inr readable)
  cases removed.symm.trans failed

end Documents

/-! ## What a failure leaves -/

namespace DocumentRequest

/-- The request is to change the document at `key`, at the place `path` in it. -/
inductive Edits (key path : String) : DocumentRequest → Prop
  | add (value : String) : Edits key path (.add key path value)
  | remove : Edits key path (.remove key path)

/-- The request is to add something where there is no document yet. -/
def startsDocument (docs : Documents) : DocumentRequest → Bool
  | .add key _ _ => (docs.get key).isNone
  | _ => false

end DocumentRequest

namespace DocumentStore

variable {docs : Documents} {key path : String} {request : DocumentRequest} {cause : DocumentError}

theorem run_add (value : String) : run (.add key path value) (.held docs) =
    (.held (docs.add key path value).1, (docs.add key path value).2.map fun _ => none) := rfl

theorem run_remove : run (.remove key path) (.held docs) =
    (.held (docs.remove key path).1, (docs.remove key path).2.map fun _ => none) := rfl

theorem error_of_map {α β : Type} {f : α → β} {result : Except DocumentError α}
    (failed : result.map f = .error cause) : result = .error cause := by
  cases result with
  | error other => exact congrArg Except.error (Except.error.inj failed)
  | ok a => cases failed

/-- Where a document was missing, an empty one can be seen. -/
theorem unchanged_iff {after : Documents} {starts : Bool} (missing : starts = true → docs.get key = none)
    (left : ∀ other, after.get other =
      if other = key ∧ starts then some (.obj []) else docs.get other) :
    (∀ other, after.get other = docs.get other) ↔ starts = false := by
  cases starts with
  | false => simpa using left
  | true =>
    refine iff_of_false (fun same => ?_) (by decide)
    have changed := (left key).symm.trans (same key)
    rw [if_pos ⟨rfl, rfl⟩, missing rfl] at changed
    cases changed

/-- An edit that fails does so for its pointer, which names no place in the document.  The other keys
keep their documents, and so does the key of the edit; but where it has none and something was to be
added, it has an empty object afterwards.  So a failure can be seen in the store in this one case. -/
theorem get_of_failed_edit (edits : request.Edits key path)
    (failed : (run request (.held docs)).2 = .error cause) :
    cause = .invalidPointer path ∧ ¬ (docs.docOrEmpty key).HasPlace path ∧
    ∃ after, (run request (.held docs)).1 = .held after ∧
      (∀ other, after.get other =
        if other = key ∧ request.startsDocument docs then some (.obj []) else docs.get other) ∧
      ((∀ other, after.get other = docs.get other) ↔ request.startsDocument docs = false) := by
  cases edits with
  | add value =>
    rw [run_add] at failed ⊢
    have addFailed : (docs.add key path value).2 = .error cause := error_of_map failed
    have isCause : DocumentError.invalidPointer path = cause := by
      rw [Documents.add_of_failed addFailed] at addFailed
      exact Except.error.inj addFailed
    have left := Documents.get_add_of_failed addFailed
    exact ⟨isCause.symm, Documents.not_hasPlace_of_add_failed addFailed, _, rfl, left,
      unchanged_iff Option.isNone_iff_eq_none.1 left⟩
  | remove =>
    rw [run_remove] at failed ⊢
    have removeFailed : (docs.remove key path).2 = .error cause := error_of_map failed
    have noPlace := Documents.not_hasPlace_of_remove_failed removeFailed
    have isCause : DocumentError.invalidPointer path = cause := by
      obtain ⟨_, _, unchanged⟩ := Documents.remove_of_failed removeFailed
      rw [unchanged] at removeFailed
      exact Except.error.inj removeFailed
    -- nothing is put into the store before the pointer has been read
    have left (other : String) : (docs.remove key path).1.get other =
        if other = key ∧ false then some (.obj []) else docs.get other := by
      simpa using Documents.get_remove_of_failed removeFailed other
    exact ⟨isCause.symm, noPlace, _, rfl, left, unchanged_iff nofun left⟩

/-- Adding below a member that is not there fails and leaves the document alone. -/
theorem get_of_failed_edit_deeper :
    let docs : Documents := [("doc", .obj [("items", .arr [])])]
    let request : DocumentRequest := .add "doc" "/nope/deeper" "1"
    (run request (.held docs)).2 = .error (.invalidPointer "/nope/deeper") ∧
      ∃ after, (run request (.held docs)).1 = .held after ∧
        ∀ other, after.get other = docs.get other := by
  intro docs request
  have failed : (run request (.held docs)).2 = .error (.invalidPointer "/nope/deeper") := rfl
  have edits : request.Edits "doc" "/nope/deeper" := .add "1"
  obtain ⟨_, _, after, left, _, unchanged⟩ := get_of_failed_edit edits failed
  exact ⟨failed, after, left, unchanged.2 rfl⟩

/-- Adding to a key without a document fails and leaves one. -/
theorem get_of_failed_edit_fresh :
    let request : DocumentRequest := .add "fresh" "name" "1"
    (run request .empty).2 = .error (.invalidPointer "name") ∧
      ∃ after, (run request .empty).1 = .held after ∧
        empty.docs.get "fresh" = none ∧ after.get "fresh" = some (.obj []) :=
  ⟨rfl, [("fresh", .obj [])], rfl, rfl, rfl⟩

end DocumentStore

end StubServer
