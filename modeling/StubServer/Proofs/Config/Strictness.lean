import StubServer.Proofs.Config.Reading

/-! # Unknown fields

Each record of a document is found by going down from the root, through members and items (`Leads`).  A
document is read as a configuration only if each of its records is read (`Leads.reads`), and a record is read
only if all its fields are known.  So one unknown field anywhere spoils the whole document
(`ofJson?_addField`).
-/

namespace StubServer.Config

/-! ## Places in a document -/

/-- One step down in a document.  An index is a number of any size, and not the text of one as in a pointer. -/
inductive Step where
  | member (name : String)
  | item (index : Nat)
  deriving DecidableEq, Repr

def Step.below? : Step → Json → Option Json
  | .member name, .obj members => Table.get? members name
  | .item i, .arr items => items[i]?
  | _, _ => none

/-- Changes the value one step down, if there is one. -/
def Step.change (f : Json → Json) : Step → Json → Json
  | .member name, .obj members =>
    match Table.get? members name with
    | some v => .obj (Table.replace members name (f v))
    | none => .obj members
  | .item i, .arr items => .arr (items.modify i f)
  | _, j => j

/-- The value that the steps lead to. -/
def at? : List Step → Json → Option Json
  | [], j => some j
  | step :: rest, j => (step.below? j).bind (at? rest)

/-- Changes the value that the steps lead to, if there is one. -/
def changeAt (f : Json → Json) : List Step → Json → Json
  | [], j => f j
  | step :: rest, j => step.change (changeAt f rest) j

theorem Step.below?_change {f : Json → Json} {step : Step} {j v : Json} (found : step.below? j = some v) :
    step.below? (step.change f j) = some (f v) := by
  unfold below? at found
  split at found
  · next name members =>
    obtain ⟨before, after, rfl, first⟩ := Table.exists_first found
    simp only [change, found, Table.replace_of_first first]
    exact Table.get?_of_first first (f v)
  · next i items =>
    simp [change, below?, found]
  · cases found

/-- What has been changed is found at its place. -/
theorem at?_changeAt {f : Json → Json} {steps : List Step} {j v : Json} (found : at? steps j = some v) :
    at? steps (changeAt f steps j) = some (f v) := by
  induction steps generalizing j with
  | nil => exact congrArg (some ∘ f) (Option.some.inj found)
  | cons step rest ih =>
    obtain ⟨below, isBelow, later⟩ := Option.bind_eq_some_iff.1 found
    rw [changeAt, at?, Step.below?_change isBelow]
    exact ih later

/-! ## Records in a document -/

inductive RecordKind where
  | config
  | settings
  | mock
  | endpoint
  | request
  | response
  deriving DecidableEq, Repr

namespace RecordKind

def fields : RecordKind → List String
  | config => configFields
  | settings => settingsFields
  | mock => mockFields
  | endpoint => endpointFields
  | request => requestFields
  | response => responseFields

/-- The document is read as a record of the kind. -/
def Reads : RecordKind → Json → Prop
  | config, j => ∃ c : Config, ofJson? j = some c
  | settings, j => ∃ s, readSettings jsonDialect j = some s
  | mock, j => ∃ m, readMock jsonDialect j = some m
  | endpoint, j => ∃ e, readEndpoint jsonDialect j = some e
  | request, j => ∃ r, readRequest jsonDialect j = some r
  | response, j => ∃ r, readResponse jsonDialect j = some r

/-- The way from a record to itself or to a record somewhere inside of it. -/
inductive Leads : RecordKind → List Step → RecordKind → Prop
  | here (kind : RecordKind) : Leads kind [] kind
  | settings {steps : List Step} {kind : RecordKind} (inner : Leads settings steps kind) :
      Leads config (.member "settings" :: steps) kind
  | mock (index : Nat) {steps : List Step} {kind : RecordKind} (inner : Leads mock steps kind) :
      Leads config (.member "mocks" :: .item index :: steps) kind
  | endpoint (index : Nat) {steps : List Step} {kind : RecordKind} (inner : Leads endpoint steps kind) :
      Leads mock (.member "endpoints" :: .item index :: steps) kind
  | request {steps : List Step} {kind : RecordKind} (inner : Leads request steps kind) :
      Leads endpoint (.member "request" :: steps) kind
  | response {steps : List Step} {kind : RecordKind} (inner : Leads response steps kind) :
      Leads endpoint (.member "response" :: steps) kind

end RecordKind

/-- Changes a record by one more field. -/
def addField (key : String) (value : Json) : Json → Json
  | .obj members => .obj (Table.insert members key value)
  | j => j

namespace RecordKind

variable {kind : RecordKind} {j v : Json}

/-! ## What is read -/

theorem record?_obj {names : List String} {members fields : Table Json} :
    jsonDialect.record? names (.obj members) = some fields ↔
      (∀ row ∈ members, row.1 ∈ names) ∧ members = fields := by
  change (if members.all fun m => names.contains m.1 then some members else none) = some fields ↔ _
  simp only [Option.ite_none_right_eq_some, List.all_eq_true, List.contains_iff_mem, Option.some.injEq]

theorem get?_of_record? {names : List String} {fields : Table Json} {name : String}
    (record : jsonDialect.record? names j = some fields)
    (found : (Step.member name).below? j = some v) : Table.get? fields name = some v := by
  cases j with
  | obj members =>
    obtain ⟨-, rfl⟩ := record?_obj.1 record
    exact found
  | null | bool _ | num _ | str _ | arr _ => cases found

/-- What is read has no unknown field. -/
theorem Reads.exists_fields (reads : kind.Reads j) :
    ∃ fields, jsonDialect.record? kind.fields j = some fields := by
  -- every reader looks at the fields before anything else
  cases kind <;>
    (obtain ⟨_, isRead⟩ := reads
     obtain ⟨fields, record, -⟩ := Option.bind_eq_some_iff.1 isRead
     exact ⟨fields, record⟩)

theorem not_reads_addField {members : Members} {key : String} (unknown : key ∉ kind.fields) (value : Json) :
    ¬ kind.Reads (addField key value (.obj members)) := by
  intro reads
  obtain ⟨fields, record⟩ := reads.exists_fields
  have added : Table.get? (Table.insert members key value) key = some value := by
    rw [Table.get?_insert, if_pos rfl]
  obtain ⟨before, after, isTable, -⟩ := Table.exists_first added
  exact unknown ((record?_obj.1 record).1 (key, value) (by simp [isTable]))

theorem reads_item {α : Type} {read : Json → Option α} {as : List α} {index : Nat} {item : Json}
    (reads : listOf jsonDialect read j = some as) (found : (Step.item index).below? j = some item) :
    ∃ a, read item = some a := by
  obtain ⟨items, isArray, each⟩ := Option.bind_eq_some_iff.1 reads
  cases j with
  | arr xs =>
    cases isArray
    exact exists_of_mapM each item (List.mem_of_getElem? found)
  | null | bool _ | num _ | str _ | obj _ => cases found

/-- The records inside of what is read are read. -/
theorem Leads.reads {outer : RecordKind} {steps : List Step} (leads : Leads outer steps kind)
    (reads : outer.Reads j) (found : at? steps j = some v) : kind.Reads v := by
  -- from the outer record inwards: what lies one step down is what the reader of the field has read
  induction leads generalizing j with
  | here kind => exact Option.some.inj found ▸ reads
  | settings inner ih =>
    obtain ⟨c, isRead⟩ := reads
    obtain ⟨fields, record, h⟩ := read_eq_some_iff.1 isRead
    obtain ⟨w, isMember, later⟩ := Option.bind_eq_some_iff.1 found
    exact ih ⟨_, (fieldOr_of_get? (get?_of_record? record isMember)).symm.trans h.settings⟩ later
  | mock index inner ih =>
    obtain ⟨c, isRead⟩ := reads
    obtain ⟨fields, record, h⟩ := read_eq_some_iff.1 isRead
    obtain ⟨w, isMember, behind⟩ := Option.bind_eq_some_iff.1 found
    obtain ⟨item, isItem, later⟩ := Option.bind_eq_some_iff.1 behind
    have mocks := (fieldOr_of_get? (get?_of_record? record isMember)).symm.trans h.mocks
    exact ih (reads_item mocks isItem) later
  | endpoint index inner ih =>
    obtain ⟨m, isRead⟩ := reads
    obtain ⟨fields, record, h⟩ := readMock_eq_some_iff.1 isRead
    obtain ⟨w, isMember, behind⟩ := Option.bind_eq_some_iff.1 found
    obtain ⟨item, isItem, later⟩ := Option.bind_eq_some_iff.1 behind
    have endpoints := (fieldOr_of_get? (get?_of_record? record isMember)).symm.trans h.endpoints
    exact ih (reads_item endpoints isItem) later
  | request inner ih =>
    obtain ⟨e, isRead⟩ := reads
    obtain ⟨fields, record, h⟩ := readEndpoint_eq_some_iff.1 isRead
    obtain ⟨w, isMember, later⟩ := Option.bind_eq_some_iff.1 found
    obtain ⟨w', same, request⟩ := requiredField_eq_some_iff.1 h.request
    cases (get?_of_record? record isMember).symm.trans same
    exact ih ⟨_, request⟩ later
  | response inner ih =>
    obtain ⟨e, isRead⟩ := reads
    obtain ⟨fields, record, h⟩ := readEndpoint_eq_some_iff.1 isRead
    obtain ⟨w, isMember, later⟩ := Option.bind_eq_some_iff.1 found
    exact ih ⟨_, (fieldOr_of_get? (get?_of_record? record isMember)).symm.trans h.response⟩ later

end RecordKind

/-- With an unknown field in one of its records a document is read as no configuration. -/
theorem ofJson?_addField {steps : List Step} {kind : RecordKind} {j : Json} {members : Members} {key : String}
    (leads : RecordKind.config.Leads steps kind) (found : at? steps j = some (.obj members))
    (unknown : key ∉ kind.fields) (value : Json) :
    ofJson? (changeAt (addField key value) steps j) = none := by
  rw [Option.eq_none_iff_forall_ne_some]
  intro c isRead
  exact RecordKind.not_reads_addField unknown value (leads.reads ⟨c, isRead⟩ (at?_changeAt found))

end StubServer.Config
