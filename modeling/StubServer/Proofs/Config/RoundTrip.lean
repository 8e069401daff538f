import StubServer.Config.Encode
import StubServer.Proofs.Config.Strictness
import StubServer.Proofs.Json.RoundTrip

/-! # Reading a configuration that has been written

The document of a configuration has every field of every record (`Writes`).  A number that has its width, a
table in order and an address are read back from it as they are, and so is every record (`ofJson?_toJson_of_fits`).
All that has been decoded is like that: so no document, in whatever notation and whatever it leaves to the
defaults, loses anything on the way through its configuration and back (`ofJson?_toJson`).
-/

namespace StubServer.Config

/-! ## Fields -/

section Fields

variable {rows : List (String × Json)} {name : String} {v : Json}
  (found : Table.get? rows.reverse name = some v)

include found

theorem fieldOr_ofList {α : Type} {default : α} {read : Json → Option α} {a : α} (reads : read v = some a) :
    fieldOr (Table.ofList rows) name default read = some a := by
  rw [fieldOr_of_get? ((Table.get?_ofList rows name).trans found), reads]

theorem requiredField_ofList {α : Type} {read : Json → Option α} {a : α} (reads : read v = some a) :
    requiredField (Table.ofList rows) name read = some a :=
  requiredField_eq_some_iff.2 ⟨v, (Table.get?_ofList rows name).trans found, reads⟩

end Fields

theorem optionalField_ofList {rows : List (String × Json)} {name : String} {text : Option String}
    (found : Table.get? rows.reverse name = some (textOrNull text)) :
    optionalField jsonDialect (Table.ofList rows) name = some text := by
  refine fieldOr_ofList found ?_
  cases text <;> rfl

theorem texts?_tableJson {t : Table String} (ascending : t.Ascending) :
    jsonDialect.texts? (tableJson t) = some t := by
  change JsonDialect.memberTexts (t.map _) = some t
  induction t with
  | nil => rfl
  | cons row rest ih =>
    obtain ⟨k, v⟩ := row
    obtain ⟨least, ascends⟩ := List.pairwise_cons.1 ascending
    rw [List.map_cons, JsonDialect.memberTexts, ih ascends, Option.map_some, Table.insert_of_first least]

theorem integer?_ofInt {n : Int} (fits : Number.fitsSigned 64 n = true) :
    jsonDialect.integer? (.ofInt n) = some n := if_pos fits

theorem size?_ofNat {n : Nat} (fits : Number.fits 64 n = true) : jsonDialect.size? (.ofNat n) = some n :=
  if_pos ⟨Int.natCast_nonneg n, fits⟩

theorem listOf_arr {α : Type} {read : Json → Option α} {write : α → Json} {as : List α}
    (reads : ∀ a ∈ as, read (write a) = some a) : listOf jsonDialect read (.arr (as.map write)) = some as :=
  mapM_map_eq_some reads

theorem record?_object {names : List String} {rows : List (String × Json)}
    (known : rows.map (·.1) = names) :
    jsonDialect.record? names (.object rows) = some (Table.ofList rows) := by
  refine if_pos (List.all_eq_true.2 fun row inTable => ?_)
  rw [List.contains_iff_mem, ← known]
  exact List.mem_map_of_mem (Table.mem_ofList inTable)

/-! ## Records -/

theorem readRequest_toJson {r : RequestDefinition} (fits : r.Fits) :
    readRequest jsonDialect r.toJson = some r :=
  readRequest_eq_some_iff.2 ⟨_, record?_object rfl, {
    scheme := optionalField_ofList rfl
    host := optionalField_ofList rfl
    method := fieldOr_ofList rfl rfl
    path := requiredField_ofList rfl rfl
    query := fieldOr_ofList rfl (texts?_tableJson fits.query)
    headers := fieldOr_ofList rfl (texts?_tableJson fits.headers)
    body := optionalField_ofList rfl }⟩

theorem readResponse_toJson (r : ResponseDefinition) : readResponse jsonDialect r.toJson = some r :=
  readResponse_eq_some_iff.2 ⟨_, record?_object rfl, {
    status := fieldOr_ofList rfl rfl
    headers := optionalField_ofList rfl
    body := optionalField_ofList rfl
    bodyFile := optionalField_ofList rfl }⟩

theorem readEndpoint_toJson {e : EndpointDefinition} (fits : e.Fits) :
    readEndpoint jsonDialect e.toJson = some e :=
  readEndpoint_eq_some_iff.2 ⟨_, record?_object rfl, {
    id := optionalField_ofList rfl
    priority := fieldOr_ofList rfl (integer?_ofInt fits.priority)
    request := requiredField_ofList rfl (readRequest_toJson fits.request)
    response := fieldOr_ofList rfl (readResponse_toJson e.response) }⟩

theorem readMock_toJson {m : MockDefinition} (fits : m.Fits) : readMock jsonDialect m.toJson = some m :=
  readMock_eq_some_iff.2 ⟨_, record?_object rfl, {
    name := requiredField_ofList rfl rfl
    endpoints := fieldOr_ofList rfl (listOf_arr fun e inMock => readEndpoint_toJson (fits.endpoints e inMock)) }⟩

theorem readSettings_toJson {s : Settings} (fits : s.Fits) : readSettings jsonDialect s.toJson = some s :=
  have listen : (jsonDialect.text? (.str s.listen.write)).bind Net.SocketAddress.read? = some s.listen :=
    Net.SocketAddress.read?_write fits.listen
  readSettings_eq_some_iff.2 ⟨_, record?_object rfl, {
    listen := fieldOr_ofList rfl listen
    bodyFilesDir := optionalField_ofList rfl
    matchesCountOnly := fieldOr_ofList rfl rfl
    mismatchesCountOnly := fieldOr_ofList rfl rfl
    maxMatchesPerEndpoint := fieldOr_ofList rfl (size?_ofNat fits.maxMatchesPerEndpoint)
    maxMismatches := fieldOr_ofList rfl (size?_ofNat fits.maxMismatches)
    endpointIdHeader := fieldOr_ofList rfl rfl
    adminPrefix := fieldOr_ofList rfl rfl
    logMatches := fieldOr_ofList rfl rfl
    logMismatches := fieldOr_ofList rfl rfl }⟩

theorem ofJson?_toJson_of_fits {c : Config} (fits : c.Fits) : ofJson? c.toJson = some c :=
  read_eq_some_iff.2 ⟨_, record?_object rfl, {
    settings := fieldOr_ofList rfl (readSettings_toJson fits.settings)
    mockFiles := fieldOr_ofList rfl (listOf_arr fun _ _ => rfl)
    mocks := fieldOr_ofList rfl (listOf_arr fun m inMocks => readMock_toJson (fits.mocks m inMocks)) }⟩

/-! ## Texts -/

section Plain

open Json (Plain)

variable {depth : Nat}

theorem plain_textOrNull (text : Option String) : Plain depth (textOrNull text) := by
  cases text with
  | none => exact .null
  | some s => exact .str s

theorem plain_tableJson {t : Table String} (ascending : t.Ascending) : Plain (depth + 1) (tableJson t) := by
  refine .obj (List.pairwise_map.2 ascending) fun row inTable => ?_
  obtain ⟨⟨k, v⟩, -, rfl⟩ := List.mem_map.1 inTable
  exact .str v

theorem plain_ofInt {n : Int} (fits : Number.fitsSigned 64 n = true) : Plain depth (.ofInt n) := by
  have bounds : -2 ^ 63 ≤ n ∧ n < 2 ^ 64 := by
    unfold Number.fitsSigned Number.fits at fits
    split at fits <;> simp [Nat.shiftLeft_eq] at fits <;> omega
  exact .int bounds.1 bounds.2

theorem plain_ofNat {n : Nat} (fits : Number.fits 64 n = true) : Plain depth (.ofNat n) := by
  have bound := (Json.fits_iff n).1 fits
  exact .int (by omega) (by omega)

theorem plain_arr {α : Type} {write : α → Json} {as : List α} (plain : ∀ a ∈ as, Plain depth (write a)) :
    Plain (depth + 1) (.arr (as.map write)) :=
  .arr (List.forall_mem_map.2 plain)

theorem RequestDefinition.Fits.plain {r : RequestDefinition} (fits : r.Fits) :
    Plain (depth + 2) r.toJson := by
  refine Json.plain_object ?_
  simp only [List.forall_mem_cons]
  exact ⟨plain_textOrNull _, plain_textOrNull _, .str _, .str _, plain_tableJson fits.query,
    plain_tableJson fits.headers, plain_textOrNull _, List.forall_mem_nil _⟩

theorem ResponseDefinition.plain_toJson (r : ResponseDefinition) : Plain (depth + 1) r.toJson := by
  refine Json.plain_object ?_
  simp only [List.forall_mem_cons]
  exact ⟨.str _, plain_textOrNull _, plain_textOrNull _, plain_textOrNull _, List.forall_mem_nil _⟩

theorem EndpointDefinition.Fits.plain {e : EndpointDefinition} (fits : e.Fits) :
    Plain (depth + 3) e.toJson := by
  refine Json.plain_object ?_
  simp only [List.forall_mem_cons]
  exact ⟨plain_textOrNull _, plain_ofInt fits.priority, fits.request.plain, e.response.plain_toJson,
    List.forall_mem_nil _⟩

theorem MockDefinition.Fits.plain {m : MockDefinition} (fits : m.Fits) : Plain (depth + 5) m.toJson := by
  refine Json.plain_object ?_
  simp only [List.forall_mem_cons]
  exact ⟨.str _, plain_arr fun e inMock => (fits.endpoints e inMock).plain, List.forall_mem_nil _⟩

theorem Settings.Fits.plain {s : Settings} (fits : s.Fits) : Plain (depth + 1) s.toJson := by
  refine Json.plain_object ?_
  simp only [List.forall_mem_cons]
  exact ⟨.str _, plain_textOrNull _, .bool _, .bool _, plain_ofNat fits.maxMatchesPerEndpoint,
    plain_ofNat fits.maxMismatches, .str _, .str _, .bool _, .bool _, List.forall_mem_nil _⟩

theorem Fits.plain {c : Config} (fits : c.Fits) : Plain (depth + 7) c.toJson := by
  refine Json.plain_object ?_
  simp only [List.forall_mem_cons]
  exact ⟨fits.settings.plain, plain_arr fun s _ => .str s,
    plain_arr fun m inMocks => (fits.mocks m inMocks).plain, List.forall_mem_nil _⟩

end Plain

/-! ## Records in what has been written -/

theorem at?_object {rows : List (String × Json)} {name : String} {v : Json}
    (found : Table.get? rows.reverse name = some v) (steps : List Step) :
    at? (.member name :: steps) (.object rows) = at? steps v := by
  have below : (Step.member name).below? (.object rows) = some v :=
    (Table.get?_ofList rows name).trans found
  rw [at?, below, Option.bind_some]

namespace RecordKind

variable {kind : RecordKind} {j v : Json}

/-- The document is what is written for some record of the kind. -/
def Writes : RecordKind → Json → Prop
  | config, j => ∃ c : Config, j = c.toJson
  | settings, j => ∃ s : Settings, j = s.toJson
  | mock, j => ∃ m : MockDefinition, j = m.toJson
  | endpoint, j => ∃ e : EndpointDefinition, j = e.toJson
  | request, j => ∃ r : RequestDefinition, j = r.toJson
  | response, j => ∃ r : ResponseDefinition, j = r.toJson

/-- Every field is present. -/
theorem Writes.exists_rows (writes : kind.Writes j) :
    ∃ rows, j = .object rows ∧ rows.map (·.1) = kind.fields := by
  cases kind <;> (obtain ⟨x, rfl⟩ := writes; exact ⟨_, rfl, rfl⟩)

theorem writes_item {α : Type} {write : α → Json} {as : List α} {index : Nat}
    (found : (Step.item index).below? (.arr (as.map write)) = some v) : ∃ a, v = write a := by
  change (as.map write)[index]? = some v at found
  rw [List.getElem?_map, Option.map_eq_some_iff] at found
  obtain ⟨a, -, isWritten⟩ := found
  exact ⟨a, isWritten.symm⟩

theorem Leads.writes {outer : RecordKind} {steps : List Step} (leads : Leads outer steps kind)
    (writes : outer.Writes j) (found : at? steps j = some v) : kind.Writes v := by
  induction leads generalizing j with
  | here kind => exact Option.some.inj found ▸ writes
  | settings inner ih =>
    obtain ⟨c, rfl⟩ := writes
    exact ih ⟨c.settings, rfl⟩ ((at?_object rfl _).symm.trans found)
  | mock index inner ih =>
    obtain ⟨c, rfl⟩ := writes
    have behind := (at?_object rfl _).symm.trans found
    obtain ⟨item, isItem, later⟩ := Option.bind_eq_some_iff.1 behind
    exact ih (writes_item isItem) later
  | endpoint index inner ih =>
    obtain ⟨m, rfl⟩ := writes
    have behind := (at?_object rfl _).symm.trans found
    obtain ⟨item, isItem, later⟩ := Option.bind_eq_some_iff.1 behind
    exact ih (writes_item isItem) later
  | request inner ih =>
    obtain ⟨e, rfl⟩ := writes
    exact ih ⟨e.request, rfl⟩ ((at?_object rfl _).symm.trans found)
  | response inner ih =>
    obtain ⟨e, rfl⟩ := writes
    exact ih ⟨e.response, rfl⟩ ((at?_object rfl _).symm.trans found)

end RecordKind

/-- A configuration that has been decoded is what its own document is read as, also from the text of that
document.  In each record of the document every field is present, and with one more field that its kind does
not have the document is read as no configuration. -/
theorem ofJson?_toJson {c : Config} (decoded : c.Decoded) :
    ofJson? c.toJson = some c ∧
    (Json.parse? c.toJson.compact).bind ofJson? = some c ∧
    ∀ (steps : List Step) (kind : RecordKind) (record : Json), RecordKind.config.Leads steps kind →
      at? steps c.toJson = some record →
        (∃ members, record = .obj members ∧ ∀ name, Table.contains members name = true ↔ name ∈ kind.fields) ∧
        ∀ key ∉ kind.fields, ∀ value, ofJson? (changeAt (addField key value) steps c.toJson) = none := by
  have fits := decoded.fits
  have reads := ofJson?_toJson_of_fits fits
  refine ⟨reads, ?_, fun steps kind record leads found => ?_⟩
  · have plain : Json.Plain 127 c.toJson := fits.plain
    rw [Json.parse?_compact plain, Option.bind_some, reads]
  · obtain ⟨rows, rfl, known⟩ := (leads.writes ⟨c, rfl⟩ found).exists_rows
    refine ⟨⟨_, rfl, fun name => ?_⟩, fun key unknown value => ofJson?_addField leads found unknown value⟩
    rw [Table.contains_ofList_iff, known]

/-- One endpoint, of which only the path is given. -/
def smallText : String := "mocks:\n  - name: users\n    endpoints:\n      - request: \x7bpath: /users\x7d\n"

def smallConfig : Config where
  settings := .default
  mockFiles := []
  mocks := [⟨"users", [⟨none, 0, ⟨none, none, "GET", "/users", [], [], none⟩, .default⟩]⟩]

theorem ofJson?_toJson_small : ofYaml? smallText = some smallConfig ∧
    ofJson? smallConfig.toJson = some smallConfig ∧
    ofJson? (changeAt (addField "paht" (.str "/"))
      [.member "mocks", .item 0, .member "endpoints", .item 0, .member "request"]
      smallConfig.toJson) = none := by
  have reads : ofYaml? smallText = some smallConfig := by decide +kernel
  obtain ⟨back, -, strict⟩ := ofJson?_toJson (.yaml reads)
  exact ⟨reads, back, (strict _ .request _ (.mock 0 (.endpoint 0 (.request (.here _)))) rfl).2 "paht"
    (by decide) (.str "/")⟩

end StubServer.Config
