import StubServer.Config.Decode
import StubServer.Proofs.Net.AddressText
import StubServer.Proofs.Table.Order

/-! # What is read as a configuration

A record is read field by field, and it is read at all when each of its fields is (`ReadFrom`, one for each
kind of record).  Both notations give numbers only if they have their widths, and tables in order (`Bounded`);
so the parts of a configuration that has been read are such that nothing of them is lost in writing
(`fits_of_read`).
-/

namespace StubServer.Config

variable {ν : Type} {N : Dialect ν} {fields : Table ν} {v : ν} {name : String}

/-! ## Fields -/

section Fields

variable {α : Type} {read : ν → Option α} {default : α}

theorem fieldOr_of_get? (found : Table.get? fields name = some v) :
    fieldOr fields name default read = read v := by
  rw [fieldOr, found]

/-- What holds of the default and of all that is read holds of the field. -/
theorem fieldOr_holds {P : α → Prop} (ofDefault : P default) (ofRead : ∀ {v a}, read v = some a → P a)
    {a : α} (isField : fieldOr fields name default read = some a) : P a := by
  unfold fieldOr at isField
  split at isField
  · exact ofRead isField
  · exact Option.some.inj isField ▸ ofDefault

theorem requiredField_eq_some_iff {a : α} : requiredField fields name read = some a ↔
    ∃ v, Table.get? fields name = some v ∧ read v = some a :=
  Option.bind_eq_some_iff

theorem listOf_holds {P : α → Prop} (ofRead : ∀ {v a}, read v = some a → P a) {as : List α}
    (isList : listOf N read v = some as) : ∀ a ∈ as, P a := by
  obtain ⟨items, -, each⟩ := Option.bind_eq_some_iff.1 isList
  exact forall_of_mapM ofRead each

end Fields

/-! ## Records -/

/-- The request that the fields are read as. -/
structure RequestDefinition.ReadFrom (N : Dialect ν) (fields : Table ν) (r : RequestDefinition) : Prop where
  scheme : optionalField N fields "scheme" = some r.scheme
  host : optionalField N fields "host" = some r.host
  method : fieldOr fields "method" "GET" N.text? = some r.method
  path : requiredField fields "path" N.text? = some r.path
  query : fieldOr fields "query" [] N.texts? = some r.query
  headers : fieldOr fields "headers" [] N.texts? = some r.headers
  body : optionalField N fields "body" = some r.body

theorem readRequest_eq_some_iff {r : RequestDefinition} : readRequest N v = some r ↔
    ∃ fields, N.record? requestFields v = some fields ∧ r.ReadFrom N fields := by
  simp only [readRequest, Option.bind_eq_bind, Option.bind_eq_some_iff, Option.pure_def, Option.some.injEq]
  constructor
  · rintro ⟨fields, record, _, scheme, _, host, _, method, _, path, _, query, _, headers, _, body, rfl⟩
    exact ⟨fields, record, scheme, host, method, path, query, headers, body⟩
  · rintro ⟨fields, record, h⟩
    exact ⟨fields, record, _, h.scheme, _, h.host, _, h.method, _, h.path, _, h.query, _, h.headers, _,
      h.body, rfl⟩

/-- The response that the fields are read as. -/
structure ResponseDefinition.ReadFrom (N : Dialect ν) (fields : Table ν) (r : ResponseDefinition) : Prop where
  status : fieldOr fields "status" "200" N.text? = some r.status
  headers : optionalField N fields "headers" = some r.headers
  body : optionalField N fields "body" = some r.body
  bodyFile : optionalField N fields "body_file" = some r.bodyFile

theorem readResponse_eq_some_iff {r : ResponseDefinition} : readResponse N v = some r ↔
    ∃ fields, N.record? responseFields v = some fields ∧ r.ReadFrom N fields := by
  simp only [readResponse, Option.bind_eq_bind, Option.bind_eq_some_iff, Option.pure_def, Option.some.injEq]
  constructor
  · rintro ⟨fields, record, _, status, _, headers, _, body, _, bodyFile, rfl⟩
    exact ⟨fields, record, status, headers, body, bodyFile⟩
  · rintro ⟨fields, record, h⟩
    exact ⟨fields, record, _, h.status, _, h.headers, _, h.body, _, h.bodyFile, rfl⟩

/-- The endpoint that the fields are read as. -/
structure EndpointDefinition.ReadFrom (N : Dialect ν) (fields : Table ν) (e : EndpointDefinition) : Prop where
  id : optionalField N fields "id" = some e.id
  priority : fieldOr fields "priority" 0 N.integer? = some e.priority
  request : requiredField fields "request" (readRequest N) = some e.request
  response : fieldOr fields "response" .default (readResponse N) = some e.response

theorem readEndpoint_eq_some_iff {e : EndpointDefinition} : readEndpoint N v = some e ↔
    ∃ fields, N.record? endpointFields v = some fields ∧ e.ReadFrom N fields := by
  simp only [readEndpoint, Option.bind_eq_bind, Option.bind_eq_some_iff, Option.pure_def, Option.some.injEq]
  constructor
  · rintro ⟨fields, record, _, id, _, priority, _, request, _, response, rfl⟩
    exact ⟨fields, record, id, priority, request, response⟩
  · rintro ⟨fields, record, h⟩
    exact ⟨fields, record, _, h.id, _, h.priority, _, h.request, _, h.response, rfl⟩

/-- The group that the fields are read as. -/
structure MockDefinition.ReadFrom (N : Dialect ν) (fields : Table ν) (m : MockDefinition) : Prop where
  name : requiredField fields "name" N.text? = some m.name
  endpoints : fieldOr fields "endpoints" [] (listOf N (readEndpoint N)) = some m.endpoints

theorem readMock_eq_some_iff {m : MockDefinition} : readMock N v = some m ↔
    ∃ fields, N.record? mockFields v = some fields ∧ m.ReadFrom N fields := by
  simp only [readMock, Option.bind_eq_bind, Option.bind_eq_some_iff, Option.pure_def, Option.some.injEq]
  constructor
  · rintro ⟨fields, record, _, name, _, endpoints, rfl⟩
    exact ⟨fields, record, name, endpoints⟩
  · rintro ⟨fields, record, h⟩
    exact ⟨fields, record, _, h.name, _, h.endpoints, rfl⟩

/-- The settings that the fields are read as. -/
structure Settings.ReadFrom (N : Dialect ν) (fields : Table ν) (s : Settings) : Prop where
  listen : fieldOr fields "listen" Settings.default.listen
    (fun v => (N.text? v).bind Net.SocketAddress.read?) = some s.listen
  bodyFilesDir : optionalField N fields "body_files_dir" = some s.bodyFilesDir
  matchesCountOnly : fieldOr fields "matches_count_only" Settings.default.matchesCountOnly N.flag? =
    some s.matchesCountOnly
  mismatchesCountOnly : fieldOr fields "mismatches_count_only" Settings.default.mismatchesCountOnly N.flag? =
    some s.mismatchesCountOnly
  maxMatchesPerEndpoint : fieldOr fields "max_matches_per_endpoint"
    Settings.default.maxMatchesPerEndpoint N.size? = some s.maxMatchesPerEndpoint
  maxMismatches : fieldOr fields "max_mismatches" Settings.default.maxMismatches N.size? =
    some s.maxMismatches
  endpointIdHeader : fieldOr fields "endpoint_id_header" Settings.default.endpointIdHeader N.text? =
    some s.endpointIdHeader
  adminPrefix : fieldOr fields "admin_prefix" Settings.default.adminPrefix N.text? = some s.adminPrefix
  logMatches : fieldOr fields "log_matches" Settings.default.logMatches N.flag? = some s.logMatches
  logMismatches : fieldOr fields "log_mismatches" Settings.default.logMismatches N.flag? =
    some s.logMismatches

theorem readSettings_eq_some_iff {s : Settings} : readSettings N v = some s ↔
    ∃ fields, N.record? settingsFields v = some fields ∧ s.ReadFrom N fields := by
  simp only [readSettings, Option.bind_eq_bind, Option.bind_eq_some_iff, Option.pure_def, Option.some.injEq]
  constructor
  · rintro ⟨fields, record, _, listen, _, dir, _, matchesOnly, _, mismatchesOnly, _, mostMatches, _,
      mostMismatches, _, header, _, admin, _, logMatches, _, logMismatches, rfl⟩
    exact ⟨fields, record, listen, dir, matchesOnly, mismatchesOnly, mostMatches, mostMismatches, header,
      admin, logMatches, logMismatches⟩
  · rintro ⟨fields, record, h⟩
    exact ⟨fields, record, _, h.listen, _, h.bodyFilesDir, _, h.matchesCountOnly, _, h.mismatchesCountOnly,
      _, h.maxMatchesPerEndpoint, _, h.maxMismatches, _, h.endpointIdHeader, _, h.adminPrefix, _,
      h.logMatches, _, h.logMismatches, rfl⟩

/-- The configuration that the fields are read as. -/
structure ReadFrom (N : Dialect ν) (fields : Table ν) (c : Config) : Prop where
  settings : fieldOr fields "settings" .default (readSettings N) = some c.settings
  mockFiles : fieldOr fields "mock_files" [] (listOf N N.text?) = some c.mockFiles
  mocks : fieldOr fields "mocks" [] (listOf N (readMock N)) = some c.mocks

theorem read_eq_some_iff {c : Config} : read N v = some c ↔
    ∃ fields, N.record? configFields v = some fields ∧ c.ReadFrom N fields := by
  simp only [read, Option.bind_eq_bind, Option.bind_eq_some_iff, Option.pure_def, Option.some.injEq]
  constructor
  · rintro ⟨fields, record, _, settings, _, mockFiles, _, mocks, rfl⟩
    exact ⟨fields, record, settings, mockFiles, mocks⟩
  · rintro ⟨fields, record, h⟩
    exact ⟨fields, record, _, h.settings, _, h.mockFiles, _, h.mocks, rfl⟩

/-! ## Widths and order -/

/-- The tables of a request are in order. -/
structure RequestDefinition.Fits (r : RequestDefinition) : Prop where
  query : r.query.Ascending
  headers : r.headers.Ascending

structure EndpointDefinition.Fits (e : EndpointDefinition) : Prop where
  priority : Number.fitsSigned 64 e.priority = true
  request : e.request.Fits

structure MockDefinition.Fits (m : MockDefinition) : Prop where
  endpoints : ∀ e ∈ m.endpoints, e.Fits

/-- The numbers have their widths. -/
structure Settings.Fits (s : Settings) : Prop where
  listen : s.listen.WellFormed
  maxMatchesPerEndpoint : Number.fits 64 s.maxMatchesPerEndpoint = true
  maxMismatches : Number.fits 64 s.maxMismatches = true

/-- All numbers have their widths, and all tables are in order. -/
structure Fits (c : Config) : Prop where
  settings : c.settings.Fits
  mocks : ∀ m ∈ c.mocks, m.Fits

/-- A notation that gives no number without its width, and no table out of order. -/
structure Dialect.Bounded (N : Dialect ν) : Prop where
  integer {v : ν} {n : Int} (reads : N.integer? v = some n) : Number.fitsSigned 64 n = true
  size {v : ν} {n : Nat} (reads : N.size? v = some n) : Number.fits 64 n = true
  texts {v : ν} {t : Table String} (reads : N.texts? v = some t) : t.Ascending

section Bounded

variable (bounded : N.Bounded)

include bounded

theorem readRequest_fits {r : RequestDefinition} (reads : readRequest N v = some r) : r.Fits := by
  obtain ⟨fields, -, isRead⟩ := readRequest_eq_some_iff.1 reads
  exact ⟨fieldOr_holds Table.ascending_nil bounded.texts isRead.query,
    fieldOr_holds Table.ascending_nil bounded.texts isRead.headers⟩

theorem readEndpoint_fits {e : EndpointDefinition} (reads : readEndpoint N v = some e) : e.Fits := by
  obtain ⟨fields, -, isRead⟩ := readEndpoint_eq_some_iff.1 reads
  obtain ⟨w, -, request⟩ := requiredField_eq_some_iff.1 isRead.request
  exact ⟨fieldOr_holds (P := fun n => Number.fitsSigned 64 n = true) rfl bounded.integer isRead.priority,
    readRequest_fits bounded request⟩

theorem readMock_fits {m : MockDefinition} (reads : readMock N v = some m) : m.Fits := by
  obtain ⟨fields, -, isRead⟩ := readMock_eq_some_iff.1 reads
  exact ⟨fieldOr_holds (P := fun es => ∀ e ∈ es, e.Fits) (List.forall_mem_nil _)
    (listOf_holds (readEndpoint_fits bounded)) isRead.endpoints⟩

theorem readSettings_fits {s : Settings} (reads : readSettings N v = some s) : s.Fits := by
  obtain ⟨fields, -, isRead⟩ := readSettings_eq_some_iff.1 reads
  refine ⟨fieldOr_holds Net.SocketAddress.wellFormed_loopback (fun address => ?_) isRead.listen,
    fieldOr_holds (by decide) bounded.size isRead.maxMatchesPerEndpoint,
    fieldOr_holds (by decide) bounded.size isRead.maxMismatches⟩
  obtain ⟨text, -, isAddress⟩ := Option.bind_eq_some_iff.1 address
  exact Net.SocketAddress.wellFormed_of_read? isAddress

/-- Whatever is read as a configuration has its numbers within their widths and its tables in order. -/
theorem fits_of_read {c : Config} (reads : read N v = some c) : c.Fits := by
  obtain ⟨fields, -, isRead⟩ := read_eq_some_iff.1 reads
  have defaultFits : Settings.default.Fits :=
    ⟨Net.SocketAddress.wellFormed_loopback, by decide, by decide⟩
  exact ⟨fieldOr_holds defaultFits (readSettings_fits bounded) isRead.settings,
    fieldOr_holds (P := fun ms => ∀ m ∈ ms, m.Fits) (List.forall_mem_nil _)
      (listOf_holds (readMock_fits bounded)) isRead.mocks⟩

end Bounded

/-! ## Both notations -/

theorem ascending_memberTexts {members : List (String × Json)} {t : Table String}
    (reads : JsonDialect.memberTexts members = some t) : t.Ascending := by
  induction members generalizing t with
  | nil =>
    cases reads
    exact Table.ascending_nil
  | cons row rest ih =>
    obtain ⟨key, value⟩ := row
    cases value with
    | str s =>
      obtain ⟨later, isLater, rfl⟩ := Option.map_eq_some_iff.1 reads
      exact (ih isLater).insert key s
    | null | bool _ | num _ | arr _ | obj _ => cases reads

theorem bounded_jsonDialect : jsonDialect.Bounded where
  integer {v n} reads := by
    change JsonDialect.integer? v = some n at reads
    unfold JsonDialect.integer? at reads
    split at reads
    · obtain ⟨fits, same⟩ := Option.ite_none_right_eq_some.1 reads
      exact Option.some.inj same ▸ fits
    · cases reads
  size {v n} reads := by
    change JsonDialect.size? v = some n at reads
    unfold JsonDialect.size? at reads
    split at reads
    · obtain ⟨fits, same⟩ := Option.ite_none_right_eq_some.1 reads
      exact Option.some.inj same ▸ fits.2
    · cases reads
  texts {v t} reads := by
    change JsonDialect.texts? v = some t at reads
    unfold JsonDialect.texts? at reads
    split at reads
    · exact ascending_memberTexts reads
    · cases reads

theorem ascending_entryTexts {entries : List (Yaml.Node × Yaml.Node)} {t t' : Table String}
    (ascending : t.Ascending) (reads : YamlDialect.entryTexts t entries = some t') : t'.Ascending := by
  induction entries generalizing t with
  | nil =>
    cases reads
    exact ascending
  | cons entry rest ih =>
    obtain ⟨k, v⟩ := entry
    rw [YamlDialect.entryTexts] at reads
    split at reads
    · exact ih (ascending.insert _ _) reads
    · cases reads

theorem bounded_yamlDialect : yamlDialect.Bounded where
  integer {v n} reads := by
    obtain ⟨text, -, isNumber⟩ := Option.bind_eq_some_iff.1 reads
    obtain ⟨m, -, read⟩ := Option.bind_eq_some_iff.1 isNumber
    obtain ⟨fits, same⟩ := Option.ite_none_right_eq_some.1 read
    exact Option.some.inj same ▸ fits
  size {v n} reads := by
    obtain ⟨text, -, isNumber⟩ := Option.bind_eq_some_iff.1 reads
    obtain ⟨m, -, read⟩ := Option.bind_eq_some_iff.1 isNumber
    obtain ⟨fits, same⟩ := Option.ite_none_right_eq_some.1 read
    exact Option.some.inj same ▸ fits
  texts {v t} reads := by
    obtain ⟨entries, -, isTable⟩ := Option.bind_eq_some_iff.1 reads
    exact ascending_entryTexts Table.ascending_nil isTable

/-- Some document of one of the notations is read as the configuration. -/
inductive Decoded (c : Config) : Prop
  | yaml {text : String} (reads : ofYaml? text = some c)
  | json {j : Json} (reads : ofJson? j = some c)

theorem Decoded.fits {c : Config} (decoded : c.Decoded) : c.Fits := by
  cases decoded with
  | yaml reads =>
    obtain ⟨root, -, isRead⟩ := Option.bind_eq_some_iff.1 reads
    exact fits_of_read bounded_yamlDialect isRead
  | json reads => exact fits_of_read bounded_jsonDialect reads

end StubServer.Config
