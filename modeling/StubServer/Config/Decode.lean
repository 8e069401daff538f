import StubServer.Config.Basic
import StubServer.Json.Basic
import StubServer.Yaml.Value

/-! # Reading a configuration from a document

A configuration is read from a tree of values.  `Dialect` says how one notation of documents
spells texts, numbers, truth values, lists and records; everything else, the fields and what
stands for a missing one, is the same for all.  A field that no record knows is an error.
-/

namespace StubServer.Config

/-- How a notation spells the values that a configuration is made of. -/
structure Dialect (ν : Type) where
  text? : ν → Option String
  integer? : ν → Option Int
  size? : ν → Option Nat
  flag? : ν → Option Bool
  /-- Whether the value stands for nothing; absent when it is no value at all. -/
  isNothing? : ν → Option Bool
  items? : ν → Option (List ν)
  /-- Texts by name; of two with one name the later counts. -/
  texts? : ν → Option (Table String)
  /-- The fields of a record that may have the given ones. -/
  record? : List String → ν → Option (Table ν)

variable {ν : Type}

/-- The field of that name, or a default. -/
def fieldOr {α : Type} (fields : Table ν) (name : String) (default : α) (read : ν → Option α) :
    Option α :=
  match Table.get? fields name with
  | some v => read v
  | none => some default

def requiredField {α : Type} (fields : Table ν) (name : String) (read : ν → Option α) : Option α :=
  (Table.get? fields name).bind read

/-- A field that may be missing or stand for nothing. -/
def optionalField (N : Dialect ν) (fields : Table ν) (name : String) : Option (Option String) :=
  fieldOr fields name none fun v =>
    match N.isNothing? v with
    | none => none
    | some true => some none
    | some false => (N.text? v).map some

def listOf {α : Type} (N : Dialect ν) (read : ν → Option α) (v : ν) : Option (List α) :=
  (N.items? v).bind fun items => items.mapM read

def requestFields : List String :=
  ["scheme", "host", "method", "path", "query", "headers", "body"]

def readRequest (N : Dialect ν) (v : ν) : Option RequestDefinition := do
  let fields ← N.record? requestFields v
  return {
    scheme := ← optionalField N fields "scheme"
    host := ← optionalField N fields "host"
    method := ← fieldOr fields "method" "GET" N.text?
    path := ← requiredField fields "path" N.text?
    query := ← fieldOr fields "query" [] N.texts?
    headers := ← fieldOr fields "headers" [] N.texts?
    body := ← optionalField N fields "body" }

def responseFields : List String := ["status", "headers", "body", "body_file"]

def readResponse (N : Dialect ν) (v : ν) : Option ResponseDefinition := do
  let fields ← N.record? responseFields v
  return {
    status := ← fieldOr fields "status" "200" N.text?
    headers := ← optionalField N fields "headers"
    body := ← optionalField N fields "body"
    bodyFile := ← optionalField N fields "body_file" }

def endpointFields : List String := ["id", "priority", "request", "response"]

def readEndpoint (N : Dialect ν) (v : ν) : Option EndpointDefinition := do
  let fields ← N.record? endpointFields v
  return {
    id := ← optionalField N fields "id"
    priority := ← fieldOr fields "priority" 0 N.integer?
    request := ← requiredField fields "request" (readRequest N)
    response := ← fieldOr fields "response" .default (readResponse N) }

def mockFields : List String := ["name", "endpoints"]

def readMock (N : Dialect ν) (v : ν) : Option MockDefinition := do
  let fields ← N.record? mockFields v
  return {
    name := ← requiredField fields "name" N.text?
    endpoints := ← fieldOr fields "endpoints" [] (listOf N (readEndpoint N)) }

def settingsFields : List String :=
  ["listen", "body_files_dir", "matches_count_only", "mismatches_count_only",
    "max_matches_per_endpoint", "max_mismatches", "endpoint_id_header", "admin_prefix",
    "log_matches", "log_mismatches"]

def readSettings (N : Dialect ν) (v : ν) : Option Settings := do
  let fields ← N.record? settingsFields v
  let d := Settings.default
  return {
    listen := ← fieldOr fields "listen" d.listen fun v =>
      (N.text? v).bind Net.SocketAddress.read?
    bodyFilesDir := ← optionalField N fields "body_files_dir"
    matchesCountOnly := ← fieldOr fields "matches_count_only" d.matchesCountOnly N.flag?
    mismatchesCountOnly := ← fieldOr fields "mismatches_count_only" d.mismatchesCountOnly N.flag?
    maxMatchesPerEndpoint :=
      ← fieldOr fields "max_matches_per_endpoint" d.maxMatchesPerEndpoint N.size?
    maxMismatches := ← fieldOr fields "max_mismatches" d.maxMismatches N.size?
    endpointIdHeader := ← fieldOr fields "endpoint_id_header" d.endpointIdHeader N.text?
    adminPrefix := ← fieldOr fields "admin_prefix" d.adminPrefix N.text?
    logMatches := ← fieldOr fields "log_matches" d.logMatches N.flag?
    logMismatches := ← fieldOr fields "log_mismatches" d.logMismatches N.flag? }

def configFields : List String := ["settings", "mock_files", "mocks"]

def read (N : Dialect ν) (v : ν) : Option Config := do
  let fields ← N.record? configFields v
  return {
    settings := ← fieldOr fields "settings" .default (readSettings N)
    mockFiles := ← fieldOr fields "mock_files" [] (listOf N N.text?)
    mocks := ← fieldOr fields "mocks" [] (listOf N (readMock N)) }

/-- Reads the groups of a further file, which holds nothing else. -/
def readMockFile (N : Dialect ν) (v : ν) : Option (List MockDefinition) := do
  let fields ← N.record? ["mocks"] v
  fieldOr fields "mocks" [] (listOf N (readMock N))

/-! ## JSON -/

namespace JsonDialect

def integer? : Json → Option Int
  | .num (.int n) => if Number.fitsSigned 64 n then some n else none
  | _ => none

def size? : Json → Option Nat
  | .num (.int n) => if 0 ≤ n ∧ Number.fits 64 n.toNat then some n.toNat else none
  | _ => none

def items? : Json → Option (List Json)
  | .arr items => some items
  | _ => none

/-- The members as texts. -/
def memberTexts : List (String × Json) → Option (Table String)
  | [] => some []
  | (key, .str s) :: rest => (memberTexts rest).map fun t => Table.insert t key s
  | _ :: _ => none

def texts? : Json → Option (Table String)
  | .obj members => memberTexts members
  | _ => none

/-- A record is an object, or an array with the fields in their order. -/
def record? (names : List String) : Json → Option (Table Json)
  | .obj members => if members.all fun m => names.contains m.1 then some members else none
  | .arr items =>
    if items.length ≤ names.length then some (Table.ofList (names.zip items)) else none
  | _ => none

end JsonDialect

def jsonDialect : Dialect Json where
  text? := Json.asText?
  integer? := JsonDialect.integer?
  size? := JsonDialect.size?
  flag? := Json.asBool?
  isNothing? v := some v.isNull
  items? := JsonDialect.items?
  texts? := JsonDialect.texts?
  record? := JsonDialect.record?

def ofJson? (j : Json) : Option Config := read jsonDialect j

/-! ## YAML -/

namespace YamlDialect

open Yaml (Node Style coreTag)

def text? : Node → Option String
  | .scalar text _ _ => some text
  | _ => none

/-- A plain scalar, or a literal one with the tag of the kind that is asked for. -/
def typedText? (kind : String) : Node → Option String
  | .scalar text .plain _ => some text
  | .scalar text .literal (some tag) => if tag = coreTag kind then some text else none
  | _ => none

def isNothing? : Node → Option Bool
  | .scalar text .plain (some tag) =>
    if tag = coreTag "null" then if Yaml.isNullText text then some true else none else some false
  | .scalar text .plain none => some (text.isEmpty || Yaml.isNullText text)
  | _ => some false

def items? : Node → Option (List Node)
  | .sequence _ items => some items
  | .scalar "" .plain _ => some []
  | _ => none

def entries? : Node → Option (List (Node × Node))
  | .mapping _ entries => some entries
  | .scalar "" .plain _ => some []
  | _ => none

def entryTexts (table : Table String) : List (Node × Node) → Option (Table String)
  | [] => some table
  | (k, v) :: rest =>
    match text? k, text? v with
    | some key, some value => entryTexts (Table.insert table key value) rest
    | _, _ => none

/-- Fields by name; none may be unknown or occur twice. -/
def entryFields (names : List String) (table : Table Node) :
    List (Node × Node) → Option (Table Node)
  | [] => some table
  | (k, v) :: rest =>
    match text? k with
    | some key =>
      if !names.contains key || Table.contains table key then none
      else entryFields names (Table.insert table key v) rest
    | none => none

end YamlDialect

def yamlDialect : Dialect Yaml.Node where
  text? := YamlDialect.text?
  integer? v := (YamlDialect.typedText? "int" v).bind Yaml.integer?
  size? v := (YamlDialect.typedText? "int" v).bind Yaml.size?
  flag? v := (YamlDialect.typedText? "bool" v).bind Yaml.bool?
  isNothing? := YamlDialect.isNothing?
  items? := YamlDialect.items?
  texts? v := (YamlDialect.entries? v).bind (YamlDialect.entryTexts [])
  record? names v := (YamlDialect.entries? v).bind (YamlDialect.entryFields names [])

/-- The root of a document; a stream without one counts as an empty node. -/
def yamlRoot? (text : String) : Option Yaml.Node :=
  (Yaml.parse? text).map fun root => root.getD Yaml.emptyScalar

def ofYaml? (text : String) : Option Config := (yamlRoot? text).bind (read yamlDialect)

def mockFileOfYaml? (text : String) : Option (List MockDefinition) :=
  (yamlRoot? text).bind (readMockFile yamlDialect)

end StubServer.Config
