import StubServer.Proofs.Config.Validation
import StubServer.Proofs.Route.Grammar
import StubServer.Proofs.Server.Reload

/-! # Checks of a configuration

On the way to a snapshot a configuration is checked twice over: all definitions are read before any
template is compiled.  `Source.checks` lists what is asked, in order, and `Decides` says that an outcome
is what such a list comes to: a value if all checks pass, and else the error of the first that fails.
Every function on the way decides checks of its own, and these follow each other as the functions do; so
building a snapshot decides the whole list (`decides_build`), and with it a start and a reload
(`Server.loads_or_first_failing`).
-/

namespace StubServer

open Config (EndpointDefinition)
open Endpoint (Named)

/-- The id of the endpoint that an error is about. -/
def LoadError.endpoint? : LoadError → Option String
  | .invalidPath id _ _ => some id
  | .invalidBodyPattern id => some id
  | .invalidHeaderName id _ => some id
  | .bodyAndBodyFile id => some id
  | .unreadableBodyFile id _ => some id
  | .invalidTemplate id _ => some id
  | .duplicateId id => some id
  | .invalidIdHeader _ => none

/-- The name stands in the text between quotes. -/
def Quotes (name text : String) : Prop := ∃ front back, text = front ++ "'" ++ name ++ "'" ++ back

section Quotes

variable {name text : String}

theorem quotes_of_parts (front back : String) {first last : String} (isFirst : front ++ "'" = first)
    (isLast : "'" ++ back = last) : Quotes name (first ++ name ++ last) :=
  ⟨front, back, by rw [← isFirst, ← isLast]; simp only [String.append_assoc]⟩

theorem Quotes.append (quotes : Quotes name text) (more : String) : Quotes name (text ++ more) := by
  obtain ⟨front, back, rfl⟩ := quotes
  exact ⟨front, back ++ more, String.append_assoc⟩

end Quotes

theorem LoadError.quotes_message {error : LoadError} {id : String}
    (isAbout : error.endpoint? = some id) : Quotes id error.message := by
  have endpoint (back : String) {last : String} (isLast : "'" ++ back = last) :
      Quotes id ("endpoint '" ++ id ++ last) :=
    quotes_of_parts "endpoint " back (by decide) isLast
  cases error with
  | invalidIdHeader => cases isAbout
  | duplicateId =>
    cases isAbout
    exact quotes_of_parts "duplicate endpoint id " "" (by decide) (by decide)
  | invalidPath _ path cause =>
    cases isAbout
    exact (((endpoint ": invalid path '" (by decide)).append path).append "': ").append _
  | invalidBodyPattern =>
    cases isAbout
    exact endpoint ": invalid body pattern: " (by decide)
  | invalidHeaderName _ name =>
    cases isAbout
    exact ((endpoint ": invalid header name '" (by decide)).append name).append _
  | bodyAndBodyFile =>
    cases isAbout
    exact endpoint ": response cannot declare both body and body_file" (by decide)
  | unreadableBodyFile _ path =>
    cases isAbout
    exact ((endpoint ": failed to read body file " (by decide)).append path).append _
  | invalidTemplate _ stage =>
    cases isAbout
    exact ((endpoint ": " (by decide)).append stage.name).append _

/-- Something that is asked on the way to a snapshot: of the settings, or of a definition under the id
that it has been given. -/
inductive Check where
  | idHeader
  /-- The id is none of those that have been given before. -/
  | newId (n : Named) (before : List String)
  | path (n : Named)
  | bodyPattern (n : Named)
  | headerNames (n : Named)
  | oneBody (n : Named)
  | bodyFile (n : Named)
  | template (n : Named) (stage : Stage)

namespace Source

def settings (source : Source) : Config.Settings := source.config.settings

def definitions (source : Source) : List (String × EndpointDefinition) :=
  source.config.definitions

def named (source : Source) : List Named := Endpoint.named source.counter source.definitions

/-- Where the file of a body is. -/
def bodyPath (source : Source) (file : String) : String :=
  TemplateSet.bodyPath source.settings.bodyFilesDir file

/-- The text of the template that a definition declares for a stage. -/
def text? (source : Source) (d : EndpointDefinition) (stage : Stage) : Option String :=
  d.response.text? source.files source.settings.bodyFilesDir stage

/-! ## What is asked of a definition -/

def HasBodyFile (source : Source) (d : EndpointDefinition) : Prop :=
  ∀ file, d.response.bodyFile = some file →
    ∃ text, source.files.readText (source.bodyPath file) = .ok text

def HasTemplate (source : Source) (d : EndpointDefinition) (stage : Stage) : Prop :=
  ∀ text, source.text? d stage = some text → Template.IsTemplate text

/-- The templates of a definition can be compiled. -/
structure CanBeCompiled (source : Source) (d : EndpointDefinition) : Prop where
  bodyFile : source.HasBodyFile d
  template : ∀ stage, source.HasTemplate d stage

end Source

namespace Config.EndpointDefinition

/-- The path is a pattern: it begins with a slash, and each of its segments is in the grammar. -/
def HasPattern (d : EndpointDefinition) : Prop :=
  d.HasSlash ∧ ∀ piece ∈ Route.splitPath d.request.path, Route.Segment.IsText piece

def HasBodyPattern (d : EndpointDefinition) : Prop :=
  ∀ text, d.request.body = some text → ∃ regex, Regex.parse? text = some regex

def HasHeaderNames (d : EndpointDefinition) : Prop :=
  ∀ row ∈ d.request.headers, Http.isHeaderName row.1 = true

/-- A definition can be read, whatever its id. -/
@[mk_iff]
structure CanBeRead (d : EndpointDefinition) : Prop where
  pattern : d.HasPattern
  bodyPattern : d.HasBodyPattern
  headerNames : d.HasHeaderNames
  oneBody : d.HasOneBody

end Config.EndpointDefinition

namespace Check

def Passes (source : Source) : Check → Prop
  | .idHeader => Http.isHeaderName source.settings.endpointIdHeader = true
  | .newId n before => n.id ∉ before
  | .path n => n.definition.HasPattern
  | .bodyPattern n => n.definition.HasBodyPattern
  | .headerNames n => n.definition.HasHeaderNames
  | .oneBody n => n.definition.HasOneBody
  | .bodyFile n => source.HasBodyFile n.definition
  | .template n stage => source.HasTemplate n.definition stage

/-- The errors as which a check may be reported when it fails. -/
def Reports (source : Source) (error : LoadError) : Check → Prop
  | .idHeader => error = .invalidIdHeader source.settings.endpointIdHeader
  | .newId n _ => error = .duplicateId n.id
  | .path n => ∃ cause, Route.Pattern.parse n.definition.request.path = .error cause ∧
      error = .invalidPath n.id n.definition.request.path cause
  | .bodyPattern n => error = .invalidBodyPattern n.id
  | .headerNames n => ∃ row ∈ n.definition.request.headers, ¬ Http.isHeaderName row.1 = true ∧
      error = .invalidHeaderName n.id row.1
  | .oneBody n => error = .bodyAndBodyFile n.id
  | .bodyFile n => ∃ file, n.definition.response.bodyFile = some file ∧
      error = .unreadableBodyFile n.id (source.bodyPath file)
  | .template n stage => error = .invalidTemplate n.id stage

/-- The definition that is checked. -/
def named? : Check → Option Named
  | .idHeader => none
  | .newId n _ => some n
  | .path n => some n
  | .bodyPattern n => some n
  | .headerNames n => some n
  | .oneBody n => some n
  | .bodyFile n => some n
  | .template n _ => some n

theorem Reports.endpoint?_eq {source : Source} {c : Check} {error : LoadError}
    (reports : c.Reports source error) : error.endpoint? = c.named?.map (·.id) := by
  cases c with
  | path n =>
    obtain ⟨cause, _, rfl⟩ := reports
    rfl
  | headerNames n =>
    obtain ⟨row, _, _, rfl⟩ := reports
    rfl
  | bodyFile n =>
    obtain ⟨file, _, rfl⟩ := reports
    rfl
  | _ => rw [show error = _ from reports]; rfl

/-! ## The order of checks -/

/-- What is asked of a definition when it is read, behind others with the ids `before`. -/
def reading (before : List String) (n : Named) : List Check :=
  [.newId n before, .path n, .bodyPattern n, .headerNames n, .oneBody n]

/-- What is asked of a definition when its templates are compiled. -/
def compiling (n : Named) : List Check :=
  [.bodyFile n, .template n .status, .template n .headers, .template n .body]

def readingAll (before : List String) : List Named → List Check
  | [] => []
  | n :: rest => reading before n ++ readingAll (n.id :: before) rest

theorem exists_of_mem_readingAll {c : Check} {before : List String} {ns : List Named}
    (isAsked : c ∈ readingAll before ns) :
    ∃ front n back, ns = front ++ n :: back ∧
      c ∈ reading ((front.map (·.id)).reverse ++ before) n := by
  induction ns generalizing before with
  | nil => cases isAsked
  | cons m rest ih =>
    rw [readingAll, List.mem_append] at isAsked
    rcases isAsked with here | later
    · exact ⟨[], m, rest, rfl, here⟩
    · obtain ⟨front, n, back, rfl, isAsked⟩ := ih later
      exact ⟨m :: front, n, back, rfl, by simpa using isAsked⟩

end Check

/-- All that is asked of a configuration, in order: the definitions are read one after the other, and
only then are their templates compiled. -/
def Source.checks (source : Source) : List Check :=
  .idHeader :: (Check.readingAll [] source.named ++ source.named.flatMap Check.compiling)

section Asked

variable {source : Source} {n : Named} {before : List String}

theorem Source.mem_named_of_asked {c : Check} (isAsked : c ∈ source.checks)
    (isAbout : c.named? = some n) : n ∈ source.named := by
  rw [checks, List.mem_cons, List.mem_append, List.mem_flatMap] at isAsked
  rcases isAsked with rfl | isReading | ⟨m, inList, isCompiling⟩
  · cases isAbout
  · obtain ⟨front, m, back, isSplit, isReading⟩ := Check.exists_of_mem_readingAll isReading
    have same : c.named? = some m := by
      simp only [Check.reading, List.mem_cons, List.not_mem_nil, or_false] at isReading
      rcases isReading with rfl | rfl | rfl | rfl | rfl <;> rfl
    cases same.symm.trans isAbout
    rw [isSplit]
    exact List.mem_append_cons_self
  · have same : c.named? = some m := by
      simp only [Check.compiling, List.mem_cons, List.not_mem_nil, or_false] at isCompiling
      rcases isCompiling with rfl | rfl | rfl | rfl <;> rfl
    cases same.symm.trans isAbout
    exact inList

/-- An id is compared with those of all definitions before. -/
theorem Source.before_of_asked (isAsked : .newId n before ∈ source.checks) :
    ∃ front back, source.named = front ++ n :: back ∧ before = (front.map (·.id)).reverse := by
  rw [checks, List.mem_cons, List.mem_append, List.mem_flatMap] at isAsked
  rcases isAsked with isHeader | isReading | ⟨m, inList, isCompiling⟩
  · cases isHeader
  · obtain ⟨front, m, back, isSplit, isReading⟩ := Check.exists_of_mem_readingAll isReading
    simp only [Check.reading, List.append_nil, List.mem_cons, Check.newId.injEq, reduceCtorEq,
      List.not_mem_nil, or_false] at isReading
    obtain ⟨rfl, rfl⟩ := isReading
    exact ⟨front, back, isSplit, rfl⟩
  · simp [Check.compiling] at isCompiling

end Asked

namespace Check

/-! ## Outcomes -/

section Outcomes

variable {source : Source} {α β : Type} {checks more : List Check} {c : Check} {error : LoadError}

/-- The outcome is a value if all of the checks pass, and else an error that the first one to fail
reports. -/
inductive Decides (source : Source) : List Check → Except LoadError α → Prop
  | passed {a : α} : Decides source [] (.ok a)
  | behind {c : Check} {rest : List Check} {outcome : Except LoadError α} : c.Passes source →
      Decides source rest outcome → Decides source (c :: rest) outcome
  | refused {c : Check} {rest : List Check} {error : LoadError} : ¬ c.Passes source →
      c.Reports source error → Decides source (c :: rest) (.error error)

theorem Decides.bind {outcome : Except LoadError α} {f : α → Except LoadError β}
    (first : Decides source checks outcome)
    (rest : ∀ a, outcome = .ok a → Decides source more (f a)) :
    Decides source (checks ++ more) (outcome.bind f) := by
  induction first with
  | passed => exact rest _ rfl
  | behind passes _ ih => exact .behind passes (ih rest)
  | refused fails reports => exact .refused fails reports

theorem Decides.map {outcome : Except LoadError α} (f : α → β)
    (decides : Decides source checks outcome) : Decides source checks (outcome.map f) := by
  induction decides with
  | passed => exact .passed
  | behind passes _ ih => exact .behind passes ih
  | refused fails reports => exact .refused fails reports

/-- Only the errors of an outcome are decided. -/
theorem Decides.congr {outcome : Except LoadError α} {outcome' : Except LoadError β}
    (decides : Decides source checks outcome)
    (same : ∀ error, outcome = .error error ↔ outcome' = .error error) :
    Decides source checks outcome' := by
  induction decides with
  | passed =>
    cases outcome' with
    | ok b => exact .passed
    | error error => cases (same error).2 rfl
  | behind passes _ ih => exact .behind passes (ih same)
  | refused fails reports =>
    rw [(same _).1 rfl]
    exact .refused fails reports

theorem Decides.of_passes {outcome : Except LoadError α} (decides : Decides source checks outcome)
    (pass : ∀ c ∈ checks, c.Passes source) : ∃ a, outcome = .ok a := by
  induction decides with
  | passed => exact ⟨_, rfl⟩
  | behind _ _ ih => exact ih (List.forall_mem_cons.1 pass).2
  | refused fails => exact absurd (List.forall_mem_cons.1 pass).1 fails

theorem Decides.passes_of_ok {outcome : Except LoadError α} (decides : Decides source checks outcome)
    {a : α} (succeeds : outcome = .ok a) : ∀ c ∈ checks, c.Passes source := by
  induction decides with
  | passed => exact List.forall_mem_nil _
  | behind passes _ ih => exact List.forall_mem_cons.2 ⟨passes, ih succeeds⟩
  | refused => cases succeeds

theorem Decides.first_of_error {outcome : Except LoadError α} (decides : Decides source checks outcome)
    (fails : outcome = .error error) :
    ∃ before c after, checks = before ++ c :: after ∧ (∀ b ∈ before, b.Passes source) ∧
      ¬ c.Passes source ∧ c.Reports source error := by
  induction decides with
  | passed => cases fails
  | @behind c rest _ passes _ ih =>
    obtain ⟨before, first, after, rfl, pass, failing⟩ := ih fails
    exact ⟨c :: before, first, after, rfl, List.forall_mem_cons.2 ⟨passes, pass⟩, failing⟩
  | @refused c rest _ failing reports =>
    cases fails
    exact ⟨[], c, rest, rfl, List.forall_mem_nil _, failing, reports⟩

end Outcomes

/-! ## Reading definitions -/

section Reading

variable (source : Source)

/-- The name of the header in small letters. -/
def readIdHeader : Except LoadError String :=
  match Http.headerName? source.settings.endpointIdHeader with
  | some name => .ok name
  | none => .error (.invalidIdHeader source.settings.endpointIdHeader)

theorem decides_idHeader : Decides source [.idHeader] (readIdHeader source) := by
  unfold readIdHeader Http.headerName?
  by_cases isName : Http.isHeaderName source.settings.endpointIdHeader = true
  · rw [if_pos isName]
    exact .behind isName .passed
  · rw [if_neg isName]
    exact .refused isName rfl

theorem readBodyPattern_cases (id : String) (text? : Option String) :
    (∃ body, Endpoint.readBodyPattern id text? = .ok body ∧
      ∀ text, text? = some text → ∃ regex, Regex.parse? text = some regex) ∨
    Endpoint.readBodyPattern id text? = .error (.invalidBodyPattern id) ∧
      ∃ text, text? = some text ∧ Regex.parse? text = none := by
  cases text? with
  | none => exact .inl ⟨none, rfl, fun _ declared => by cases declared⟩
  | some text =>
    rw [Endpoint.readBodyPattern]
    cases parsed : Regex.parse? text with
    | none => exact .inr ⟨rfl, text, rfl, parsed⟩
    | some regex =>
      refine .inl ⟨_, rfl, fun other declared => ?_⟩
      cases declared
      exact ⟨regex, parsed⟩

theorem readHeaders_cases (id : String) (rows : List (String × String)) :
    (∃ headers, Endpoint.readHeaders id rows = .ok headers ∧
      ∀ row ∈ rows, Http.isHeaderName row.1 = true) ∨
    ∃ row ∈ rows, ¬ Http.isHeaderName row.1 = true ∧
      Endpoint.readHeaders id rows = .error (.invalidHeaderName id row.1) := by
  induction rows with
  | nil => exact .inl ⟨[], rfl, List.forall_mem_nil _⟩
  | cons row rest ih =>
    obtain ⟨name, value⟩ := row
    rw [Endpoint.readHeaders, Http.headerName?]
    by_cases isName : Http.isHeaderName name = true
    · rw [if_pos isName]
      rcases ih with ⟨headers, read, areNames⟩ | ⟨row, inRest, notName, refused⟩
      · simp only [read]
        exact .inl ⟨_, rfl, List.forall_mem_cons.2 ⟨isName, areNames⟩⟩
      · simp only [refused]
        exact .inr ⟨row, List.mem_cons_of_mem _ inRest, notName, rfl⟩
    · rw [if_neg isName]
      exact .inr ⟨_, List.mem_cons_self .., isName, rfl⟩

theorem decides_read (n : Named) :
    Decides source [.path n, .bodyPattern n, .headerNames n, .oneBody n] n.read := by
  unfold Named.read Endpoint.compile Endpoint.readExpectation
  cases parsed : Route.Pattern.parse n.definition.request.path with
  | error cause =>
    refine .refused (fun isPattern => ?_) ⟨cause, parsed, rfl⟩
    obtain ⟨p, isParsed⟩ := Route.Pattern.exists_parse_iff.2 isPattern
    rw [parsed] at isParsed
    cases isParsed
  | ok pattern =>
    refine .behind (Route.Pattern.exists_parse_iff.1 ⟨pattern, parsed⟩) ?_
    rcases readBodyPattern_cases n.id n.definition.request.body with ⟨body, read, isPattern⟩ |
      ⟨refused, text, declared, notPattern⟩
    · refine .behind isPattern ?_
      rcases readHeaders_cases n.id n.definition.request.headers with ⟨headers, readRows, areNames⟩ |
        ⟨row, inRows, notName, refused⟩
      · refine .behind areNames ?_
        simp only [read, readRows]
        split
        · next both => exact .refused (fun one => EndpointDefinition.hasOneBody_iff.1 one both) rfl
        · next one => exact .behind (EndpointDefinition.hasOneBody_iff.2 one) .passed
      · simp only [read, refused]
        exact .refused (fun areNames => notName (areNames row inRows)) ⟨row, inRows, notName, rfl⟩
    · simp only [refused]
      refine .refused (fun isPattern => ?_) rfl
      obtain ⟨regex, isParsed⟩ := isPattern text declared
      rw [notPattern] at isParsed
      cases isParsed

theorem decides_loadFrom (counter : Nat) (before : List String)
    (defs : List (String × EndpointDefinition)) :
    Decides source (readingAll before (Endpoint.named counter defs))
      (Endpoint.loadFrom counter before defs).2 := by
  -- what is loaded later has more ids before it, and finds another counter
  induction defs generalizing counter before with
  | nil => exact .passed
  | cons row rest ih =>
    obtain ⟨mock, d⟩ := row
    rcases chosen : Endpoint.chooseId counter d.id with ⟨id, next⟩
    rw [Endpoint.named_cons chosen, Endpoint.loadFrom_cons chosen]
    by_cases isUsed : id ∈ before
    · rw [if_pos isUsed]
      exact .refused (fun isNew => isNew isUsed) rfl
    · rw [if_neg isUsed]
      exact .behind isUsed ((decides_read source ⟨id, mock, d⟩).bind fun e _ => (ih ..).map (e :: ·))

end Reading

/-! ## Compiling templates -/

section Compiling

variable (source : Source) {n : Named} {e : Endpoint} {set : TemplateSet}

/-- A text that is declared for a stage is registered in front of others. -/
theorem decides_register {stage : Stage} {text? : Option String}
    (declares : source.text? n.definition stage = text?) (texts : List (Stage × String))
    {checks : List Check} (others : ∀ set, Decides source checks (TemplateSet.register set n.id texts).2)
    (set : TemplateSet) :
    Decides source (.template n stage :: checks)
      (set.register n.id ((text?.map fun text => (stage, text)).toList ++ texts)).2 := by
  cases text? with
  | none =>
    -- nothing is registered, and nothing is asked
    refine .behind (fun text declared => ?_) (others set)
    rw [declares] at declared
    cases declared
  | some text =>
    rw [Option.map_some, Option.toList_some, List.singleton_append, TemplateSet.register_cons]
    split
    · next notRead =>
      refine .refused (fun hasTemplate => ?_) rfl
      obtain ⟨t, read⟩ := Template.exists_parse?_iff.2 (hasTemplate text declares)
      rw [notRead] at read
      cases read
    · next t read =>
      refine .behind (fun other declared => ?_) (others _)
      cases declares.symm.trans declared
      exact Template.exists_parse?_iff.1 ⟨t, read⟩

variable (isId : e.id = n.id) (isResponse : e.response = n.definition.response)
  (isDir : set.bodyFilesDir = source.settings.bodyFilesDir)

include isId isResponse isDir

theorem bodyText_cases (one : n.definition.HasOneBody) :
    (∃ body, set.bodyText source.files e = .ok body ∧ source.HasBodyFile n.definition) ∨
    ∃ file cause, n.definition.response.bodyFile = some file ∧
      source.files.readText (source.bodyPath file) = .error cause ∧
      set.bodyText source.files e = .error (.unreadableBodyFile n.id (source.bodyPath file)) := by
  unfold TemplateSet.bodyText Source.HasBodyFile
  rw [isResponse, isDir, isId]
  rcases one with noBody | noFile
  · rw [noBody]
    cases isFile : n.definition.response.bodyFile with
    | none => exact .inl ⟨none, rfl, fun _ declared => by cases declared⟩
    | some file =>
      cases read : source.files.readText (TemplateSet.bodyPath source.settings.bodyFilesDir file) with
      | ok text =>
        simp only [read]
        exact .inl ⟨some text, rfl, fun other declared => by cases declared; exact ⟨text, read⟩⟩
      | error cause =>
        simp only [read]
        exact .inr ⟨file, cause, rfl, read, rfl⟩
  · rw [noFile]
    cases n.definition.response.body <;> exact .inl ⟨_, rfl, fun _ declared => by cases declared⟩

theorem decides_compile (one : n.definition.HasOneBody) :
    Decides source (compiling n) (set.compile source.files e).2 := by
  unfold TemplateSet.compile
  rcases bodyText_cases source isId isResponse isDir one with ⟨body, found, hasFile⟩ |
    ⟨file, cause, isFile, notRead, refused⟩
  · have isBody : source.text? n.definition .body = body := by
      rw [Source.text?, ← isResponse, ← isDir]
      exact TemplateSet.text?_body found
    have isHeaders : source.text? n.definition .headers = e.response.headers := by
      rw [isResponse]
      rfl
    have isStatus : source.text? n.definition .status = some e.response.status := by
      rw [isResponse]
      rfl
    rw [found, isId]
    dsimp only
    refine .behind hasFile (decides_register source isStatus (_ ++ _) (fun set => ?_) set)
    refine decides_register source isHeaders _ (fun set => ?_) set
    -- the body comes last, in front of nothing
    rw [← List.append_nil (Option.toList _)]
    exact decides_register source isBody [] (fun _ => .passed) set
  · rw [refused]
    refine .refused (fun hasFile => ?_) ⟨file, isFile, rfl⟩
    obtain ⟨text, read⟩ := hasFile file isFile
    rw [notRead] at read
    cases read

omit isId isResponse

theorem decides_compileAll {ns : List Named} {es : List Endpoint}
    (reads : List.Forall₂ (fun n e => n.read = .ok e) ns es) :
    Decides source (ns.flatMap compiling) (set.compileAll source.files es) := by
  induction reads generalizing set with
  | nil => exact .passed
  | @cons n e ns es read _ ih =>
    rw [List.flatMap_cons, TemplateSet.compileAll_cons]
    -- a definition that has been read has passed this check before
    have one : n.definition.HasOneBody :=
      (decides_read source n).passes_of_ok read (.oneBody n) (by simp)
    refine (decides_compile source (Endpoint.id_compile read) (Endpoint.response_compile read) isDir
      one).bind fun _ _ => ih ?_
    rw [TemplateSet.sameBesides_compile.bodyFilesDir, isDir]

end Compiling

end Check

/-- The steps on the way to a snapshot, each of which may fail. -/
theorem Source.build_eq (source : Source) : source.build =
    (Check.readIdHeader source).bind fun idHeader =>
      (Endpoint.load source.counter source.config).2.bind fun es =>
        ((TemplateSet.empty (es.map (·.id)) source.settings.bodyFilesDir).compileAll source.files es).map
          fun templates => ⟨.ofList es, templates, source.settings, idHeader⟩ := by
  unfold Source.build Snapshot.build Check.readIdHeader Source.settings
  cases Http.headerName? source.config.settings.endpointIdHeader with
  | none => rfl
  | some idHeader =>
    dsimp only [Except.bind]
    rcases Endpoint.load source.counter source.config with ⟨_, cause | es⟩
    · rfl
    · dsimp only [Except.bind]
      cases (TemplateSet.empty (es.map (·.id)) source.config.settings.bodyFilesDir).compileAll
        source.files es <;> rfl

/-- Building a snapshot comes to what the checks of its source come to, in their order. -/
theorem Source.decides_build (source : Source) : Check.Decides source source.checks source.build := by
  rw [Source.build_eq]
  refine (Check.decides_idHeader source).bind fun idHeader _ => ?_
  refine (Check.decides_loadFrom source source.counter [] source.definitions).bind fun es loaded => ?_
  exact (Check.decides_compileAll source rfl (Endpoint.load_eq_ok_iff.1 loaded).2).map _

/-! ## All checks -/

namespace Check

variable {source : Source}

theorem passes_reading_iff {before : List String} {ns : List Named} :
    (∀ c ∈ readingAll before ns, c.Passes source) ↔
      ((∀ id ∈ ns.map (·.id), id ∉ before) ∧ (ns.map (·.id)).Nodup) ∧
        ∀ n ∈ ns, n.definition.CanBeRead := by
  induction ns generalizing before with
  | nil => simp [readingAll]
  | cons n rest ih =>
    have here : (∀ c ∈ reading before n, c.Passes source) ↔
        n.id ∉ before ∧ n.definition.CanBeRead := by
      simp [reading, Passes, EndpointDefinition.canBeRead_iff]
    rw [readingAll, List.forall_mem_append, here, ih, List.map_cons, Endpoint.new_cons,
      List.forall_mem_cons]
    tauto

theorem passes_compiling_iff {ns : List Named} :
    (∀ c ∈ ns.flatMap compiling, c.Passes source) ↔
      ∀ n ∈ ns, source.CanBeCompiled n.definition := by
  have here (n : Named) :
      (∀ c ∈ compiling n, c.Passes source) ↔ source.CanBeCompiled n.definition := by
    simp only [compiling, List.forall_mem_cons, Passes]
    constructor
    · rintro ⟨bodyFile, status, headers, body, _⟩
      exact ⟨bodyFile, fun stage => by cases stage <;> assumption⟩
    · rintro ⟨bodyFile, template⟩
      exact ⟨bodyFile, template .status, template .headers, template .body, List.forall_mem_nil _⟩
  simp only [List.mem_flatMap, forall_exists_index, and_imp]
  exact ⟨fun all n inList => (here n).1 fun c => all c n inList,
    fun all c n inList => (here n).2 (all n inList) c⟩

end Check

namespace Source

/-- All that a configuration needs to be served. -/
structure Loadable (source : Source) : Prop where
  idHeader : Http.isHeaderName source.settings.endpointIdHeader = true
  distinct : (Endpoint.ids source.counter source.definitions).Nodup
  reads : ∀ row ∈ source.definitions, row.2.CanBeRead
  compiles : ∀ row ∈ source.definitions, source.CanBeCompiled row.2

theorem passes_checks_iff {source : Source} :
    (∀ c ∈ source.checks, c.Passes source) ↔ source.Loadable := by
  rw [checks, List.forall_mem_cons, List.forall_mem_append, Check.passes_reading_iff,
    Check.passes_compiling_iff, named, Endpoint.forall_named_iff EndpointDefinition.CanBeRead,
    Endpoint.forall_named_iff source.CanBeCompiled]
  constructor
  · rintro ⟨idHeader, ⟨⟨_, distinct⟩, reads⟩, compiles⟩
    exact ⟨idHeader, distinct, reads, compiles⟩
  · rintro ⟨idHeader, distinct, reads, compiles⟩
    exact ⟨idHeader, ⟨⟨fun _ _ => List.not_mem_nil, distinct⟩, reads⟩, compiles⟩

/-- The outcome of loading is the one that the checks ask for: an error is that of the first check that
fails, and names the endpoint that this check is about. -/
structure Answers (source : Source) {α : Type} (outcome : Except LoadError α) : Prop where
  succeeds_iff : (∃ a, outcome = .ok a) ↔ source.Loadable
  first : ∀ error, outcome = .error error →
    ∃ before c after, source.checks = before ++ c :: after ∧ (∀ b ∈ before, b.Passes source) ∧
      ¬ c.Passes source ∧ c.Reports source error ∧ error.endpoint? = c.named?.map (·.id)
  named : ∀ error, outcome = .error error → ∀ id, error.endpoint? = some id → Quotes id error.message

theorem answers_of_decides {source : Source} {α : Type} {outcome : Except LoadError α}
    (decides : Check.Decides source source.checks outcome) : source.Answers outcome where
  succeeds_iff := by
    rw [← passes_checks_iff]
    exact ⟨fun ⟨_, succeeds⟩ => decides.passes_of_ok succeeds, decides.of_passes⟩
  first error fails := by
    obtain ⟨before, c, after, isSplit, pass, failing, reports⟩ := decides.first_of_error fails
    exact ⟨before, c, after, isSplit, pass, failing, reports, reports.endpoint?_eq⟩
  named _ _ _ := LoadError.quotes_message

end Source

/-- A start and a reload succeed exactly if all that is asked of the configuration holds.  Else the error
is that of the first check that fails: the name of the header, then what is asked of the definitions when
they are read, one after the other, and only if nothing of this fails what is asked of their templates,
again definition by definition.  It names the endpoint that it is about. -/
theorem Server.loads_or_first_failing (files : Files) (config : Config) :
    (∀ history resources, Source.Answers ⟨files, config, 0⟩ (start files config history resources)) ∧
    ∀ s : Server, Source.Answers ⟨files, config, s.counter⟩ (s.reload files config).2 := by
  refine ⟨fun history resources => ?_, fun s => ?_⟩
  · have decides := Source.decides_build ⟨files, config, 0⟩
    refine Source.answers_of_decides (decides.congr fun error => ?_)
    unfold start Source.build
    rcases Snapshot.build files 0 config with ⟨counter, cause | snapshot⟩ <;> simp
  · have decides := Source.decides_build ⟨files, config, s.counter⟩
    refine Source.answers_of_decides (decides.congr fun error => ?_)
    rcases s.reload_cases files config with ⟨_, _, built, reloaded⟩ | ⟨_, _, failed, reloaded⟩
    · rw [built, reloaded]
      simp
    · rw [failed, reloaded]
      simp

/-- The first of these pages has its body in a file, and the second has no leading slash. -/
def pagesWithFaults : Config where
  settings := .default
  mockFiles := []
  mocks := [⟨"pages", [
    ⟨some "a", 0, ⟨none, none, "GET", "/", [], [], none⟩, ⟨"200", none, none, some "page"⟩⟩,
    ⟨some "b", 0, ⟨none, none, "GET", "b", [], [], none⟩, .default⟩]⟩]

/-- Without the file, the first page cannot be compiled, but what is reported is that the second cannot
be read. -/
theorem Server.loads_or_first_failing_second :
    let source : Source := ⟨noFiles, pagesWithFaults, 0⟩
    let error := LoadError.invalidPath "b" "b" .noLeadingSlash
    (pageServer.reload noFiles pagesWithFaults).2 = .error error ∧ ¬ source.Loadable ∧
      ∃ before c after, source.checks = before ++ c :: after ∧ (∀ b ∈ before, b.Passes source) ∧
        c.Reports source error ∧ some "b" = c.named?.map (·.id) := by
  intro source error
  have refused : (pageServer.reload noFiles pagesWithFaults).2 = .error error := by cbv
  have answers : source.Answers (pageServer.reload noFiles pagesWithFaults).2 :=
    (loads_or_first_failing noFiles pagesWithFaults).2 pageServer
  obtain ⟨before, c, after, isSplit, pass, _, reports, isAbout⟩ := answers.first error refused
  refine ⟨refused, fun loadable => ?_, before, c, after, isSplit, pass, reports, isAbout⟩
  obtain ⟨_, loaded⟩ := answers.succeeds_iff.2 loadable
  rw [refused] at loaded
  cases loaded

end StubServer
