import StubServer.Config.File
import StubServer.Files.Tree
import StubServer.Proofs.Config.Validation

/-! # Configurations in several files

The files that a main file names are read one after the other, until one fails (`readMockFiles_eq_ok_iff`,
`readMockFiles_eq_error_iff`).  Their groups come behind those of the main file, and a relative directory is
put behind the one of the main file; all else stays (`Merged`).  Only this whole is validated.  So a file that
fails is reported before anything that validation might find, also in files in front of it
(`ofFile_merges`).
-/

namespace StubServer.Config

variable {files : Files} {base file path text : String} {names : List String} {error : ReadError}

/-! ## Further files -/

/-- The file, as it is named from `base`, can be read as text and holds these groups. -/
def HoldsMocks (files : Files) (base file : String) (mocks : List MockDefinition) : Prop :=
  ∃ text, files.readText (Files.join base file) = .ok text ∧ mockFileOfYaml? text = some mocks

/-- The file holds no groups: it cannot be read, or its text is something else. -/
inductive FailsWith (files : Files) (base file : String) : ReadError → Prop
  | unreadable {cause : Files.ReadError} (fails : files.readText (Files.join base file) = .error cause) :
      FailsWith files base file (.mockFileUnreadable (Files.join base file))
  | malformed {text : String} (reads : files.readText (Files.join base file) = .ok text)
      (noMocks : mockFileOfYaml? text = none) :
      FailsWith files base file (.mockFileMalformed (Files.join base file))

/-- A file fails with this error, and those in front of it do not fail. -/
def FirstFails (files : Files) (base : String) (names : List String) (error : ReadError) : Prop :=
  ∃ before file after, names = before ++ file :: after ∧
    (∀ other ∈ before, ∃ mocks, HoldsMocks files base other mocks) ∧ FailsWith files base file error

theorem holds_or_fails (files : Files) (base file : String) :
    (∃ mocks, HoldsMocks files base file mocks) ∨ ∃ error, FailsWith files base file error := by
  cases reads : files.readText (Files.join base file) with
  | error cause => exact .inr ⟨_, .unreadable reads⟩
  | ok text =>
    cases parses : mockFileOfYaml? text with
    | none => exact .inr ⟨_, .malformed reads parses⟩
    | some mocks => exact .inl ⟨mocks, text, reads, parses⟩

theorem readMockFiles_of_holds {mocks : List MockDefinition} (holds : HoldsMocks files base file mocks)
    (rest : List String) : readMockFiles files base (file :: rest) =
      (readMockFiles files base rest).map fun more => mocks ++ more := by
  obtain ⟨text, reads, parses⟩ := holds
  rw [readMockFiles]
  simp only [reads, parses]
  cases readMockFiles files base rest <;> rfl

theorem readMockFiles_of_fails (fails : FailsWith files base file error) (rest : List String) :
    readMockFiles files base (file :: rest) = .error error := by
  rw [readMockFiles]
  cases fails with
  | unreadable fails => simp only [fails]
  | malformed reads noMocks => simp only [reads, noMocks]

theorem readMockFiles_of_all {contents : List (List MockDefinition)}
    (all : List.Forall₂ (HoldsMocks files base) names contents) :
    readMockFiles files base names = .ok contents.flatten := by
  induction all with
  | nil => rfl
  | cons holds _ ih =>
    rw [readMockFiles_of_holds holds, ih]
    rfl

/-- The files in front of the one that fails are read for nothing, and those behind it not at all. -/
theorem readMockFiles_of_firstFails (failing : FirstFails files base names error) :
    readMockFiles files base names = .error error := by
  obtain ⟨before, file, after, rfl, fine, fails⟩ := failing
  induction before with
  | nil => exact readMockFiles_of_fails fails after
  | cons other rest ih =>
    obtain ⟨⟨mocks, holds⟩, others⟩ := List.forall_mem_cons.1 fine
    rw [List.cons_append, readMockFiles_of_holds holds, ih others]
    rfl

theorem all_hold_or_first_fails (files : Files) (base : String) (names : List String) :
    (∃ contents, List.Forall₂ (HoldsMocks files base) names contents) ∨
      ∃ error, FirstFails files base names error := by
  induction names with
  | nil => exact .inl ⟨[], .nil⟩
  | cons file rest ih =>
    rcases holds_or_fails files base file with ⟨mocks, holds⟩ | ⟨error, fails⟩
    · rcases ih with ⟨contents, all⟩ | ⟨error, before, later, after, rfl, fine, fails⟩
      · exact .inl ⟨mocks :: contents, .cons holds all⟩
      · exact .inr ⟨error, file :: before, later, after, rfl,
          List.forall_mem_cons.2 ⟨⟨mocks, holds⟩, fine⟩, fails⟩
    · exact .inr ⟨error, [], file, rest, rfl, List.forall_mem_nil _, fails⟩

/-! ## The whole -/

/-- The main file with the groups of the further files: theirs come behind its own, a relative directory of
body files is put behind the one of the main file, and all else is as it was. -/
structure Merged (base : String) (main : Config) (contents : List (List MockDefinition))
    (whole : Config) : Prop where
  mocks : whole.mocks = main.mocks ++ contents.flatten
  mockFiles : whole.mockFiles = main.mockFiles
  absentDir : main.settings.bodyFilesDir = none → whole.settings.bodyFilesDir = none
  absoluteDir (dir : String) : main.settings.bodyFilesDir = some dir → Files.isAbsolute dir = true →
    whole.settings.bodyFilesDir = some dir
  relativeDir (dir : String) : main.settings.bodyFilesDir = some dir → Files.isAbsolute dir = false →
    whole.settings.bodyFilesDir = some (Files.join base dir)
  otherSettings : { whole.settings with bodyFilesDir := main.settings.bodyFilesDir } = main.settings

/-- What the files come to when they are put together. -/
def whole (base : String) (main : Config) (contents : List (List MockDefinition)) : Config :=
  { main with settings := main.settings.relocate base, mocks := main.mocks ++ contents.flatten }

section Whole

variable {main c : Config} {contents : List (List MockDefinition)}

theorem join_of_absolute {dir : String} (isAbsolute : Files.isAbsolute dir = true) :
    Files.join base dir = dir := if_pos isAbsolute

theorem merged_whole (base : String) (main : Config) (contents : List (List MockDefinition)) :
    Merged base main contents (whole base main contents) where
  mocks := rfl
  mockFiles := rfl
  absentDir absent := by simp [whole, Settings.relocate, absent]
  absoluteDir dir isDir isAbsolute := by
    simp [whole, Settings.relocate, isDir, join_of_absolute isAbsolute]
  relativeDir dir isDir _ := by simp [whole, Settings.relocate, isDir]
  otherSettings := rfl

/-- There is one way to put the files together. -/
theorem Merged.eq_whole (merged : Merged base main contents c) : c = whole base main contents := by
  have isDir : c.settings.bodyFilesDir = main.settings.bodyFilesDir.map (Files.join base) := by
    cases dir : main.settings.bodyFilesDir with
    | none => exact merged.absentDir dir
    | some dir' =>
      cases isAbsolute : Files.isAbsolute dir' with
      | true => rw [merged.absoluteDir dir' dir isAbsolute, Option.map_some, join_of_absolute isAbsolute]
      | false => exact merged.relativeDir dir' dir isAbsolute
  have settings : c.settings = main.settings.relocate base := by
    rw [Settings.relocate, ← isDir, ← merged.otherSettings]
  obtain ⟨_, _, _⟩ := c
  obtain ⟨mocks, mockFiles, _⟩ := merged
  cases settings
  cases mocks
  cases mockFiles
  rfl

theorem merged_iff : Merged base main contents c ↔ c = whole base main contents := by
  constructor
  · exact Merged.eq_whole
  · rintro rfl
    exact merged_whole base main contents

theorem ofFile_of_all (isText : files.readText path = .ok text) (parses : ofYaml? text = some main)
    (all : List.Forall₂ (HoldsMocks files (Files.parent path)) main.mockFiles contents) :
    ofFile files path = checked (whole (Files.parent path) main contents) := by
  simp only [ofFile, isText, parses, merge, readMockFiles_of_all all]
  rfl

theorem ofFile_of_firstFails (isText : files.readText path = .ok text) (parses : ofYaml? text = some main)
    (failing : FirstFails files (Files.parent path) main.mockFiles error) :
    ofFile files path = .error error := by
  simp only [ofFile, isText, parses, merge, readMockFiles_of_firstFails failing]

theorem checked_eq_ok_iff {c' : Config} : checked c = .ok c' ↔ c.validate = .ok () ∧ c' = c := by
  unfold checked
  split
  · next fails => simp [fails]
  · next passes => simp [passes, eq_comm]

theorem checked_eq_error_iff :
    checked c = .error error ↔ ∃ cause, c.validate = .error cause ∧ error = .invalid cause := by
  unfold checked
  split
  · next cause fails => simp [fails, eq_comm]
  · next passes => simp [passes]

theorem ofFile_eq_ok_iff (isText : files.readText path = .ok text) (parses : ofYaml? text = some main) :
    ofFile files path = .ok c ↔
      ∃ contents, List.Forall₂ (HoldsMocks files (Files.parent path)) main.mockFiles contents ∧
        c = whole (Files.parent path) main contents ∧ c.validate = .ok () := by
  constructor
  · intro loaded
    rcases all_hold_or_first_fails files (Files.parent path) main.mockFiles with
      ⟨contents, all⟩ | ⟨error, failing⟩
    · rw [ofFile_of_all isText parses all, checked_eq_ok_iff] at loaded
      obtain ⟨passes, rfl⟩ := loaded
      exact ⟨contents, all, rfl, passes⟩
    · rw [ofFile_of_firstFails isText parses failing] at loaded
      cases loaded
  · rintro ⟨contents, all, rfl, passes⟩
    rw [ofFile_of_all isText parses all, checked_eq_ok_iff]
    exact ⟨passes, rfl⟩

theorem ofFile_eq_error_iff (isText : files.readText path = .ok text)
    (parses : ofYaml? text = some main) :
    ofFile files path = .error error ↔ FirstFails files (Files.parent path) main.mockFiles error ∨
      ∃ contents c cause, List.Forall₂ (HoldsMocks files (Files.parent path)) main.mockFiles contents ∧
        c = whole (Files.parent path) main contents ∧ c.validate = .error cause ∧
        error = .invalid cause := by
  constructor
  · intro fails
    rcases all_hold_or_first_fails files (Files.parent path) main.mockFiles with
      ⟨contents, all⟩ | ⟨first, failing⟩
    · rw [ofFile_of_all isText parses all, checked_eq_error_iff] at fails
      obtain ⟨cause, refused, rfl⟩ := fails
      exact .inr ⟨contents, _, cause, all, rfl, refused, rfl⟩
    · rw [ofFile_of_firstFails isText parses failing] at fails
      cases fails
      exact .inl failing
  · rintro (failing | ⟨contents, c, cause, all, rfl, refused, rfl⟩)
    · exact ofFile_of_firstFails isText parses failing
    · rw [ofFile_of_all isText parses all, checked_eq_error_iff]
      exact ⟨cause, refused, rfl⟩

/-- The ids that endpoints of the groups declare. -/
def declared (mocks : List MockDefinition) : List String :=
  mocks.flatMap fun mock => mock.endpoints.filterMap (·.id)

theorem declaredIds_whole : Endpoint.declaredIds (whole base main contents).definitions =
    declared main.mocks ++ contents.flatMap declared := by
  rw [Endpoint.declaredIds_eq, map_definitions, List.filterMap_flatMap]
  simp only [whole, List.flatMap_append, List.flatten_eq_flatMap, List.flatMap_assoc]
  rfl

theorem endpointCount_whole : (whole base main contents).endpointCount =
    main.endpointCount + (contents.map fun mocks => (mocks.map (·.endpoints.length)).sum).sum := by
  simp [endpointCount, whole, Function.comp_def]

end Whole

/-- When the text of the main file is a configuration, the files it names are looked up from its directory.  The
configuration that comes of it, if there is one, has the groups of the main file and behind them those of each
file in the listed order, and the settings of the main file with a relative directory of body files put behind its
directory; and there is one exactly if each of the files can be read and holds groups, and this whole is
validated.  An id that is declared twice, in one of the files or in two of them, is refused, and the endpoints of
all files count.  The first file that fails is reported, whatever validation would say. -/
theorem ofFile_merges (files : Files) {path text : String} {main : Config}
    (isText : files.readText path = .ok text) (parses : ofYaml? text = some main) :
    let base := Files.parent path
    (∀ c, ofFile files path = .ok c ↔
      ∃ contents, List.Forall₂ (HoldsMocks files base) main.mockFiles contents ∧
        Merged base main contents c ∧ c.validate = .ok ()) ∧
    (∀ contents c, List.Forall₂ (HoldsMocks files base) main.mockFiles contents →
      Merged base main contents c →
      c.endpointCount =
        main.endpointCount + (contents.map fun mocks => (mocks.map (·.endpoints.length)).sum).sum ∧
      (¬ (declared main.mocks ++ contents.flatMap declared).Nodup →
        ∃ cause, ofFile files path = .error (.invalid cause))) ∧
    ∀ error, ofFile files path = .error error ↔
      FirstFails files base main.mockFiles error ∨
      ∃ contents c cause, List.Forall₂ (HoldsMocks files base) main.mockFiles contents ∧
        Merged base main contents c ∧ c.validate = .error cause ∧ error = .invalid cause := by
  intro base
  simp only [merged_iff]
  refine ⟨fun c => ofFile_eq_ok_iff isText parses, ?_, fun error => ofFile_eq_error_iff isText parses⟩
  rintro contents c all rfl
  refine ⟨endpointCount_whole, fun twice => ?_⟩
  cases validated : (whole base main contents).validate with
  | ok =>
    have distinct := (validate_eq_ok_iff.1 validated).distinct
    rw [declaredIds_whole] at distinct
    exact absurd distinct twice
  | error cause =>
    exact ⟨cause, (ofFile_eq_error_iff isText parses).2 (.inr ⟨contents, _, cause, all, rfl, validated, rfl⟩)⟩

def pagesText : String := "mocks:\n- name: pages\n"

def imagesText : String := "mocks:\n- name: images\n"

def mainText : String :=
  "settings:\n  body_files_dir: bodies\nmock_files: [pages.yaml, images.yaml]\nmocks:\n- name: own\n"

/-- A main file in a directory, and two files beside it that it names. -/
def threeFiles : FileTree := [
  (["conf", "main.yaml"], Text.Utf8.encode mainText),
  (["conf", "images.yaml"], Text.Utf8.encode imagesText),
  (["conf", "pages.yaml"], Text.Utf8.encode pagesText)]

/-- The groups come in the order in which the files are listed, and the bodies are looked for beside them. -/
theorem ofFile_merges_three :
    ∃ c, ofFile threeFiles.files "conf/main.yaml" = .ok c ∧
      c.settings.bodyFilesDir = some "conf/bodies" ∧ c.mocks.map (·.name) = ["own", "pages", "images"] := by
  let main : Config := ⟨{ Settings.default with bodyFilesDir := some "bodies" },
    ["pages.yaml", "images.yaml"], [⟨"own", []⟩]⟩
  let contents : List (List MockDefinition) := [[⟨"pages", []⟩], [⟨"images", []⟩]]
  have isText : threeFiles.files.readText "conf/main.yaml" = .ok mainText := rfl
  have parses : ofYaml? mainText = some main := by decide +kernel
  have isBase : Files.parent "conf/main.yaml" = "conf" := by decide +kernel
  have pages : mockFileOfYaml? pagesText = some [⟨"pages", []⟩] := by decide +kernel
  have images : mockFileOfYaml? imagesText = some [⟨"images", []⟩] := by decide +kernel
  have all : List.Forall₂ (HoldsMocks threeFiles.files "conf") main.mockFiles contents :=
    .cons ⟨pagesText, rfl, pages⟩ (.cons ⟨imagesText, rfl, images⟩ .nil)
  have passes : (whole "conf" main contents).validate = .ok () := by decide +kernel
  have loads := (ofFile_merges threeFiles.files isText parses).1 (whole "conf" main contents)
  rw [isBase] at loads
  exact ⟨_, loads.2 ⟨contents, all, merged_whole .., passes⟩, by decide +kernel, rfl⟩

end StubServer.Config
