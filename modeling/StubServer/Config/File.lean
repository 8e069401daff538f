import StubServer.Config.Decode
import StubServer.Config.Validate
import StubServer.Files

/-! # Configuration files

The main file may name further files with groups of endpoints.  Their groups come behind its own
in the order of the list, and the checks run on the whole.  Relative paths in a file are meant
from its directory.
-/

namespace StubServer.Config

inductive ReadError where
  /-- The main file could not be read. -/
  | unreadable
  /-- The document is no configuration. -/
  | malformed
  | mockFileUnreadable (path : String)
  | mockFileMalformed (path : String)
  | invalid (cause : ValidationError)
  deriving DecidableEq, Repr

/-- The text of an error, as far as it does not come from the system or the reader of documents. -/
def ReadError.message : ReadError → String
  | .unreadable => ""
  | .malformed => ""
  | .mockFileUnreadable path => "Failed to read mock file " ++ path ++ ": "
  | .mockFileMalformed path => "Failed to parse mock file " ++ path ++ ": "
  | .invalid cause => cause.message

/-- Reads further files in order; the first that fails is reported. -/
def readMockFiles (files : Files) (base : String) : List String → Except ReadError (List MockDefinition)
  | [] => .ok []
  | file :: rest =>
    let path := Files.join base file
    match files.readText path with
    | .error _ => .error (.mockFileUnreadable path)
    | .ok text =>
      match mockFileOfYaml? text with
      | none => .error (.mockFileMalformed path)
      | some mocks =>
        match readMockFiles files base rest with
        | .error e => .error e
        | .ok more => .ok (mocks ++ more)

/-- A relative directory of body files is meant from `base`. -/
def Settings.relocate (s : Settings) (base : String) : Settings :=
  { s with bodyFilesDir := s.bodyFilesDir.map (Files.join base) }

def checked (c : Config) : Except ReadError Config :=
  match c.validate with
  | .error cause => .error (.invalid cause)
  | .ok () => .ok c

/-- Reads a configuration from its text; further files are left alone. -/
def ofText (text : String) : Except ReadError Config :=
  match ofYaml? text with
  | none => .error .malformed
  | some c => checked c

/-- Puts the groups of further files behind those of the main file. -/
def merge (files : Files) (path : String) (c : Config) : Except ReadError Config :=
  let base := Files.parent path
  match readMockFiles files base c.mockFiles with
  | .error e => .error e
  | .ok more => .ok { c with settings := c.settings.relocate base, mocks := c.mocks ++ more }

def ofFile (files : Files) (path : String) : Except ReadError Config :=
  match files.readText path with
  | .error _ => .error .unreadable
  | .ok text =>
    match ofYaml? text with
    | none => .error .malformed
    | some c =>
      match merge files path c with
      | .error e => .error e
      | .ok c => checked c

end StubServer.Config
