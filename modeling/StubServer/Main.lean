import StubServer.Cli

/-! # Program

Reads the files that the arguments lead to, and prints what comes of them.
-/

open StubServer

/-- Contents by path, with why a path could not be read. -/
abbrev Contents := List (String × Except Files.ReadError Text.Utf8.Bytes)

def Contents.files (contents : Contents) : Files where
  readBytes path := (contents.lookup path).getD (.error .notFound)

def readPath (path : String) : IO (Except Files.ReadError Text.Utf8.Bytes) := do
  try
    let bytes ← IO.FS.readBinFile path
    return .ok bytes.toList
  catch
    | .noFileOrDirectory .. => return .error .notFound
    | _ => return .error .unreadable

/-- Reads what is needed and not known yet, again and again: the files of one round name those of
the next. -/
def readRounds (path : String) : Nat → Contents → IO Contents
  | 0, contents => return contents
  | rounds + 1, contents => do
    let missing := (Cli.neededPaths contents.files path).filter fun p => (contents.lookup p).isNone
    let more ← missing.mapM fun p => return (p, ← readPath p)
    readRounds path rounds (contents ++ more)

def readFiles (arguments : List String) : IO Files := do
  match Cli.Request.ofArguments arguments with
  | .ok (.run i) => return Contents.files (← readRounds i.configPath 3 [])
  | _ => return Contents.files []

def main (arguments : List String) : IO UInt32 := do
  match Cli.run (← readFiles arguments) arguments with
  | .exit code output complaint =>
    IO.print output
    IO.eprint complaint
    return UInt32.ofNat code
  | .serve _ =>
    IO.eprintln "Error: this program checks configurations and cannot listen"
    return 1
