import StubServer.Files

/-! # Trees of files

Files as a value: every file has a path of names below one directory, in which relative paths
begin.  A path may climb with `..`, but only out of directories that are there, and nothing is
found outside.
-/

namespace StubServer

open Text.Utf8 (Bytes)

/-- Files by the names on the way to them. -/
abbrev FileTree := List (List String × Bytes)

namespace FileTree

/-- The names between the slashes of a path, without those that stay in place. -/
def pathNames (path : String) : List String :=
  ((Text.splitChars '/' path.toList).map String.ofList).filter fun name => name != "" && name != "."

def isDirectory (tree : FileTree) (names : List String) : Bool :=
  names.isEmpty || tree.any fun file => names.length < file.1.length && names.isPrefixOf file.1

/-- Follows names from a directory; every name but the last has to lead to a directory. -/
def resolve (tree : FileTree) (current : List String) : List String → Option (List String)
  | [] => some current
  | name :: rest =>
    if !isDirectory tree current then none
    else if name = ".." then
      if current.isEmpty then none else resolve tree current.dropLast rest
    else resolve tree (current ++ [name]) rest

/-- The path ends in a way that only a directory can. -/
def asksForDirectory (path : String) : Bool :=
  match (Text.splitChars '/' path.toList).getLast? with
  | some last => last == [] || last == ['.']
  | none => true

def find? (tree : FileTree) (names : List String) : Option Bytes :=
  (List.find? (fun file => file.1 == names) tree).map (·.2)

def readBytes (tree : FileTree) (path : String) : Except Files.ReadError Bytes :=
  if path.isEmpty || Files.isAbsolute path then .error .notFound
  else
    match resolve tree [] (pathNames path) with
    | none => .error .notFound
    | some names =>
      match find? tree names with
      | some bytes => if asksForDirectory path then .error .notFound else .ok bytes
      | none => if isDirectory tree names then .error .unreadable else .error .notFound

def files (tree : FileTree) : Files := ⟨readBytes tree⟩

end FileTree

end StubServer
