/-!
# File trees

A tree of files, given by the paths of its files and of its empty directories. A path is a list of
names between slashes; empty names and single points stand for nothing, and two points lead one
directory up. A path that starts with a slash leads from the root, every other one from the working
directory, and the empty text is no path. A file may be there without being readable as text.
-/

set_option autoImplicit false

namespace DataStep

/-- The files and directories of a tree by the names on their paths from the root. -/
structure FileTree where
  /-- The directory from which relative paths lead. -/
  workingDirectory : List String
  /-- The files, each with its text if it can be read. -/
  files : List (List String × Option String)
  directories : List (List String)
  deriving DecidableEq, Inhabited

namespace FileTree

/-- The tree without files. -/
def empty : FileTree := ⟨[], [], []⟩

/-- The names between the slashes of a path. -/
def pieces : List Char → List (List Char)
  | [] => [[]]
  | '/' :: rest => [] :: pieces rest
  | c :: rest =>
    match pieces rest with
    | [] => [[c]]
    | p :: ps => (c :: p) :: ps

/-- The names of a path that lead somewhere. -/
def names (path : String) : List String :=
  ((pieces path.toList).filter fun p => p != [] && p != ['.']).map String.ofList

/-- The directory from which a path leads: the root if it starts with a slash. -/
def base (workingDirectory : List String) (path : String) : List String :=
  if path.toList.head? == some '/' then [] else workingDirectory

/-- The tree of files and empty directories with the working directory `/home`. The path of a
directory ends in a slash, and a file without a text cannot be read. -/
def ofList (entries : List (String × Option String)) : FileTree :=
  let workingDirectory := ["home"]
  let place := fun path => base workingDirectory path ++ names path
  let (directories, files) := entries.partition fun e => e.1.toList.getLast? == some '/'
  { workingDirectory
    files := files.map fun e => (place e.1, e.2)
    directories := directories.map fun e => place e.1 }

/-- Whether the names lead to a directory. -/
def hasDirectory (tree : FileTree) (path : List String) : Bool :=
  path.isPrefixOf tree.workingDirectory || tree.directories.any (path.isPrefixOf ·) ||
    tree.files.any fun file => path.isPrefixOf file.1 && path != file.1

/-- Follows the names of a path from a place; two points lead up from a directory, and the root is
above itself. -/
def follow (tree : FileTree) (place : List String) : List String → Option (List String)
  | [] => some place
  | ".." :: rest => if tree.hasDirectory place then tree.follow place.dropLast rest else none
  | name :: rest => tree.follow (place ++ [name]) rest

/-- The place of a path in the tree. -/
def locate (tree : FileTree) (path : String) : Option (List String) :=
  if path.isEmpty then none else tree.follow (base tree.workingDirectory path) (names path)

/-- Whether a path leads to a directory. -/
def isDirectory (tree : FileTree) (path : String) : Bool :=
  (tree.locate path).any tree.hasDirectory

/-- The file to which a path leads, with its text if it can be read; a path that ends in a slash
leads to none. -/
def file? (tree : FileTree) (path : String) : Option (Option String) :=
  if (pieces path.toList).getLast?.all fun p => p.isEmpty || p == ['.'] then none
  else (tree.locate path).bind fun place => tree.files.lookup place

/-- Whether a path leads to a file, readable or not. -/
def isFile (tree : FileTree) (path : String) : Bool := (tree.file? path).isSome

/-- The text of the file to which a path leads. -/
def read? (tree : FileTree) (path : String) : Option String := (tree.file? path).join

/-- The path of a file in a directory. A file that starts with a slash stands for itself. -/
def join (directory file : String) : String :=
  if file.toList.head? == some '/' || directory.isEmpty then file
  else if directory.toList.getLast? == some '/' then directory ++ file
  else directory ++ "/" ++ file

end FileTree

end DataStep
