/-!
# Files by path

A disk is what a program sees of a file system: the files with their contents, and the folders. A path
is a root and the names below it; what the root is called is left to whoever looks.
-/

namespace LateBound

/-- A place in a file system: the names of the folders from the root on, and last its own. -/
structure Path where
  root : String
  names : List String
  deriving DecidableEq, Repr, Inhabited

namespace Path

def text (path : Path) : String :=
  path.root ++ "/" ++ "/".intercalate path.names

def child (path : Path) (name : String) : Path :=
  { path with names := path.names ++ [name] }

/-- The path itself and the folders above it, nearest first. -/
def upward (path : Path) : List Path :=
  (List.range (path.names.length + 1)).reverse.map fun count =>
    { path with names := path.names.take count }

def isBelow (path folder : Path) : Bool :=
  path.root == folder.root && folder.names.isPrefixOf path.names && path != folder

end Path

/-- Why a file cannot be read. -/
inductive ReadError
  | missing
  | folder
  deriving DecidableEq, Repr

def ReadError.message : ReadError → String
  | missing => "No such file or directory (os error 2)"
  | folder => "Is a directory (os error 21)"

/-- The files with their contents, and the folders that are there even if they are empty. -/
structure Disk where
  files : List (Path × String)
  folders : List Path
  deriving Inhabited

namespace Disk

def isFile (disk : Disk) (path : Path) : Bool :=
  (disk.files.lookup path).isSome

def isFolder (disk : Disk) (path : Path) : Bool :=
  disk.folders.contains path || disk.files.any fun (file, _) => file.isBelow path

def holds (disk : Disk) (path : Path) : Bool :=
  disk.isFile path || disk.isFolder path

def read (disk : Disk) (path : Path) : Except ReadError String :=
  match disk.files.lookup path with
  | some content => .ok content
  | none => .error (if disk.isFolder path then .folder else .missing)

/-- The disk with other contents of a file, which need not have been there. -/
def write (disk : Disk) (path : Path) (content : String) : Disk :=
  { disk with files := (path, content) :: disk.files.filter (·.1 != path) }

@[simp] theorem read_write (disk : Disk) (path : Path) (content : String) :
    (disk.write path content).read path = .ok content := by
  simp [read, write]

end Disk

end LateBound
