import BrowserScript.CommandLine.FileAccess

/-!
A working directory as a value: files at paths, where a path is a list of names. The directories
are the ones that files stand in. Reading leaves the tree as it is, a write that succeeds changes
one file, and one that fails changes nothing.
-/

set_option autoImplicit false

namespace BrowserScript.CommandLine

/-- A path that leaves the working directory starts with `..`, an absolute one with an empty
name. -/
abbrev FilePath := List String

structure FileTree where
  files : List (FilePath × ByteArray) := []

namespace FileTree

def get? (tree : FileTree) (path : FilePath) : Option ByteArray := tree.files.lookup path

/-- Is this the working directory, one above it, or one that a file stands in? -/
def isDirectory (tree : FileTree) (path : FilePath) : Bool :=
  path.all (· = "..") || path = [""] ||
    tree.files.any fun file => path.isPrefixOf file.1 && path ≠ file.1

/-- Goes from a directory one name further. -/
def step (directory : FilePath) (name : String) : FilePath :=
  if name = "" || name = "." then directory
  else if name = ".." then
    match directory.getLast? with
    | some "" => directory
    | some ".." | none => directory ++ [".."]
    | some _ => directory.dropLast
  else directory ++ [name]

/-- The most bytes that a name may have. -/
def nameLimit : Nat := 255

/-- The most bytes that a path may have. -/
def pathLimit : Nat := 4095

/-- Follows names from a directory. What stands in front of another name has to be a directory. -/
def follow (tree : FileTree) : FilePath → List String → Except AccessError FilePath
  | here, [] => .ok here
  | here, name :: rest =>
    if tree.isDirectory here then
      if name.utf8ByteSize > nameLimit then .error .nameTooLong
      else follow tree (step here name) rest
    else if (tree.get? here).isSome then .error .notADirectory
    else .error .notFound

/-- Where the names of a path lead; an empty one in front stands for the root. -/
def locateNames (tree : FileTree) : List String → Except AccessError FilePath
  | "" :: names => tree.follow [""] names
  | names => tree.follow [] names

/-- Where a path leads. -/
def locate (tree : FileTree) (path : String) : Except AccessError FilePath :=
  if path.utf8ByteSize > pathLimit then .error .nameTooLong
  else if path.isEmpty then .error .notFound
  else tree.locateNames (path.splitOn "/")

def read (tree : FileTree) (path : String) : Except AccessError ByteArray :=
  match tree.locate path with
  | .error error => .error error
  | .ok place =>
    match tree.get? place with
    | some bytes => .ok bytes
    | none => if tree.isDirectory place then .error .isADirectory else .error .notFound

/-- Sets the bytes of a file, which need not exist. -/
def put (tree : FileTree) (path : FilePath) (bytes : ByteArray) : FileTree :=
  ⟨(path, bytes) :: tree.files.filter (·.1 ≠ path)⟩

/-- The names of the directory that the last name of a path stands in. -/
def parentNames (path : String) : List String :=
  ((path.dropEndWhile '/').copy.splitOn "/").dropLast ++ [""]

/-- A file can be made where its directory exists, if no slash follows its name. -/
def write (tree : FileTree) (path : String) (bytes : ByteArray) : Except AccessError FileTree := do
  if path.endsWith "/" && path.utf8ByteSize ≤ pathLimit then
    let _ ← tree.locateNames (parentNames path)
    throw .isADirectory
  else
    let place ← tree.locate path
    if tree.isDirectory place then throw .isADirectory else return tree.put place bytes

/-- The files of a tree as the state of a computation. -/
def access : FileAccess (StateM FileTree) where
  read path := return (← get).read path
  write path bytes := do
    match (← get).write path bytes with
    | .ok tree => set tree; return .ok ()
    | .error error => return .error error

end FileTree

end BrowserScript.CommandLine
