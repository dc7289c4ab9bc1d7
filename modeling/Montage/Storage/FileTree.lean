import Montage.Fault
import Montage.Path

/-!
# File trees

A tree of files under absolute paths without double dots.  Files are kept in the order in
which they were last written.  Most trees are of text files, but nothing here reads a content.
-/

namespace Montage

namespace Path

def prefixes (path : Path) : List Path :=
  (List.range (path.parts.length + 1)).map fun count =>
    ⟨path.root, path.parts.take count⟩

def nameLimit : Nat := 255

def lengthLimit : Nat := 4095

/-- Whether the last name of a path is longer than files may be called. -/
def hasLongName (path : Path) : Bool :=
  nameLimit < path.name.utf8ByteSize

def isTooLong (path : Path) : Bool :=
  lengthLimit < path.toString.utf8ByteSize

end Path

/-- Files with their contents, oldest first, and directories. -/
structure FileTree (Content : Type := String) where
  files : List (Path × Content)
  directories : List Path
  deriving Inhabited

namespace FileTree

variable {Content : Type}

def empty : FileTree Content := ⟨[], []⟩

def content? (tree : FileTree Content) (path : Path) : Option Content :=
  tree.files.lookup path

def isFile (tree : FileTree Content) (path : Path) : Bool :=
  (tree.content? path).isSome

def isDirectory (tree : FileTree Content) (path : Path) : Bool :=
  path.parts.isEmpty || tree.directories.contains path

def hasEntry (tree : FileTree Content) (path : Path) : Bool :=
  tree.isFile path || tree.isDirectory path

/-- Whether the look-up of a path is refused: the path is too long, or the look-up comes
to a name that is.  It goes no further than directories lead. -/
def refuses (tree : FileTree Content) (path : Path) : Bool :=
  path.isTooLong ||
    path.prefixes.any fun way => way.hasLongName && tree.isDirectory way.parent

def addDirectories (tree : FileTree Content) (paths : List Path) : FileTree Content :=
  { tree with directories := tree.directories ++
      paths.filter fun path => !tree.isDirectory path }

/-- The tree with a directory and all directories above it. -/
def makeDirectory (tree : FileTree Content) (path : Path) : Except Fault (FileTree Content) :=
  if path.isTooLong then .error .system
  else
    -- The obstacle nearest to the root decides which fault it is.
    match path.prefixes.find? fun way => tree.isFile way || way.hasLongName with
    | none => .ok (tree.addDirectories path.prefixes)
    | some obstacle =>
        if obstacle.hasLongName then .error .system
        else if obstacle = path then .error .existingFile
        else .error .notADirectory

def write (tree : FileTree Content) (path : Path) (content : Content) : FileTree Content :=
  let tree := tree.addDirectories path.parent.prefixes
  { tree with files := tree.files.filter (·.1 ≠ path) ++ [(path, content)] }

/-- The tree after a file was put where there may be no directory for it yet. -/
def place (tree : FileTree Content) (path : Path) (content : Content) :
    Except Fault (FileTree Content) := do
  let tree ← tree.makeDirectory path.parent
  if tree.refuses path then .error .system
  else if tree.isDirectory path then .error .directory
  else .ok (tree.write path content)

def remove (tree : FileTree Content) (path : Path) : FileTree Content :=
  { tree with files := tree.files.filter (·.1 ≠ path) }

/-- The tree after a file got a content, or was removed for want of one.  A file that
keeps its content is left alone. -/
def update [DecidableEq Content] (tree : FileTree Content) (path : Path)
    (content : Option Content) : FileTree Content :=
  if tree.content? path = content then tree
  else match content with
    | some content => tree.write path content
    | none => tree.remove path

/-- The tree with what was left at a path at an unknown time.  Such a file counts as older
than all others. -/
def leave (tree : FileTree Content) (path : Path) (content : Option Content) : FileTree Content :=
  let others := tree.remove path
  let left := content.toList.map fun content => (path, content)
  { others with files := left ++ others.files }

def filesIn (tree : FileTree Content) (directory : Path) : List (Path × Content) :=
  (tree.files.filter fun (path, _) => path.parent = directory).reverse

/-- The files anywhere below a directory, as texts relative to it, in order. -/
def listing (tree : FileTree Content) (directory : Path) : List String :=
  Text.sorted ((tree.files.filter fun (path, _) =>
    path ≠ directory && path.isBelow directory).map fun (path, _) =>
      path.relativeTo directory)

end FileTree

end Montage
