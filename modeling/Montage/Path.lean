import Montage.Text.Basic

/-!
# File paths

Slash-separated paths in normal form: a root and a list of names without empty
names and single dots.  Double dots stay until a path is resolved.
-/

namespace Montage

/-- File paths.  The root is empty for relative paths. -/
structure Path where
  root : String
  parts : List String
  deriving DecidableEq, Inhabited

namespace Path

def rootOf : List Char → String
  -- Exactly two slashes are a root of their own.
  | '/' :: '/' :: '/' :: _ => "/"
  | '/' :: '/' :: _ => "//"
  | '/' :: _ => "/"
  | _ => ""

def ofString (text : String) : Path :=
  ⟨rootOf text.toList,
    (Text.split '/' text).filter fun part => part ≠ "" && part ≠ "."⟩

/-- The text of a path; the empty relative path is a single dot. -/
def toString (path : Path) : String :=
  if path.parts.isEmpty then if path.root.isEmpty then "." else path.root
  else path.root ++ Text.join "/" path.parts

def isAbsolute (path : Path) : Bool :=
  !path.root.isEmpty

def append (base path : Path) : Path :=
  if path.isAbsolute then path else ⟨base.root, base.parts ++ path.parts⟩

def child (base : Path) (text : String) : Path :=
  base.append (ofString text)

def name (path : Path) : String :=
  path.parts.getLast?.getD ""

def parent (path : Path) : Path :=
  ⟨path.root, path.parts.dropLast⟩

/-- The characters of a name before its suffix, and the suffix with its dot.  A dot
at either end of a name starts no suffix. -/
def cutSuffix (name : List Char) : List Char × List Char :=
  let afterDot := name.reverse.takeWhile (· != '.')
  let stem := name.take (name.length - afterDot.length - 1)
  if afterDot.isEmpty || stem.isEmpty || !name.contains '.' then (name, [])
  else (stem, '.' :: afterDot.reverse)

def stem (path : Path) : String :=
  String.ofList (cutSuffix path.name.toList).1

def suffix (path : Path) : String :=
  String.ofList (cutSuffix path.name.toList).2

def holdsNull (path : Path) : Bool :=
  path.parts.any fun part => part.toList.contains '\x00'

/-- Names after every double dot has taken back the name before it. -/
def collapse : List String → List String → List String
  | done, [] => done.reverse
  | done, part :: rest =>
      if part = ".." then collapse done.tail rest else collapse (part :: done) rest

/-- The absolute path without double dots that a path denotes from a directory. -/
def resolve (directory path : Path) : Path :=
  ⟨"/", collapse [] (directory.append path).parts⟩

def isBelow (path base : Path) : Bool :=
  path.root == base.root && base.parts.isPrefixOf path.parts

def relativeTo (path base : Path) : String :=
  if path.isBelow base then
    toString ⟨"", path.parts.drop base.parts.length⟩
  else path.toString

end Path

end Montage
