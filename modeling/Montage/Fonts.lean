import Montage.Storage.FileTree

/-!
# Fonts

The font files that text overlays are drawn with, and their download.  Fonts that are
already there are never fetched again.
-/

namespace Montage.Fonts

/-- A font file and where it comes from. -/
structure Font where
  filename : String
  address : String
  deriving DecidableEq, Repr, Inhabited

def origin : String := "https://fonts.gstatic.com/s/roboto/v30/"

def all : List Font := [
  ⟨"Roboto-Regular.ttf", origin ++ "KFOmCnqEu92Fr1Me5Q.ttf"⟩,
  ⟨"Roboto-Bold.ttf", origin ++ "KFOlCnqEu92Fr1MmWUlvAw.ttf"⟩,
  ⟨"Roboto-Medium.ttf", origin ++ "KFOlCnqEu92Fr1MmEU9vAw.ttf"⟩,
  ⟨"Roboto-Black.ttf", origin ++ "KFOlCnqEu92Fr1MmYUtvAw.ttf"⟩]

def missing (tree : FileTree) (directory : Path) : List Font :=
  all.filter fun font => !tree.hasEntry (directory.child font.filename)

/-- The fonts that are not in a directory, unless they cannot be looked up there. -/
def lookUp (tree : FileTree) (directory : Path) : Except Fault (List Font) :=
  if all.any fun font => tree.refuses (directory.child font.filename) then .error .system
  else .ok (missing tree directory)

/-- What becomes of a request for a font. -/
inductive Answer where
  | answered (status : Int) (content : String)
  | unreachable
  deriving DecidableEq, Repr, Inhabited

/-- Reasons why a download fails. -/
inductive DownloadError where
  | refused (status : Int)
  | unreachable
  | fault (fault : Fault)
  deriving DecidableEq, Repr, Inhabited

/-- The content in an answer.  Only statuses of success bring one. -/
def Answer.content : Answer → Except DownloadError String
  | .answered status content =>
      if 200 ≤ status ∧ status < 300 then .ok content else .error (.refused status)
  | .unreachable => .error .unreachable

def partialSuffix : String := ".part"

/-- The tree after a font was kept. -/
def keep (directory : Path) (font : Font) (content : String) (tree : FileTree) :
    Except Fault FileTree :=
  let path := directory.child font.filename
  -- A font is written beside its place first, and moved there when it is complete.
  let draft := directory.child (path.stem ++ partialSuffix)
  if tree.isDirectory draft then .error .directory
  else .ok ((tree.remove draft).write path content)

/-- The tree with fonts that are received one after the other, up to the first one that
is not. -/
def receive (request : Font → Answer) (directory : Path) (tree : FileTree) :
    List Font → FileTree × Except DownloadError Unit
  | [] => (tree, .ok ())
  | font :: rest =>
      match (request font).content with
      | .error reason => (tree, .error reason)
      | .ok content =>
          match keep directory font content tree with
          | .error cause => (tree, .error (.fault cause))
          | .ok tree => receive request directory tree rest

/-- The tree after all missing fonts were downloaded, with the fonts that were
missing. -/
def download (request : Font → Answer) (directory : Path) (tree : FileTree) :
    FileTree × Except DownloadError (List Font) :=
  match tree.makeDirectory directory with
  | .error cause => (tree, .error (.fault cause))
  | .ok tree =>
      let wanted := missing tree directory
      let (tree, result) := receive request directory tree wanted
      (tree, result.map fun _ => wanted)

end Montage.Fonts
