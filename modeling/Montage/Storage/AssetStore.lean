import Montage.Storage.FileTree
import Montage.Storage.Filename
import Montage.Timeline.Item

/-!
# Asset stores

The areas of uploaded and of rendered files: naming, listing, deletion and look-up.
No name leads out of its area.
-/

namespace Montage

/-- Reasons why a stored file is not given, or not deleted. -/
inductive StoreError where
  | rejected (reason : Rejection)
  | missing (filename : String)
  | inUse (filename : String) (job : String)
  | fault (fault : Fault)
  deriving DecidableEq, Repr, Inhabited

namespace StoreError

def message : StoreError → String
  | .rejected reason => reason.message
  | .missing filename => filename
  | .inUse filename job =>
      let detail := if job.isEmpty then "" else s!" in job {job}"
      s!"File is currently being used{detail}: {filename}"
  | .fault cause => cause.message

end StoreError

inductive Area where
  | uploads
  | outputs
  deriving DecidableEq, Repr, Inhabited

namespace Area

def ofName : String → Except Fault Area
  | "uploads" => .ok .uploads
  | "outputs" => .ok .outputs
  | _ => .error .badValue

end Area

/-- A stored file as it is listed. -/
structure StoredFile where
  filename : String
  size : Nat
  extension : String
  path : Path
  deriving DecidableEq, Inhabited

/-- Where the areas of a store are, as seen from a working directory. -/
structure AssetStore where
  workingDirectory : Path
  uploads : Path
  outputs : Path
  deriving Inhabited

class ByteSized (Content : Type) where
  byteSize : Content → Nat

instance : ByteSized String := ⟨String.utf8ByteSize⟩

instance : ByteSized (List UInt8) := ⟨List.length⟩

namespace AssetStore

variable {Content : Type}

def directory (store : AssetStore) : Area → Path
  | .uploads => store.uploads
  | .outputs => store.outputs

def base (store : AssetStore) (area : Area) : Path :=
  Path.resolve store.workingDirectory (store.directory area)

def prepare (store : AssetStore) (tree : FileTree Content) : Except Fault (FileTree Content) := do
  let tree ← tree.makeDirectory (store.base .uploads)
  tree.makeDirectory (store.base .outputs)

/-- The path of a name inside a directory. -/
def pathBelow (base : Path) (filename : String) : Except StoreError Path :=
  if (Path.ofString filename).holdsNull then
    .error (.fault .nullInPath)
  else
    let path := Path.resolve base (Path.ofString filename)
    -- A name may lead anywhere below the directory, but not to the directory itself.
    if filename.isEmpty ∨ path = base ∨ ¬ path.isBelow base then
      .error (.rejected (.invalidFilename filename))
    else .ok path

def pathIn (store : AssetStore) (area : Area) (filename : String) :
    Except StoreError Path :=
  pathBelow (store.base area) filename

/-- The names tried for an upload: the name itself, then the name with a number
before its suffix. -/
def candidate (stem suffix : String) (number : Nat) : String :=
  if number = 0 then stem ++ suffix
  else
    let count := Decimal.ofInt number
    s!"{stem}_{count}{suffix}"

/-- The first number from `number` on whose candidate is free, within a bound. -/
def freeNumber (isTaken : Nat → Bool) : Nat → Nat → Nat
  | 0, number => number
  | bound + 1, number =>
      if isTaken number then freeNumber isTaken bound (number + 1) else number

/-- The path for a new upload: its safe name with the suffix in lower case, and a
number if that name is taken. -/
def uniquePath (store : AssetStore) (tree : FileTree Content) (name : String) :
    Except Fault Path :=
  let safe := Path.ofString (Storage.safeFilename name Storage.fallbackName)
  let suffix := Text.lowercase safe.suffix
  let base := store.base .uploads
  let isTaken (number : Nat) : Bool :=
    tree.hasEntry (base.child (candidate safe.stem suffix number))
  -- The tree has fewer entries than names are tried, so one of these is free.
  let bound := tree.files.length + tree.directories.length + 1
  let path := base.child (candidate safe.stem suffix (freeNumber isTaken bound 0))
  if tree.refuses path then .error .system else .ok path

def save (store : AssetStore) (tree : FileTree Content) (name : String)
    (content : Content) : Except Fault (FileTree Content × Path) := do
  let path ← store.uniquePath tree name
  .ok (tree.write path content, path)

def locate (store : AssetStore) (tree : FileTree Content) (filename : String) :
    Except StoreError Path :=
  match store.pathIn .uploads filename with
  | .error (.rejected _) => .error (.rejected (.fileNotFound filename))
  | .error reason => .error reason
  | .ok path =>
      if tree.refuses path then .error (.fault .system)
      else if tree.isFile path then .ok path
      else .error (.rejected (.fileNotFound filename))

def wantedExtension (extension : String) : String :=
  let lower := Text.lowercase extension
  match lower.toList with
  | '.' :: _ => lower
  | _ => "." ++ lower

/-- Whether a listing shows a file: hidden files are left out, and filters that are
empty let everything pass. -/
def isListed (name suffix search extension : String) : Bool :=
  !(name.toList.head? == some '.') &&
    (search.isEmpty || Text.contains (Text.lowercase name) (Text.lowercase search)) &&
    (extension.isEmpty || suffix == wantedExtension extension)

/-- The files of an area, newest first, filtered by a part of their name and by their
extension. -/
def list [ByteSized Content] (store : AssetStore) (tree : FileTree Content) (area : Area)
    (search extension : String) : List StoredFile :=
  (tree.filesIn (store.base area)).filterMap fun (path, content) =>
    let suffix := Text.lowercase path.suffix
    if isListed path.name suffix search extension then
      some ⟨path.name, ByteSized.byteSize content, suffix,
        (store.directory area).child path.name⟩
    else none

/-- The tree without a file, and the file's path.  Files that unsettled jobs use are
kept. -/
def delete (store : AssetStore) (tree : FileTree Content) (area : Area) (filename : String)
    (inUse : List (Path × String)) : Except StoreError (FileTree Content × Path) := do
  let path ← store.pathIn area filename
  if tree.refuses path then .error (.fault .system)
  else if ¬ tree.isFile path then .error (.missing filename)
  else match inUse.lookup path with
    | some job => .error (.inUse filename job)
    | none => .ok (tree.remove path, path)

end AssetStore

end Montage
