import Montage.Proofs.Sequence
import Montage.Proofs.Storage.Files
import Montage.Proofs.Storage.Paths
import Montage.Storage.AssetStore

/-!
# Areas of a store

The paths that names have inside an area.  Areas of which neither holds the other have no file in
common, and a file is told from others by its path alone.
-/

namespace Montage.AssetStore

variable {Content : Type} {store : AssetStore} {tree : FileTree Content} {area : Area}
  {path first second : Path} {filename name job : String} {inUse : List (Path × String)}

/-- Paths inside an area, in the one form in which they are compared. -/
structure Holds (store : AssetStore) (area : Area) (path : Path) : Prop where
  resolved : path.IsResolved
  legal : path.holdsNull = false
  below : path.isBelow (store.base area) = true
  proper : path ≠ store.base area

/-- Stores whose areas are directories that a file system can hold, neither inside the other. -/
structure Apart (store : AssetStore) : Prop where
  legal : ∀ area, (store.base area).holdsNull = false
  uploads : (store.base .uploads).isBelow (store.base .outputs) = false
  outputs : (store.base .outputs).isBelow (store.base .uploads) = false

theorem Apart.ne (apart : store.Apart) (upload : store.Holds .uploads first)
    (output : store.Holds .outputs second) : first ≠ second := by
  rintro rfl
  rcases Path.isBelow_or_isBelow upload.below output.below with inner | inner
  · simp [apart.uploads] at inner
  · simp [apart.outputs] at inner

theorem holds_of_pathIn (legal : (store.base area).holdsNull = false)
    (named : store.pathIn area filename = .ok path) : store.Holds area path := by
  unfold pathIn pathBelow at named
  split at named
  · simp at named
  next legal' =>
    dsimp only at named
    split at named
    · simp at named
    next inside =>
      simp only [not_or, not_not] at inside
      obtain rfl := Except.ok.inj named
      exact ⟨Path.isResolved_resolve _ _,
        Path.holdsNull_resolve legal (Bool.eq_false_iff.mpr legal'), inside.2.2, inside.2.1⟩

theorem holds_child (legal : (store.base area).holdsNull = false)
    (letters : ∀ character ∈ name.toList, character ≠ '/' ∧ character ≠ '\x00')
    (filled : name ≠ "") (moves : name ≠ ".") (plain : name ≠ "..") :
    store.Holds area ((store.base area).child name) := by
  have noSlash : '/' ∉ name.toList := fun slash => (letters '/' slash).1 rfl
  have noNull : '\x00' ∉ name.toList := fun null => (letters '\x00' null).2 rfl
  have base : (store.base area).IsResolved := Path.isResolved_resolve _ _
  rw [Path.child_of_not_mem noSlash filled moves]
  refine ⟨⟨base.root, ?_⟩, ?_, Path.isBelow_iff.mpr ⟨rfl, List.prefix_append _ _⟩, ?_⟩
  · simpa using ⟨base.plain, plain.symm⟩
  · simp only [Path.holdsNull, List.any_eq_false] at legal ⊢
    intro part member
    rcases List.mem_append.mp member with above | here
    · exact legal part above
    · obtain rfl := List.mem_singleton.mp here
      simpa using noNull
  · intro same
    simpa using congrArg (·.parts.length) same

theorem holds_of_locate (legal : (store.base .uploads).holdsNull = false)
    (located : store.locate tree filename = .ok path) :
    store.Holds .uploads path ∧ tree.isFile path = true := by
  unfold locate at located
  split at located
  · simp at located
  · simp at located
  next named =>
    split at located
    · simp at located
    · split at located
      next present =>
        obtain rfl := Except.ok.inj located
        exact ⟨holds_of_pathIn legal named, present⟩
      next => simp at located

structure Names (store : AssetStore) (tree : FileTree Content) (area : Area) (filename : String)
    (path : Path) : Prop where
  named : store.pathIn area filename = .ok path
  heard : tree.refuses path = false
  present : tree.isFile path = true

theorem Names.filled (names : store.Names tree area filename path) : filename.isEmpty = false := by
  have named := names.named
  unfold pathIn pathBelow at named
  split at named
  · simp at named
  · dsimp only at named
    split at named
    · simp at named
    next inside => exact Bool.eq_false_iff.mpr fun empty => inside (.inl empty)

theorem delete_of_lookup (names : store.Names tree area filename path)
    (used : inUse.lookup path = some job) :
    store.delete tree area filename inUse = .error (.inUse filename job) := by
  simp [delete, names.named, names.heard, names.present, used, bind, Except.bind]

/-- A deletion takes away one file, which is not in use. -/
theorem delete_eq_ok {deleted : FileTree Content × Path}
    (deletes : store.delete tree area filename inUse = .ok deleted) :
    inUse.lookup deleted.2 = none ∧ deleted.1 = tree.remove deleted.2 := by
  unfold delete at deletes
  obtain ⟨path, -, rest⟩ := bind_eq_ok_iff.mp deletes
  split at rest
  · simp at rest
  · split at rest
    · simp at rest
    · split at rest
      next => simp at rest
      next free =>
        obtain rfl := Except.ok.inj rest
        exact ⟨free, rfl⟩

end Montage.AssetStore
