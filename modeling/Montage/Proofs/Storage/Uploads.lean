import Montage.Proofs.Storage.Areas
import Montage.Proofs.Storage.Naming

/-!
# Histories of uploads

Clients store and delete files in any order.  An upload takes the first free path in turn and
changes no other file, and until a deletion takes that very file away it is found under its name,
with its content, and listed.
-/

namespace Montage.AssetStore

open Storage

variable {Content : Type} {store : AssetStore} {tree made after : FileTree Content} {area : Area}
  {path base : Path} {name filename : String} {number : Nat} {content : Content}
  {inUse : List (Path × String)}

/-- The directory of uploads is there, with all above it. -/
structure Ready (store : AssetStore) (tree : FileTree Content) : Prop where
  made : ∀ way ∈ (store.base .uploads).prefixes, tree.isDirectory way = true
  heard : tree.refuses (store.base .uploads) = false

theorem ready_of_prepare (prepares : store.prepare tree = .ok made) : store.Ready made := by
  obtain ⟨half, first, second⟩ := bind_eq_ok_iff.mp prepares
  refine ⟨fun way above => ?_, FileTree.refuses_makeDirectory first made⟩
  exact (FileTree.isDirectory_makeDirectory second).mpr
    (.inl ((FileTree.isDirectory_makeDirectory first).mpr (.inr above)))

section Places

theorem name_uploadPath (store : AssetStore) (name : String) (number : Nat) :
    (store.uploadPath name number).name = uploadName name number := by
  simp [uploadPath_eq, Path.name]

theorem parent_uploadPath (store : AssetStore) (name : String) (number : Nat) :
    (store.uploadPath name number).parent = store.base .uploads := by
  simp [uploadPath_eq, Path.parent]

theorem prefixes_uploadPath (store : AssetStore) (name : String) (number : Nat) :
    (store.uploadPath name number).prefixes =
      (store.base .uploads).prefixes ++ [store.uploadPath name number] := by
  rw [uploadPath_eq, Path.prefixes, List.length_append, List.length_singleton, List.range_succ,
    List.map_append, Path.prefixes]
  refine congrArg₂ _ (List.map_congr_left fun count member => ?_) ?_
  · have within : count ≤ (store.base .uploads).parts.length := by
      have := List.mem_range.mp member
      omega
    rw [List.take_append_of_le_length within]
  · simp

/-- Where the directory is there, only an overlong name or path is refused. -/
theorem Ready.refuses_uploadPath (ready : store.Ready tree) (name : String) (number : Nat) :
    tree.refuses (store.uploadPath name number) =
      ((store.uploadPath name number).isTooLong ||
        (store.uploadPath name number).hasLongName) := by
  obtain ⟨-, heard⟩ := Bool.or_eq_false_iff.mp ready.heard
  have whole : store.base .uploads ∈ (store.base .uploads).prefixes :=
    List.mem_map.mpr ⟨(store.base .uploads).parts.length, by simp, by simp⟩
  rw [FileTree.refuses, prefixes_uploadPath, List.any_append, heard, Bool.false_or,
    List.any_cons, List.any_nil, Bool.or_false, parent_uploadPath, ready.made _ whole,
    Bool.and_true]

theorem pathIn_of_isPlainName (plain : IsPlainName name) (store : AssetStore) (area : Area) :
    store.pathIn area name = .ok ((store.base area).child name) := by
  have resolved : (store.base area).IsResolved := Path.isResolved_resolve _ _
  have legal : (Path.ofString name).holdsNull = false :=
    Path.holdsNull_ofString fun null => (plain.letters '\x00' null).noNull rfl
  have child := Path.child_of_isPlainName plain (store.base area)
  have here : Path.resolve (store.base area) (Path.ofString name) =
      (store.base area).child name := by
    have below : (store.base area).append (Path.ofString name) = (store.base area).child name := rfl
    have undoubled : ".." ∉ (store.base area).parts ++ [name] := by
      simpa using ⟨resolved.plain, plain.ne_dots.2.symm⟩
    rw [Path.resolve, below, child, Path.collapse_of_not_mem undoubled, resolved.root]
    rfl
  have refused : ¬ (name.isEmpty = true ∨ (store.base area).child name = store.base area ∨
      ¬ ((store.base area).child name).isBelow (store.base area) = true) := by
    rw [child]
    rintro (empty | same | outside)
    · exact plain.filled (by simpa using empty)
    · simpa using congrArg (·.parts.length) same
    · exact outside (Path.isBelow_iff.mpr ⟨rfl, List.prefix_append _ _⟩)
  rw [pathIn, pathBelow, legal, if_neg Bool.false_ne_true, here]
  exact if_neg refused

end Places

section Saving

/-- What it means that an upload was stored in a tree: one more file, where there was nothing, in
plain sight in the directory of uploads. -/
structure Stores (store : AssetStore) (tree after : FileTree Content) (path : Path)
    (content : Content) : Prop where
  free : tree.hasEntry path = false
  plain : IsPlainName path.name
  inside : path.parent = store.base .uploads
  added : after = { tree with files := tree.files ++ [(path, content)] }
  stored : after.content? path = some content
  others : ∀ other, other ≠ path → after.content? other = tree.content? other

theorem Ready.save_eq (ready : store.Ready tree) (first : store.FirstFree tree name number)
    (content : Content) :
    store.save tree name content =
      let path := store.uploadPath name number
      if path.isTooLong || path.hasLongName then .error .system
      else .ok (tree.write path content, path) := by
  obtain ⟨other, first', given⟩ := store.exists_firstFree tree name
  obtain rfl : number = other := by
    rcases Nat.lt_trichotomy number other with less | same | more
    · simpa [first.free] using first'.taken number less
    · exact same
    · simpa [first'.free] using first.taken other more
  rw [save, given, ready.refuses_uploadPath]
  dsimp only
  split <;> rfl

theorem Ready.stores_write (ready : store.Ready tree) (first : store.FirstFree tree name number)
    (content : Content) :
    store.Stores tree (tree.write (store.uploadPath name number) content)
      (store.uploadPath name number) content where
  free := first.free
  plain := name_uploadPath store name number ▸ isPlainName_uploadName name number
  inside := parent_uploadPath store name number
  added := FileTree.write_of_hasEntry first.free fun way above =>
    ready.made way (parent_uploadPath store name number ▸ above)
  stored := FileTree.content?_write_self tree _ content
  others := fun _ other => FileTree.content?_write other

/-- Whatever is stored is stored at the first free path, which is short enough. -/
theorem Ready.exists_stores {saved : FileTree Content × Path} (ready : store.Ready tree)
    (saves : store.save tree name content = .ok saved) :
    ∃ number, store.FirstFree tree name number ∧ saved.2 = store.uploadPath name number ∧
      (saved.2.isTooLong || saved.2.hasLongName) = false ∧
      store.Stores tree saved.1 saved.2 content := by
  obtain ⟨number, first, -⟩ := store.exists_firstFree tree name
  rw [ready.save_eq first] at saves
  dsimp only at saves
  split at saves
  next => simp at saves
  next short =>
    obtain rfl := Except.ok.inj saves
    exact ⟨number, first, rfl, Bool.eq_false_iff.mpr short, ready.stores_write first content⟩

end Saving

section Deleting

/-- What it means that a deletion took a file away: the file of that name, and no other. -/
structure Deletes (store : AssetStore) (tree after : FileTree Content) (area : Area)
    (filename : String) (inUse : List (Path × String)) (path : Path) : Prop where
  names : store.Names tree area filename path
  unused : inUse.lookup path = none
  removed : after = tree.remove path
  gone : after.content? path = none
  others : ∀ other, other ≠ path → after.content? other = tree.content? other

theorem delete_eq_ok_iff :
    store.delete tree area filename inUse = .ok (after, path) ↔
      store.Deletes tree after area filename inUse path := by
  constructor
  · intro deletes
    obtain ⟨unused, removed⟩ := delete_eq_ok deletes
    dsimp only at unused removed
    refine ⟨?_, unused, removed, removed ▸ FileTree.content?_remove_self tree path,
      fun other apart => removed ▸ FileTree.content?_remove apart⟩
    unfold delete at deletes
    obtain ⟨found, named, rest⟩ := bind_eq_ok_iff.mp deletes
    split at rest
    · simp at rest
    next heard =>
      split at rest
      · simp at rest
      next present =>
        split at rest
        next => simp at rest
        next =>
          obtain ⟨-, rfl⟩ := Prod.mk.inj (Except.ok.inj rest)
          exact ⟨named, Bool.eq_false_iff.mpr heard, by simpa using present⟩
  · rintro ⟨names, unused, rfl, -, -⟩
    simp [delete, names.named, names.heard, names.present, unused, bind, Except.bind]

end Deleting

section Histories

/-- What clients ask of a store. -/
inductive Act (Content : Type) where
  | save (name : String) (content : Content)
  | delete (area : Area) (filename : String) (inUse : List (Path × String))

/-- The tree that an outcome leaves, which is the tree before if it is a failure. -/
def outcomeTree {Reason : Type} (tree : FileTree Content) :
    Except Reason (FileTree Content × Path) → FileTree Content
  | .ok (after, _) => after
  | .error _ => tree

def perform (store : AssetStore) (tree : FileTree Content) : Act Content → FileTree Content
  | .save name content => outcomeTree tree (store.save tree name content)
  | .delete area filename inUse => outcomeTree tree (store.delete tree area filename inUse)

def performAll (store : AssetStore) (tree : FileTree Content) (acts : List (Act Content)) :
    FileTree Content :=
  acts.foldl store.perform tree

def Takes (store : AssetStore) (tree : FileTree Content) (path : Path) : Act Content → Prop
  | .save _ _ => False
  | .delete area filename inUse =>
      ∃ after, store.delete tree area filename inUse = .ok (after, path)

def Spares (store : AssetStore) (path : Path) : FileTree Content → List (Act Content) → Prop
  | _, [] => True
  | tree, act :: rest =>
      ¬ store.Takes tree path act ∧ store.Spares path (store.perform tree act) rest

variable {act : Act Content} {acts : List (Act Content)}

theorem Ready.of_directories (ready : store.Ready tree)
    (same : after.directories = tree.directories) : store.Ready after := by
  have alike : after.isDirectory = tree.isDirectory := by
    funext way
    rw [FileTree.isDirectory, same, FileTree.isDirectory]
  refine ⟨fun way above => alike ▸ ready.made way above, ?_⟩
  rw [FileTree.refuses, alike]
  exact ready.heard

theorem directories_perform (ready : store.Ready tree) (act : Act Content) :
    (store.perform tree act).directories = tree.directories := by
  cases act with
  | save name content =>
      rw [AssetStore.perform]
      cases outcome : store.save tree name content with
      | error _ => rfl
      | ok saved =>
          obtain ⟨_, -, -, -, stores⟩ := ready.exists_stores outcome
          exact congrArg (·.directories) stores.added
  | delete area filename inUse =>
      rw [AssetStore.perform]
      cases outcome : store.delete tree area filename inUse with
      | error _ => rfl
      | ok deleted => exact congrArg (·.directories) (delete_eq_ok_iff.mp outcome).removed

theorem Ready.perform (ready : store.Ready tree) (act : Act Content) :
    store.Ready (store.perform tree act) :=
  ready.of_directories (directories_perform ready act)

/-- A file that an act does not take away keeps its content. -/
theorem content?_perform (spared : ¬ store.Takes tree path act)
    (present : tree.content? path = some content) :
    (store.perform tree act).content? path = some content := by
  cases act with
  | save name given =>
      rw [perform]
      cases outcome : store.save tree name given with
      | error _ => exact present
      | ok saved =>
          have file : tree.isFile path = true := by
            rw [FileTree.isFile, present, Option.isSome_some]
          exact (content?_save outcome file).trans present
  | delete area filename inUse =>
      rw [perform]
      cases outcome : store.delete tree area filename inUse with
      | error _ => exact present
      | ok deleted =>
          have other : path ≠ deleted.2 := by
            rintro rfl
            exact spared ⟨deleted.1, outcome⟩
          exact ((delete_eq_ok_iff.mp outcome).others path other).trans present

theorem Ready.performAll (ready : store.Ready tree) (acts : List (Act Content)) :
    store.Ready (store.performAll tree acts) := by
  induction acts generalizing tree with
  | nil => exact ready
  | cons act rest ih => exact ih (ready.perform act)

theorem content?_performAll (spared : store.Spares path tree acts)
    (present : tree.content? path = some content) :
    (store.performAll tree acts).content? path = some content := by
  induction acts generalizing tree with
  | nil => exact present
  | cons act rest ih =>
      exact ih spared.2 (content?_perform spared.1 present)

/-- What it means that a store keeps an upload: its name leads to it, it has its content, and it
is listed. -/
structure Keeps [ByteSized Content] (store : AssetStore) (tree : FileTree Content) (path : Path)
    (content : Content) : Prop where
  located : store.locate tree path.name = .ok path
  stored : tree.content? path = some content
  listed : ⟨path.name, ByteSized.byteSize content, Text.lowercase path.suffix,
    (store.directory .uploads).child path.name⟩ ∈ store.list tree .uploads "" ""

theorem Ready.keeps [ByteSized Content] (ready : store.Ready tree)
    (short : ((store.uploadPath name number).isTooLong ||
      (store.uploadPath name number).hasLongName) = false)
    (present : tree.content? (store.uploadPath name number) = some content) :
    store.Keeps tree (store.uploadPath name number) content := by
  have named := name_uploadPath store name number
  have plain := isPlainName_uploadName name number
  refine ⟨?_, present, ?_⟩
  · have found := pathIn_of_isPlainName plain store .uploads
    change store.pathIn .uploads _ = .ok (store.uploadPath name number) at found
    have file : tree.isFile (store.uploadPath name number) = true := by
      simp [FileTree.isFile, present]
    rw [locate, named, found]
    dsimp only
    rw [ready.refuses_uploadPath, short, if_neg Bool.false_ne_true, if_pos file]
  · have here : (store.uploadPath name number, content) ∈
        tree.filesIn (store.base .uploads) := by
      refine List.mem_reverse.mpr (List.mem_filter.mpr ⟨?_, ?_⟩)
      · obtain ⟨before, behind, whole, -⟩ := List.lookup_eq_some_iff.mp present
        exact whole ▸ List.mem_append_right _ List.mem_cons_self
      · simp [parent_uploadPath]
    refine List.mem_filterMap.mpr ⟨_, here, ?_⟩
    have visible : isListed (uploadName name number)
        (Text.lowercase (store.uploadPath name number).suffix) "" "" = true := by
      simpa [isListed] using plain.visible
    dsimp only
    rw [named, if_pos visible]

/-- Files may be stored and deleted in any order.  Each upload gets the first free path in turn and
adds one file in plain sight, unless that path is too long to be looked up; from then on it is kept
until it is taken away.  Each deletion takes away the one file that it names, or nothing. -/
theorem uploads_kept_until_deleted [ByteSized Content] (ready : store.Ready tree)
    (acts : List (Act Content)) :
    let present := store.performAll tree acts
    (∀ name content, ∃ number, store.FirstFree present name number ∧
      let path := store.uploadPath name number
      if path.isTooLong || path.hasLongName then
        store.save present name content = .error .system ∧
          store.perform present (.save name content) = present
      else
        ∃ after, store.save present name content = .ok (after, path) ∧
          store.Stores present after path content ∧
          ∀ rest, store.Spares path after rest →
            store.Keeps (store.performAll after rest) path content) ∧
    ∀ area filename inUse,
      match store.delete present area filename inUse with
      | .ok (after, path) => store.Deletes present after area filename inUse path
      | .error _ =>
          (∀ after path, ¬ store.Deletes present after area filename inUse path) ∧
            store.perform present (.delete area filename inUse) = present := by
  have ready := ready.performAll acts
  generalize store.performAll tree acts = present at ready
  refine ⟨fun name content => ?_, fun area filename inUse => ?_⟩
  · obtain ⟨number, first, -⟩ := store.exists_firstFree present name
    have outcome := ready.save_eq first content
    refine ⟨number, first, ?_⟩
    dsimp only
    split
    next overlong =>
      rw [if_pos overlong] at outcome
      exact ⟨outcome, by rw [AssetStore.perform, outcome, outcomeTree]⟩
    next short =>
      rw [if_neg short] at outcome
      have stores := ready.stores_write first content
      refine ⟨_, outcome, stores, fun rest spared => ?_⟩
      have ready := ready.of_directories (congrArg (·.directories) stores.added)
      exact (ready.performAll rest).keeps (Bool.eq_false_iff.mpr short)
        (content?_performAll spared stores.stored)
  · split
    next after path deletes => exact delete_eq_ok_iff.mp deletes
    next reason fails =>
      refine ⟨fun after path deletes => ?_, by rw [AssetStore.perform, fails, outcomeTree]⟩
      rw [delete_eq_ok_iff.mpr deletes] at fails
      simp at fails

def clipStore : AssetStore := ⟨.ofString "/work", .ofString "uploads", .ofString "outputs"⟩

def clipTree : FileTree (List UInt8) :=
  ⟨[], ["/work", "/work/uploads", "/work/outputs"].map .ofString⟩

/-- A clip that is called like an earlier one gets a number, and outlives it. -/
theorem uploads_kept_clip :
    clipStore.Ready clipTree ∧
      ∃ after, clipStore.save (clipStore.performAll clipTree [.save "..\\my clip.MP4" [0xff]])
          "my clip..mp4" [0x00, 0xfe] = .ok (after, .ofString "/work/uploads/my_clip_1.mp4") ∧
        clipStore.Keeps (clipStore.performAll after [.delete .uploads "my_clip.mp4" []])
          (.ofString "/work/uploads/my_clip_1.mp4") [0x00, 0xfe] := by
  have prepares : clipStore.prepare .empty = .ok clipTree := by rfl
  have ready : clipStore.Ready clipTree := ready_of_prepare prepares
  refine ⟨ready, ?_⟩
  obtain ⟨uploads, -⟩ := uploads_kept_until_deleted ready [.save "..\\my clip.MP4" [0xff]]
  obtain ⟨number, first, outcome⟩ := uploads "my clip..mp4" [0x00, 0xfe]
  -- The name itself is taken by the earlier clip, and its first number is free.
  have second : number = 1 := by
    rcases number with _ | _ | number
    · exact absurd first.free (by decide +kernel)
    · rfl
    · exact absurd (first.taken 1 (by omega)) (by decide +kernel)
  subst second
  have path : clipStore.uploadPath "my clip..mp4" 1 = .ofString "/work/uploads/my_clip_1.mp4" := by
    decide +kernel
  rw [path] at outcome
  rw [if_neg (by decide)] at outcome
  obtain ⟨after, saves, stores, keeps⟩ := outcome
  refine ⟨after, saves, keeps _ ⟨?_, trivial⟩⟩
  rintro ⟨left, deletes⟩
  have named := (delete_eq_ok_iff.mp deletes).names.named
  exact absurd named (by decide)

end Histories

end Montage.AssetStore
