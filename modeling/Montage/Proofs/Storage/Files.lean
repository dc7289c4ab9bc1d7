import Montage.Storage.FileTree

/-!
# Contents of files

A change at one path leaves the contents at all others alone, and directories are no files.
-/

namespace Montage.FileTree

variable {Content : Type} {tree made : FileTree Content} {path other directory : Path}
  {given : Content} {content : Option Content}

theorem lookup_filter_of_ne (apart : other ≠ path) (files : List (Path × Content)) :
    (files.filter (·.1 ≠ path)).lookup other = files.lookup other := by
  induction files with
  | nil => rfl
  | cons file files ih =>
      obtain ⟨key, content⟩ := file
      by_cases dropped : key = path
      · have passed : (other == key) = false := by simpa [dropped] using apart
        rw [List.filter_cons_of_neg (by simpa using dropped), ih, List.lookup_cons, passed]
      · rw [List.filter_cons_of_pos (by simpa using dropped), List.lookup_cons,
          List.lookup_cons, ih]

theorem content?_remove (apart : other ≠ path) :
    (tree.remove path).content? other = tree.content? other :=
  lookup_filter_of_ne apart tree.files

theorem content?_write (apart : other ≠ path) :
    (tree.write path given).content? other = tree.content? other := by
  have absent : [(path, given)].lookup other = none :=
    List.lookup_eq_none_iff.mpr fun file member => by
      obtain rfl := List.mem_singleton.mp member
      simpa using apart
  rw [write, content?, List.lookup_append, absent, Option.or_none]
  exact lookup_filter_of_ne apart tree.files

theorem content?_remove_self (tree : FileTree Content) (path : Path) :
    (tree.remove path).content? path = none := by
  refine List.lookup_eq_none_iff.mpr fun file member => ?_
  have other : file.1 ≠ path := by simpa using (List.mem_filter.mp member).2
  exact bne_iff_ne.mpr other.symm

theorem content?_write_self (tree : FileTree Content) (path : Path) (content : Content) :
    (tree.write path content).content? path = some content := by
  have absent : (tree.files.filter (·.1 ≠ path)).lookup path = none :=
    content?_remove_self tree path
  rw [write, content?, List.lookup_append, addDirectories, absent, Option.none_or,
    List.lookup_cons_self]

/-- Where there is nothing yet, a file is added behind all others. -/
theorem write_of_hasEntry (free : tree.hasEntry path = false)
    (made : ∀ way ∈ path.parent.prefixes, tree.isDirectory way = true) :
    tree.write path given = { tree with files := tree.files ++ [(path, given)] } := by
  obtain ⟨noFile, -⟩ := Bool.or_eq_false_iff.mp free
  have absent : tree.files.lookup path = none := by simpa [isFile, content?] using noFile
  have others : tree.files.filter (·.1 ≠ path) = tree.files := by
    refine List.filter_eq_self.mpr fun file member => decide_eq_true ?_
    exact (bne_iff_ne.mp (List.lookup_eq_none_iff.mp absent file member)).symm
  have nothing : path.parent.prefixes.filter (fun way => !tree.isDirectory way) = [] := by
    simpa using made
  simp only [write, addDirectories, others, nothing, List.append_nil]

theorem content?_update [DecidableEq Content] (apart : other ≠ path) :
    (tree.update path content).content? other = tree.content? other := by
  unfold update
  split
  · rfl
  · cases content with
    | none => exact content?_remove apart
    | some given => exact content?_write apart

theorem content?_leave (apart : other ≠ path) :
    (tree.leave path content).content? other = tree.content? other := by
  have absent : (content.toList.map fun given => (path, given)).lookup other = none :=
    List.lookup_eq_none_iff.mpr fun file member => by
      obtain ⟨given, -, rfl⟩ := List.mem_map.mp member
      simpa using apart
  rw [leave, content?, List.lookup_append, absent, Option.none_or]
  exact content?_remove apart

section Directories

theorem makeDirectory_eq_ok_iff :
    tree.makeDirectory directory = .ok made ↔
      directory.isTooLong = false ∧
        (∀ way ∈ directory.prefixes, tree.isFile way = false ∧ way.hasLongName = false) ∧
        made = tree.addDirectories directory.prefixes := by
  unfold makeDirectory
  split
  next long => simp [long]
  next short =>
    cases found : directory.prefixes.find? fun way => tree.isFile way || way.hasLongName with
    | none =>
        rw [List.find?_eq_none] at found
        simp only [Bool.or_eq_true, not_or, Bool.not_eq_true] at found
        simp only [Bool.eq_false_iff.mpr short, true_and, Except.ok.injEq]
        exact ⟨fun same => ⟨found, same.symm⟩, fun ⟨_, same⟩ => same.symm⟩
    | some obstacle =>
        have stands := List.find?_some found
        have above := List.mem_of_find?_eq_some found
        refine iff_of_false ?_ ?_
        · dsimp only
          split
          · simp
          · split <;> simp
        · rintro ⟨-, clear, -⟩
          simp [clear obstacle above] at stands

theorem content?_makeDirectory (makes : tree.makeDirectory directory = .ok made) (path : Path) :
    made.content? path = tree.content? path := by
  obtain ⟨-, -, rfl⟩ := makeDirectory_eq_ok_iff.mp makes
  rfl

theorem isDirectory_addDirectories (paths : List Path) :
    (tree.addDirectories paths).isDirectory path = true ↔
      tree.isDirectory path = true ∨ path ∈ paths := by
  have added : path ∈ paths.filter (fun path => !tree.isDirectory path) ↔
      path ∈ paths ∧ ¬ tree.isDirectory path = true := by
    simp
  rw [isDirectory, addDirectories, Bool.or_eq_true, List.contains_iff_mem, List.mem_append, added,
    ← or_assoc, ← List.contains_iff_mem, ← Bool.or_eq_true, ← isDirectory]
  by_cases there : tree.isDirectory path = true <;> simp [there]

theorem isDirectory_makeDirectory (makes : tree.makeDirectory directory = .ok made) :
    made.isDirectory path = true ↔ tree.isDirectory path = true ∨ path ∈ directory.prefixes := by
  obtain ⟨-, -, rfl⟩ := makeDirectory_eq_ok_iff.mp makes
  exact isDirectory_addDirectories _

theorem refuses_makeDirectory (makes : tree.makeDirectory directory = .ok made)
    (other : FileTree Content) : other.refuses directory = false := by
  obtain ⟨short, clear, -⟩ := makeDirectory_eq_ok_iff.mp makes
  rw [refuses, short, Bool.false_or, List.any_eq_false]
  intro way above
  simp [(clear way above).2]

end Directories

/-- What is there is listed among the files or the directories, unless it is the root. -/
theorem mem_of_hasEntry (present : tree.hasEntry path = true) (inner : path.parts ≠ []) :
    path ∈ tree.files.map (·.1) ++ tree.directories := by
  rw [hasEntry, Bool.or_eq_true] at present
  rcases present with file | directory
  · obtain ⟨entry, member, same⟩ := List.lookup_isSome_iff.mp file
    obtain rfl := eq_of_beq same
    exact List.mem_append_left _ (List.mem_map_of_mem member)
  · have listed : tree.directories.contains path = true := by
      simpa [isDirectory, inner] using directory
    exact List.mem_append_right _ (by simpa using listed)

end Montage.FileTree
