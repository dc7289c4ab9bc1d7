import Montage.Path
import Montage.Proofs.Text.Cutting
import Mathlib.Data.List.Infix

/-!
# Resolved paths

A resolved path starts at the root and has no double dots, so that it denotes itself from every
directory.  Directories of which neither holds the other have no path in common.
-/

namespace Montage.Path

variable {base directory first path second : Path} {name part text : String}
  {done parts : List String}

section Writing

/-- A text without null characters writes a path without them. -/
theorem holdsNull_ofString (legal : '\x00' ∉ text.toList) : (ofString text).holdsNull = false := by
  simp only [holdsNull, List.any_eq_false]
  intro part member
  obtain ⟨piece, split, rfl⟩ := List.mem_map.mp (List.mem_filter.mp member).1
  simp only [String.toList_ofList, List.contains_iff_mem]
  exact fun null => legal (Text.of_mem_splitBy split '\x00' null).1

theorem rootOf_of_head?_ne {characters : List Char} (relative : characters.head? ≠ some '/') :
    rootOf characters = "" := by
  unfold rootOf
  split <;> simp_all

/-- A name without slashes is one part of a path, unless it is empty or a single dot. -/
theorem ofString_of_not_mem (absent : '/' ∉ name.toList) :
    ofString name = ⟨"", if name ≠ "" ∧ name ≠ "." then [name] else []⟩ := by
  have relative : name.toList.head? ≠ some '/' := fun begins =>
    absent (List.mem_of_mem_head? begins)
  have whole : Text.split '/' name = [name] := by
    rw [Text.split, Text.splitBy_of_absent fun character member => ?_]
    · simp
    · have other : character ≠ '/' := by
        rintro rfl
        exact absent member
      simpa using other
  rw [ofString, rootOf_of_head?_ne relative, whole]
  by_cases plain : name ≠ "" ∧ name ≠ "."
  · simp [plain]
  · rw [if_neg plain]
    simpa using plain

theorem child_of_not_mem (absent : '/' ∉ name.toList) (filled : name ≠ "") (moves : name ≠ ".") :
    base.child name = ⟨base.root, base.parts ++ [name]⟩ := by
  have plain : name ≠ "" ∧ name ≠ "." := ⟨filled, moves⟩
  rw [child, ofString_of_not_mem absent, if_pos plain]
  rfl

/-- A suffix without dots behind a stem is what is cut off. -/
theorem cutSuffix_append {stem extension : List Char} (filled : stem ≠ [])
    (filled' : extension ≠ []) (absent : '.' ∉ extension) :
    cutSuffix (stem ++ '.' :: extension) = (stem, '.' :: extension) := by
  have kept : ∀ character ∈ extension.reverse, (character != '.') = true := by
    intro character member
    have other : character ≠ '.' := fun same => absent (same ▸ List.mem_reverse.mp member)
    simpa using other
  have after : (stem ++ '.' :: extension).reverse.takeWhile (· != '.') = extension.reverse := by
    rw [List.reverse_append, List.reverse_cons, List.append_assoc,
      List.takeWhile_append_of_pos kept]
    simp
  have before : (stem ++ '.' :: extension).take
      ((stem ++ '.' :: extension).length - extension.reverse.length - 1) = stem := by
    have count : (stem ++ '.' :: extension).length - extension.reverse.length - 1 =
        stem.length := by
      rw [List.length_append, List.length_cons, List.length_reverse]
      omega
    rw [count, List.take_left]
  unfold cutSuffix
  simp only [after, before, List.reverse_reverse]
  rw [if_neg (by simp [filled, filled'])]

end Writing

section Resolving

theorem mem_collapse (member : part ∈ collapse done parts) :
    part ∈ done ∨ part ∈ parts ∧ part ≠ ".." := by
  induction parts generalizing done with
  | nil => exact .inl (List.mem_reverse.mp member)
  | cons next parts ih =>
      unfold collapse at member
      split at member
      next =>
        rcases ih member with known | ⟨later, plain⟩
        · exact .inl (List.mem_of_mem_tail known)
        · exact .inr ⟨List.mem_cons_of_mem _ later, plain⟩
      next plain =>
        rcases ih member with known | ⟨later, plain⟩
        · rcases List.mem_cons.mp known with rfl | known
          · exact .inr ⟨List.mem_cons_self, plain⟩
          · exact .inl known
        · exact .inr ⟨List.mem_cons_of_mem _ later, plain⟩

theorem collapse_of_not_mem (plain : ".." ∉ parts) :
    collapse done parts = done.reverse ++ parts := by
  induction parts generalizing done with
  | nil => simp [collapse]
  | cons next parts ih =>
      simp only [List.mem_cons, not_or] at plain
      rw [collapse, if_neg (Ne.symm plain.1), ih plain.2, List.reverse_cons, List.append_assoc,
        List.singleton_append]

structure IsResolved (path : Path) : Prop where
  root : path.root = "/"
  plain : ".." ∉ path.parts

theorem isResolved_resolve (directory path : Path) : (resolve directory path).IsResolved := by
  refine ⟨rfl, fun member => ?_⟩
  rcases mem_collapse member with known | ⟨-, plain⟩
  · exact absurd known List.not_mem_nil
  · exact plain rfl

theorem IsResolved.resolve_eq (resolved : path.IsResolved) : resolve directory path = path := by
  obtain ⟨root, plain⟩ := resolved
  have absolute : path.isAbsolute = true := by
    rw [isAbsolute, root]
    rfl
  rw [resolve, append, if_pos absolute, collapse_of_not_mem plain]
  cases path
  simp_all

theorem mem_append_parts (member : part ∈ (directory.append path).parts) :
    part ∈ directory.parts ∨ part ∈ path.parts := by
  unfold append at member
  split at member
  · exact .inr member
  · exact List.mem_append.mp member

theorem holdsNull_resolve (legal : directory.holdsNull = false) (legal' : path.holdsNull = false) :
    (resolve directory path).holdsNull = false := by
  simp only [holdsNull, List.any_eq_false] at legal legal' ⊢
  intro part member
  rcases mem_collapse member with known | ⟨given, -⟩
  · exact absurd known List.not_mem_nil
  · rcases mem_append_parts given with above | below
    · exact legal part above
    · exact legal' part below

end Resolving

section Containment

theorem isBelow_iff :
    path.isBelow base = true ↔ path.root = base.root ∧ base.parts <+: path.parts := by
  simp [isBelow]

/-- Paths strictly below a directory, on which no step leads up again. -/
structure IsInside (path base : Path) : Prop where
  root : path.root = base.root
  below : ∃ first rest, path.parts = base.parts ++ first :: rest
  plain : ".." ∉ path.parts

theorem IsResolved.isInside_iff (resolved : path.IsResolved) :
    path.IsInside base ↔ path.isBelow base = true ∧ path ≠ base := by
  constructor
  · rintro ⟨root, ⟨first, rest, parts⟩, -⟩
    refine ⟨isBelow_iff.mpr ⟨root, parts ▸ List.prefix_append _ _⟩, ?_⟩
    rintro rfl
    simpa using congrArg List.length parts
  · rintro ⟨below, proper⟩
    obtain ⟨root, more, parts⟩ := isBelow_iff.mp below
    cases more with
    | nil =>
        refine absurd ?_ proper
        cases path
        cases base
        simp_all
    | cons first rest => exact ⟨root, ⟨first, rest, parts.symm⟩, resolved.plain⟩

theorem isBelow_or_isBelow (below : path.isBelow first = true)
    (below' : path.isBelow second = true) :
    first.isBelow second = true ∨ second.isBelow first = true := by
  rw [isBelow_iff] at below below'
  rcases List.prefix_or_prefix_of_prefix below.2 below'.2 with inner | inner
  · exact .inr (isBelow_iff.mpr ⟨below'.1.symm.trans below.1, inner⟩)
  · exact .inl (isBelow_iff.mpr ⟨below.1.symm.trans below'.1, inner⟩)

end Containment

end Montage.Path
