import Montage.Proofs.Numeric.Digits
import Montage.Proofs.Sequence
import Montage.Proofs.Storage.Files
import Montage.Proofs.Storage.Paths
import Montage.Proofs.Text.Cutting
import Montage.Proofs.Text.Lowercase
import Montage.Storage.AssetStore
import Mathlib.Data.List.Nodup

/-!
# Names of uploads

Whatever a client calls a file, it is kept under a name that denotes a visible file directly in its
directory.  The names that are tried for it are all different, so that the files and directories
that are there cannot take all of them, and it gets the first one that is free.
-/

namespace Montage

namespace Storage

/-- Characters that may stand in any name: all but slashes, null and white space. -/
structure IsNameable (character : Char) : Prop where
  noSlash : character ≠ '/'
  noNull : character ≠ '\x00'
  seen : Text.isBlank character = false

structure IsPlainName (name : String) : Prop where
  filled : name ≠ ""
  visible : name.toList.head? ≠ some '.'
  letters : ∀ character ∈ name.toList, IsNameable character

variable {name text : String} {character : Char} {characters : List Char}

theorem IsPlainName.ne_dots (plain : IsPlainName name) : name ≠ "." ∧ name ≠ ".." := by
  constructor
  · rintro rfl
    exact plain.visible rfl
  · rintro rfl
    exact plain.visible rfl

theorem IsPlainName.slash_not_mem (plain : IsPlainName name) : '/' ∉ name.toList := fun slash =>
  (plain.letters '/' slash).noSlash rfl

theorem isNameable_of_isDigit (digit : character.isDigit = true) : IsNameable character := by
  refine ⟨?_, ?_, ?_⟩
  · rintro rfl
    exact absurd digit (by decide)
  · rintro rfl
    exact absurd digit (by decide)
  · have bounds : 48 ≤ character.toNat ∧ character.toNat ≤ 57 := by
      simpa [Char.isDigit, UInt32.le_iff_toNat_le] using digit
    refine Bool.eq_false_iff.mpr fun blank => ?_
    simp only [Text.isBlank, Bool.or_eq_true, Bool.and_eq_true, decide_eq_true_eq, beq_iff_eq]
      at blank
    omega

/-- What may stand in a name may do so in lower case. -/
theorem isNameable_of_mem_lowercase (given : ∀ character ∈ text.toList, IsNameable character)
    (member : character ∈ (Text.lowercase text).toList) : IsNameable character := by
  have stood : Text.isCaseless character = true → IsNameable character := fun caseless =>
    given character (Text.mem_of_mem_lowercase caseless member)
  refine ⟨?_, ?_, Bool.eq_false_iff.mpr fun blank => ?_⟩
  · rintro rfl
    exact (stood rfl).noSlash rfl
  · rintro rfl
    exact (stood rfl).noNull rfl
  · rw [(stood (Text.isCaseless_of_isBlank blank)).seen] at blank
    exact absurd blank Bool.false_ne_true

section Sanitizing

theorem of_mem_underscoreBlanks (member : character ∈ underscoreBlanks characters) :
    Text.isBlank character = false ∧ (character = '_' ∨ character ∈ characters) := by
  fun_induction underscoreBlanks characters with
  | case1 => simp at member
  | case2 first blank =>
      obtain rfl := List.mem_singleton.mp member
      exact ⟨rfl, .inl rfl⟩
  | case3 first seen =>
      obtain rfl := List.mem_singleton.mp member
      exact ⟨Bool.eq_false_iff.mpr seen, .inr List.mem_cons_self⟩
  | case4 first second rest both ih =>
      obtain ⟨seen, known⟩ := ih member
      exact ⟨seen, known.imp_right (List.mem_cons_of_mem _)⟩
  | case5 first second rest apart ih =>
      rcases List.mem_cons.mp member with here | later
      · split at here
        next => exact ⟨here ▸ rfl, .inl here⟩
        next seen =>
          exact ⟨here ▸ Bool.eq_false_iff.mpr seen, .inr (here ▸ List.mem_cons_self)⟩
      · obtain ⟨seen, known⟩ := ih later
        exact ⟨seen, known.imp_right (List.mem_cons_of_mem _)⟩

/-- What is left of a name are safe characters without white space. -/
theorem of_mem_safeCharacters (member : character ∈ safeCharacters characters) :
    isSafe character = true ∧ Text.isBlank character = false := by
  have underscore : isSafe '_' = true := by decide
  have kept := Text.of_mem_trimBy (Text.of_mem_trimBy member)
  obtain ⟨seen, rfl | replaced⟩ := of_mem_underscoreBlanks kept
  · exact ⟨underscore, seen⟩
  · obtain ⟨given, -, rfl⟩ := List.mem_map.mp replaced
    refine ⟨?_, seen⟩
    split
    next safe => exact safe
    next => exact underscore

theorem ne_of_isSafe (safe : isSafe character = true) : character ≠ '/' ∧ character ≠ '\x00' := by
  constructor
  · rintro rfl
    exact absurd safe (by decide +kernel)
  · rintro rfl
    exact absurd safe (by decide +kernel)

theorem isPlainName_safeCharacters (filled : safeCharacters characters ≠ []) :
    IsPlainName (String.ofList (safeCharacters characters)) where
  filled := by simpa using filled
  visible := fun dot => by
    rw [String.toList_ofList] at dot
    exact absurd ((Text.trimmed_trimBy _ _).begins '.' dot) (by decide)
  letters := fun character member => by
    rw [String.toList_ofList] at member
    obtain ⟨safe, seen⟩ := of_mem_safeCharacters member
    exact ⟨(ne_of_isSafe safe).1, (ne_of_isSafe safe).2, seen⟩

theorem IsPlainName.start (plain : IsPlainName name) {count : Nat} (positive : 0 < count) :
    IsPlainName (Text.start count name) where
  filled := by
    have filled := plain.filled
    simpa [Text.start, positive.ne'] using filled
  visible := by
    have visible := plain.visible
    rwa [Text.start, String.toList_ofList, List.head?_take, if_neg positive.ne']
  letters := fun character member => by
    rw [Text.start, String.toList_ofList] at member
    exact plain.letters character (List.mem_of_mem_take member)

theorem isPlainName_safeFilename (name : String) :
    IsPlainName (safeFilename name fallbackName) := by
  have letters : (fallbackName.toList.all fun character =>
      character != '/' && character != '\x00' && !Text.isBlank character) = true := by
    decide
  have fallback : IsPlainName fallbackName := by
    refine ⟨by decide, by decide, fun character member => ?_⟩
    have letter := List.all_eq_true.mp letters character member
    simp only [Bool.and_eq_true, bne_iff_ne, Bool.not_eq_true'] at letter
    exact ⟨letter.1.1, letter.1.2, letter.2⟩
  refine IsPlainName.start ?_ (by decide)
  split
  next => exact fallback
  next filled => exact isPlainName_safeCharacters (by simpa using filled)

end Sanitizing

end Storage

namespace Path

open Storage

variable {name : String} {base : Path} {characters : List Char}

theorem child_of_isPlainName (plain : IsPlainName name) (base : Path) :
    base.child name = ⟨base.root, base.parts ++ [name]⟩ :=
  child_of_not_mem plain.slash_not_mem plain.filled plain.ne_dots.1

theorem name_of_isPlainName (plain : IsPlainName name) : (ofString name).name = name := by
  have proper : name ≠ "" ∧ name ≠ "." := ⟨plain.filled, plain.ne_dots.1⟩
  rw [ofString_of_not_mem plain.slash_not_mem, if_pos proper]
  rfl

/-- A text with a dot is what stands before the last one, that dot, and what is behind it. -/
theorem exists_before_lastDot (dotted : '.' ∈ characters) :
    ∃ before, characters =
      before ++ '.' :: (characters.reverse.takeWhile (· != '.')).reverse := by
  obtain ⟨rest, dropped⟩ : ∃ rest, characters.reverse.dropWhile (· != '.') = '.' :: rest := by
    cases left : characters.reverse.dropWhile (· != '.') with
    | nil =>
        rw [List.dropWhile_eq_nil_iff] at left
        exact absurd (left '.' (List.mem_reverse.mpr dotted)) (by decide)
    | cons first rest =>
        have front : (characters.reverse.dropWhile (· != '.')).head? = some first := by
          rw [left]
          rfl
        have ends := Text.removed_head?_dropWhile front
        exact ⟨rest, by simpa using ends⟩
  have split := List.takeWhile_append_dropWhile (p := (· != '.')) (l := characters.reverse)
  rw [dropped] at split
  have mirrored := congrArg List.reverse split
  exact ⟨rest.reverse, by simpa using mirrored.symm⟩

/-- What is cut off a name is not lost, and there is something before a suffix. -/
theorem cutSuffix_spec (characters : List Char) :
    (cutSuffix characters).1 ++ (cutSuffix characters).2 = characters ∧
      (characters ≠ [] → (cutSuffix characters).1 ≠ []) := by
  unfold cutSuffix
  dsimp only
  split
  · simp
  next proper =>
    simp only [Bool.or_eq_true, not_or, Bool.not_eq_true, Bool.not_eq_eq_eq_not, Bool.not_true,
      Bool.not_eq_false, List.isEmpty_eq_false_iff] at proper
    obtain ⟨⟨-, before⟩, dotted⟩ := proper
    refine ⟨?_, fun _ => before⟩
    obtain ⟨rest, whole⟩ := exists_before_lastDot (by simpa using dotted)
    generalize characters.reverse.takeWhile (· != '.') = afterDot at whole ⊢
    have length : characters.length - afterDot.length - 1 = rest.length := by
      rw [whole, List.length_append, List.length_cons, List.length_reverse]
      omega
    have stem : characters.take rest.length = rest := by
      rw [whole]
      exact List.take_left
    rw [length, stem]
    exact whole.symm

end Path

namespace AssetStore

open Storage

variable {stem suffix name : String} {base path : Path} {store : AssetStore}
  {Content : Type} {tree : FileTree Content} {first second number bound : Nat}

section Candidates

def numbering (number : Nat) : List Char :=
  if number = 0 then [] else '_' :: (Decimal.ofInt number).toList

theorem toList_candidate (stem suffix : String) (number : Nat) :
    (candidate stem suffix number).toList =
      stem.toList ++ (numbering number ++ suffix.toList) := by
  unfold candidate numbering
  split
  · simp
  · simp [toString]

theorem numbering_injective : Function.Injective numbering := by
  intro first second same
  unfold numbering at same
  split at same
  next zero =>
    split at same
    next zero' => rw [zero, zero']
    next => simp at same
  next =>
    split at same
    next => simp at same
    next =>
      have digits := String.toList_injective (List.cons.inj same).2
      exact Decimal.ofInt_natCast_injective digits

theorem candidate_injective (stem suffix : String) :
    Function.Injective (candidate stem suffix) := by
  intro first second same
  have characters := congrArg String.toList same
  rw [toList_candidate, toList_candidate] at characters
  exact numbering_injective (List.append_cancel_right (List.append_cancel_left characters))

theorem isNameable_of_mem_numbering {character : Char} (member : character ∈ numbering number) :
    IsNameable character := by
  unfold numbering at member
  split at member
  next => simp at member
  next =>
    rcases List.mem_cons.mp member with rfl | digit
    · exact ⟨by decide, by decide, rfl⟩
    · exact isNameable_of_isDigit (Decimal.isDigit_of_mem_ofInt digit)

/-- A number, and a suffix in lower case, leave the name of a visible file what it is. -/
theorem isPlainName_candidate (plain : IsPlainName (stem ++ suffix)) (filled : stem ≠ "")
    (number : Nat) : IsPlainName (candidate stem (Text.lowercase suffix) number) := by
  have visible := plain.visible
  have letters := plain.letters
  rw [String.toList_append] at visible letters
  rw [List.forall_mem_append] at letters
  have begins : stem.toList ≠ [] := by simpa using filled
  obtain ⟨first, rest, front⟩ := List.exists_cons_of_ne_nil begins
  have characters := toList_candidate stem (Text.lowercase suffix) number
  refine ⟨fun empty => ?_, ?_, fun character member => ?_⟩
  · rw [empty, front] at characters
    simp at characters
  · rw [characters, front]
    simpa [front] using visible
  · rw [characters, List.mem_append, List.mem_append] at member
    rcases member with inStem | between | inSuffix
    · exact letters.1 character inStem
    · exact isNameable_of_mem_numbering between
    · exact isNameable_of_mem_lowercase letters.2 inSuffix

end Candidates

section Uploads

/-- The names that are tried in turn for the upload that a client gives a name. -/
def uploadName (name : String) (number : Nat) : String :=
  let safe := Path.ofString (safeFilename name fallbackName)
  candidate safe.stem (Text.lowercase safe.suffix) number

def uploadPath (store : AssetStore) (name : String) (number : Nat) : Path :=
  (store.base .uploads).child (uploadName name number)

theorem isPlainName_uploadName (name : String) (number : Nat) :
    IsPlainName (uploadName name number) := by
  have plain := isPlainName_safeFilename name
  unfold uploadName
  dsimp only
  have named := Path.name_of_isPlainName plain
  generalize safeFilename name fallbackName = safe at *
  obtain ⟨whole, filled⟩ := Path.cutSuffix_spec safe.toList
  have uncut : (Path.ofString safe).stem ++ (Path.ofString safe).suffix = safe := by
    rw [Path.stem, Path.suffix, named, ← String.ofList_append, whole, String.ofList_toList]
  refine isPlainName_candidate (uncut.symm ▸ plain) ?_ number
  have stem : (Path.cutSuffix safe.toList).1 ≠ [] := filled (by simpa using plain.filled)
  simpa [Path.stem, named] using stem

theorem uploadName_injective (name : String) : Function.Injective (uploadName name) :=
  candidate_injective _ _

theorem uploadPath_eq (store : AssetStore) (name : String) (number : Nat) :
    store.uploadPath name number =
      ⟨(store.base .uploads).root, (store.base .uploads).parts ++ [uploadName name number]⟩ :=
  Path.child_of_isPlainName (isPlainName_uploadName name number) _

theorem uploadPath_injective (store : AssetStore) (name : String) :
    Function.Injective (store.uploadPath name) := by
  intro first second same
  rw [uploadPath_eq, uploadPath_eq, Path.mk.injEq] at same
  exact uploadName_injective name (by simpa using same.2)

/-- The number of the first path in turn at which there is nothing. -/
structure FirstFree (store : AssetStore) (tree : FileTree Content) (name : String)
    (number : Nat) : Prop where
  free : tree.hasEntry (store.uploadPath name number) = false
  taken : ∀ earlier < number, tree.hasEntry (store.uploadPath name earlier) = true

section Search

variable {isTaken : Nat → Bool}

theorem isTaken_of_lt_freeNumber :
    ∀ number, first ≤ number → number < freeNumber isTaken bound first →
      isTaken number = true := by
  induction bound generalizing first with
  | zero =>
      intro number above below
      rw [freeNumber] at below
      omega
  | succ bound ih =>
      intro number above below
      unfold freeNumber at below
      split at below
      next known =>
        rcases Nat.eq_or_lt_of_le above with rfl | later
        · exact known
        · exact ih number later below
      next => omega

theorem isTaken_of_freeNumber (taken : isTaken (freeNumber isTaken bound first) = true) :
    ∀ number, first ≤ number → number < first + bound → isTaken number = true := by
  induction bound generalizing first with
  | zero =>
      intro number above below
      omega
  | succ bound ih =>
      intro number above below
      unfold freeNumber at taken
      split at taken
      next known =>
        rcases Nat.eq_or_lt_of_le above with rfl | later
        · exact known
        · exact ih taken number later (by omega)
      next free => exact absurd taken free

end Search

/-- An upload gets the first path in turn at which there is nothing, unless its look-up is refused.
If the one that is found were taken, all within the bound would be, and those are more than there
are files and directories. -/
theorem exists_firstFree (store : AssetStore) (tree : FileTree Content) (name : String) :
    ∃ number, store.FirstFree tree name number ∧
      store.uniquePath tree name =
        if tree.refuses (store.uploadPath name number) then .error .system
        else .ok (store.uploadPath name number) := by
  let isTaken (number : Nat) : Bool := tree.hasEntry (store.uploadPath name number)
  let bound := tree.files.length + tree.directories.length + 1
  refine ⟨freeNumber isTaken bound 0, ⟨Bool.eq_false_iff.mpr fun present => ?_, ?_⟩, rfl⟩
  · have taken : ∀ number < bound, isTaken number = true := fun number below =>
      isTaken_of_freeNumber present number (Nat.zero_le _) (by omega)
    -- More different paths than there are entries cannot all be among them.
    have distinct : ((List.range bound).map (store.uploadPath name)).Nodup :=
      List.nodup_range.map (store.uploadPath_injective name)
    have listed : (List.range bound).map (store.uploadPath name) ⊆
        tree.files.map (·.1) ++ tree.directories := by
      intro path member
      obtain ⟨number, within, rfl⟩ := List.mem_map.mp member
      exact FileTree.mem_of_hasEntry (taken number (List.mem_range.mp within))
        (by simp [uploadPath_eq])
    have fits := distinct.length_le_of_subset listed
    simp only [List.length_map, List.length_range, List.length_append, bound] at fits
    omega
  · exact fun earlier below => isTaken_of_lt_freeNumber earlier (Nat.zero_le _) below

theorem hasEntry_uniquePath (unique : store.uniquePath tree name = .ok path) :
    tree.hasEntry path = false := by
  obtain ⟨number, ⟨free, -⟩, given⟩ := store.exists_firstFree tree name
  rw [given] at unique
  split at unique
  next => simp at unique
  next => exact Except.ok.inj unique ▸ free

theorem content?_save {given : Content} {saved : FileTree Content × Path} {other : Path}
    (saves : store.save tree name given = .ok saved) (present : tree.isFile other = true) :
    saved.1.content? other = tree.content? other := by
  unfold save at saves
  obtain ⟨path, unique, written⟩ := bind_eq_ok_iff.mp saves
  obtain rfl := Except.ok.inj written
  have free := hasEntry_uniquePath unique
  refine FileTree.content?_write ?_
  rintro rfl
  simp [FileTree.hasEntry, present] at free

end Uploads

end AssetStore

end Montage
