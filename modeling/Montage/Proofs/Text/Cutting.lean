import Mathlib.Data.List.Infix
import Mathlib.Data.List.TakeWhile
import Montage.Text.Basic

/-!
# Cutting of text

What trimming, splitting and replacing do to a text that is put together from lines: a line that
holds nothing of what is looked for is passed over as a whole.
-/

namespace Montage.Text

section Starts

variable {pattern characters rest : List Char}

theorem dropStart?_eq_some_iff :
    dropStart? pattern characters = some rest ↔ characters = pattern ++ rest := by
  induction pattern generalizing characters with
  | nil => simp [dropStart?]
  | cons expected pattern ih =>
      cases characters with
      | nil => simp [dropStart?]
      | cons character characters =>
          by_cases same : expected = character
          · simp [dropStart?, same, ih]
          · simp [dropStart?, same, Ne.symm same]

theorem isSome_dropStart?_iff :
    (dropStart? pattern characters).isSome ↔ pattern <+: characters := by
  rw [Option.isSome_iff_exists, List.prefix_iff_exists_append_eq]
  exact exists_congr fun rest => dropStart?_eq_some_iff.trans eq_comm

theorem occursIn_iff_infix : occursIn pattern characters = true ↔ pattern <:+: characters := by
  induction characters with
  | nil => simp [occursIn]
  | cons character rest ih =>
      rw [occursIn, Bool.or_eq_true, isSome_dropStart?_iff, ih, List.infix_cons_iff]

end Starts

section Replacement

variable {first second character : Char} {replacement characters line rest : List Char}

theorem replacePair_pair :
    replacePair first second replacement (first :: second :: rest) =
      replacement ++ replacePair first second replacement rest := by
  simp [replacePair]

theorem replacePair_cons (apart : character = first → rest.head? ≠ some second) :
    replacePair first second replacement (character :: rest) =
      character :: replacePair first second replacement rest := by
  cases rest with
  | nil => rfl
  | cons next rest =>
      have distinct : ¬ (character = first ∧ next = second) := fun ⟨same, same'⟩ =>
        apart same (congrArg some same')
      rw [replacePair, if_neg distinct]

theorem replacePair_cons_of_ne (apart : character ≠ first) :
    replacePair first second replacement (character :: rest) =
      character :: replacePair first second replacement rest :=
  replacePair_cons fun same => absurd same apart

theorem occursIn_pair :
    occursIn [first, second] (first :: second :: rest) = true := by
  simp [occursIn, dropStart?]

theorem occursIn_of_occursIn_rest {pattern : List Char}
    (absent : occursIn pattern (character :: rest) = false) : occursIn pattern rest = false := by
  simp only [occursIn, Bool.or_eq_false_iff] at absent
  exact absent.2

theorem occursIn_of_not_mem (absent : first ∉ line) : occursIn [first, second] line = false := by
  induction line with
  | nil => rfl
  | cons character line ih =>
      simp only [List.mem_cons, not_or] at absent
      simp [occursIn, dropStart?, absent.1, ih absent.2]

/-- A line without the pair is passed over, unless the pair begins at its end. -/
theorem replacePair_append (absent : occursIn [first, second] line = false)
    (apart : line.getLast? = some first → rest.head? ≠ some second) :
    replacePair first second replacement (line ++ rest) =
      line ++ replacePair first second replacement rest := by
  induction line with
  | nil => rfl
  | cons character line ih =>
      have begins : character = first → (line ++ rest).head? ≠ some second := by
        rintro rfl
        cases line with
        | nil => exact apart rfl
        | cons next line =>
            intro same
            obtain rfl : next = second := by simpa using same
            simp [occursIn_pair] at absent
      have apart' : line.getLast? = some first → rest.head? ≠ some second := fun last =>
        apart (by simp [List.getLast?_cons, last])
      rw [List.cons_append, replacePair_cons begins,
        ih (occursIn_of_occursIn_rest absent) apart', List.cons_append]

theorem replacePair_append_of_not_mem (absent : first ∉ line) :
    replacePair first second replacement (line ++ rest) =
      line ++ replacePair first second replacement rest := by
  induction line with
  | nil => rfl
  | cons character line ih =>
      simp only [List.mem_cons, not_or] at absent
      rw [List.cons_append, replacePair_cons_of_ne (Ne.symm absent.1), ih absent.2,
        List.cons_append]

end Replacement

section Trimming

variable {removed : Char → Bool} {pattern characters tail : List Char}

/-- Lists with no removable element at either end. -/
structure Trimmed (removed : Char → Bool) (characters : List Char) : Prop where
  begins : ∀ character, characters.head? = some character → removed character = false
  ends : ∀ character, characters.getLast? = some character → removed character = false

theorem Trimmed.of_imp {fewer : Char → Bool}
    (removes : ∀ character, fewer character = true → removed character = true)
    (trimmed : Trimmed removed characters) : Trimmed fewer characters := by
  have kept : ∀ character, removed character = false → fewer character = false := by
    intro character kept
    cases known : fewer character with
    | false => rfl
    | true => simp [removes character known] at kept
  exact ⟨fun character first => kept character (trimmed.begins character first),
    fun character last => kept character (trimmed.ends character last)⟩

theorem kept_of_all (kept : (characters.all fun character => !removed character) = true) :
    ∀ character ∈ characters, removed character = false :=
  fun character member => (Bool.not_eq_true' _).mp (List.all_eq_true.mp kept character member)

theorem dropWhile_of_head? {α : Type} {removed : α → Bool} {elements : List α}
    (begins : ∀ element, elements.head? = some element → removed element = false) :
    elements.dropWhile removed = elements := by
  cases elements with
  | nil => rfl
  | cons element rest => simp [begins element rfl]

/-- There is one way to part a list into the longest removable front and the rest. -/
theorem front_unique {α : Type} {removed : α → Bool} {front front' rest rest' : List α}
    (same : front ++ rest = front' ++ rest') (removable : ∀ element ∈ front, removed element = true)
    (removable' : ∀ element ∈ front', removed element = true)
    (begins : ∀ element, rest.head? = some element → removed element = false)
    (begins' : ∀ element, rest'.head? = some element → removed element = false) :
    front' = front ∧ rest' = rest := by
  have dropped := congrArg (List.dropWhile removed) same
  rw [List.dropWhile_append_of_pos removable, List.dropWhile_append_of_pos removable',
    dropWhile_of_head? begins, dropWhile_of_head? begins'] at dropped
  obtain rfl := dropped
  exact ⟨(List.append_cancel_right same).symm, rfl⟩

/-- What stands before the first mark can be told. -/
theorem eq_of_append_mark {mark : Char} {front front' rest rest' : List Char}
    (absent : mark ∉ front) (absent' : mark ∉ front')
    (same : front ++ mark :: rest = front' ++ mark :: rest') : front' = front := by
  have plain : ∀ {front : List Char}, mark ∉ front →
      ∀ character ∈ front, (character != mark) = true := by
    intro front absent character member
    rw [bne_iff_ne]
    exact ne_of_mem_of_not_mem member absent
  have first : ∀ {rest : List Char}, ∀ character, (mark :: rest).head? = some character →
      (character != mark) = false := by simp
  exact (front_unique same (plain absent) (plain absent') first first).1

/-- Trimming takes away what was put behind a trimmed list. -/
theorem trimBy_append (trimmed : Trimmed removed characters)
    (removable : ∀ character ∈ tail, removed character = true) :
    trimBy removed (characters ++ tail) = characters := by
  cases characters with
  | nil =>
      have nothing : tail.dropWhile removed = [] := List.dropWhile_eq_nil_iff.mpr removable
      simp [trimBy, nothing]
  | cons character rest =>
      have front : ((character :: rest) ++ tail).dropWhile removed =
          (character :: rest) ++ tail :=
        dropWhile_of_head? fun other same => trimmed.begins other same
      have back : ∀ other ∈ tail.reverse, removed other = true := fun other member =>
        removable other (List.mem_reverse.mp member)
      rw [trimBy, front, List.reverse_append, List.dropWhile_append_of_pos back,
        dropWhile_of_head? fun other same => trimmed.ends other (by
          rwa [List.head?_reverse] at same),
        List.reverse_reverse]

theorem trimBy_of_trimmed (trimmed : Trimmed removed characters) :
    trimBy removed characters = characters := by
  have nothing : ∀ character ∈ ([] : List Char), removed character = true := by simp
  simpa using trimBy_append trimmed nothing

theorem of_mem_trimBy {character : Char} (member : character ∈ trimBy removed characters) :
    character ∈ characters := by
  have kept := (List.dropWhile_suffix removed).mem (List.mem_reverse.mp member)
  exact (List.dropWhile_suffix removed).mem (List.mem_reverse.mp kept)

/-- What trimming takes away stands before and behind what is left. -/
theorem exists_trimBy (removed : Char → Bool) (characters : List Char) :
    ∃ before behind, characters = before ++ trimBy removed characters ++ behind ∧
      (∀ character ∈ before, removed character = true) ∧
      ∀ character ∈ behind, removed character = true := by
  have front := List.takeWhile_append_dropWhile (p := removed) (l := characters)
  have back := List.takeWhile_append_dropWhile (p := removed)
    (l := (characters.dropWhile removed).reverse)
  refine ⟨characters.takeWhile removed,
    ((characters.dropWhile removed).reverse.takeWhile removed).reverse, ?_,
    fun character => List.mem_takeWhile_imp, fun character member => ?_⟩
  · have whole := congrArg List.reverse back
    rw [List.reverse_append, List.reverse_reverse] at whole
    rw [List.append_assoc, trimBy, whole, front]
  · exact List.mem_takeWhile_imp (List.mem_reverse.mp member)

theorem removed_head?_dropWhile {character : Char}
    (first : (characters.dropWhile removed).head? = some character) :
    removed character = false := by
  have kept := List.head?_dropWhile_not removed characters
  rw [first] at kept
  exact kept

theorem trimmed_trimBy (removed : Char → Bool) (characters : List Char) :
    Trimmed removed (trimBy removed characters) := by
  refine ⟨fun character first => ?_, fun character last => ?_⟩
  · -- What is cut off at the end leaves the first character where it was.
    have start : trimBy removed characters <+: characters.dropWhile removed := by
      rw [trimBy, ← List.reverse_suffix, List.reverse_reverse]
      exact List.dropWhile_suffix removed
    obtain ⟨rest, whole⟩ := start
    have front : (characters.dropWhile removed).head? = some character := by
      rw [← whole, List.head?_append, first, Option.some_or]
    exact removed_head?_dropWhile front
  · rw [trimBy, List.getLast?_reverse] at last
    exact removed_head?_dropWhile last

/-- What a trimmed list starts with stands behind removable elements only. -/
theorem prefix_trimBy_iff (filled : pattern ≠ [])
    (kept : ∀ character ∈ pattern, removed character = false) :
    pattern <+: trimBy removed characters ↔
      ∃ before rest, characters = before ++ pattern ++ rest ∧
        ∀ character ∈ before, removed character = true := by
  constructor
  · rintro ⟨rest, whole⟩
    obtain ⟨before, behind, split, front, -⟩ := exists_trimBy removed characters
    refine ⟨before, rest ++ behind, ?_, front⟩
    rw [← whole] at split
    simpa only [List.append_assoc] using split
  · rintro ⟨before, rest, rfl, front⟩
    have begins : (before ++ pattern ++ rest).dropWhile removed = pattern ++ rest := by
      rw [List.append_assoc, List.dropWhile_append_of_pos front]
      apply dropWhile_of_head?
      intro character first
      rw [List.head?_append_of_ne_nil _ filled] at first
      exact kept character (List.mem_of_head? first)
    -- What is cut off at the end does not reach into the pattern.
    have ends : pattern.reverse.dropWhile removed = pattern.reverse := by
      apply dropWhile_of_head?
      intro character first
      exact kept character (List.mem_reverse.mp (List.mem_of_head? first))
    rw [trimBy, begins, List.reverse_append, List.dropWhile_append]
    split
    · rw [ends, List.reverse_reverse]
    · rw [List.reverse_append, List.reverse_reverse]
      exact List.prefix_append _ _

end Trimming

section Splitting

variable {separator : Char → Bool} {piece rest : List Char}

theorem splitBy_of_absent (absent : ∀ character ∈ piece, separator character = false) :
    splitBy separator piece = [piece] := by
  induction piece with
  | nil => rfl
  | cons character piece ih =>
      rw [List.forall_mem_cons] at absent
      simp [splitBy, absent.1, ih absent.2]

theorem of_mem_splitBy {characters : List Char} (member : piece ∈ splitBy separator characters) :
    ∀ character ∈ piece, character ∈ characters ∧ separator character = false := by
  induction characters generalizing piece with
  | nil => simp_all [splitBy]
  | cons first characters ih =>
      have later : ∀ piece ∈ splitBy separator characters, ∀ character ∈ piece,
          character ∈ first :: characters ∧ separator character = false :=
        fun piece known character found =>
          ⟨List.mem_cons_of_mem _ (ih known character found).1, (ih known character found).2⟩
      unfold splitBy at member
      split at member
      next separates =>
        rcases List.mem_cons.mp member with rfl | known
        · simp
        · exact later piece known
      next kept =>
        have kept : separator first = false := Bool.eq_false_iff.mpr kept
        split at member
        next => simp_all
        next next pieces equal =>
          rw [equal] at later
          rcases List.mem_cons.mp member with rfl | known
          · intro character found
            rcases List.mem_cons.mp found with rfl | found
            · exact ⟨List.mem_cons_self, kept⟩
            · exact later next List.mem_cons_self character found
          · exact later piece (List.mem_cons_of_mem _ known)

/-- The first piece ends at the first separator. -/
theorem splitBy_append_cons {character : Char} (separates : separator character = true)
    (absent : ∀ character ∈ piece, separator character = false) :
    splitBy separator (piece ++ character :: rest) = piece :: splitBy separator rest := by
  induction piece with
  | nil => simp [splitBy, separates]
  | cons other piece ih =>
      rw [List.forall_mem_cons] at absent
      simp [splitBy, absent.1, ih absent.2]

theorem exists_splitBy_cons (separator : Char → Bool) (characters : List Char) :
    ∃ piece pieces, splitBy separator characters = piece :: pieces := by
  cases characters with
  | nil => exact ⟨[], [], rfl⟩
  | cons character rest =>
      unfold splitBy
      split
      · exact ⟨_, _, rfl⟩
      · split <;> exact ⟨_, _, rfl⟩

theorem splitBy_cons {character : Char} (kept : separator character = false)
    {pieces : List (List Char)} (others : splitBy separator rest = piece :: pieces) :
    splitBy separator (character :: rest) = (character :: piece) :: pieces := by
  simp [splitBy, kept, others]

/-- Where two texts meet, the last piece of the first and the first piece of the second are one. -/
theorem splitBy_append {characters last : List Char} {front pieces : List (List Char)}
    (begins : splitBy separator characters = front ++ [last])
    (ends : splitBy separator rest = piece :: pieces) :
    splitBy separator (characters ++ rest) = front ++ (last ++ piece) :: pieces := by
  induction characters generalizing front last with
  | nil =>
      obtain ⟨rfl, rfl⟩ : front = [] ∧ last = [] := by
        cases front <;> simp_all [splitBy]
      exact ends
  | cons character characters ih =>
      rw [List.cons_append]
      by_cases separates : separator character = true
      · have cut : splitBy separator (character :: characters) =
            [] :: splitBy separator characters := by rw [splitBy, if_pos separates]
        obtain ⟨first, others, same⟩ := exists_splitBy_cons separator characters
        rw [cut] at begins
        cases front with
        | nil => simp [same] at begins
        | cons empty front =>
            obtain ⟨rfl, rest'⟩ := List.cons.inj begins
            rw [splitBy, if_pos separates, ih rest', List.cons_append]
      · obtain ⟨first, others, same⟩ := exists_splitBy_cons separator characters
        rw [splitBy_cons (Bool.eq_false_iff.mpr separates) same] at begins
        -- The character stands in the last piece only if there is no other.
        cases front with
        | nil =>
            obtain ⟨rfl, rfl⟩ := List.cons.inj begins
            have single : splitBy separator characters = [] ++ [first] := same
            have whole := ih single
            rw [splitBy_cons (Bool.eq_false_iff.mpr separates) whole]
            rfl
        | cons head front =>
            obtain ⟨rfl, rfl⟩ := List.cons.inj begins
            have several : splitBy separator characters = (first :: front) ++ [last] := same
            have whole := ih several
            rw [splitBy_cons (Bool.eq_false_iff.mpr separates) whole]
            rfl

theorem splitBy_intercalate {character : Char} (separates : separator character = true)
    {pieces : List (List Char)} (filled : pieces ≠ [])
    (absent : ∀ piece ∈ pieces, ∀ character ∈ piece, separator character = false) :
    splitBy separator ([character].intercalate pieces) = pieces := by
  induction pieces with
  | nil => exact absurd rfl filled
  | cons piece pieces ih =>
      rw [List.forall_mem_cons] at absent
      cases pieces with
      | nil =>
          rw [List.intercalate_singleton]
          exact splitBy_of_absent absent.1
      | cons next pieces =>
          rw [List.intercalate_cons_cons, List.append_assoc, List.singleton_append,
            splitBy_append_cons separates absent.1, ih (by simp) absent.2]

theorem intercalate_splitBy (mark : Char) (characters : List Char) :
    [mark].intercalate (splitBy (· == mark) characters) = characters := by
  induction characters with
  | nil => rfl
  | cons character rest ih =>
      obtain ⟨piece, pieces, same⟩ := exists_splitBy_cons (· == mark) rest
      rw [same] at ih
      by_cases separates : character = mark
      · subst separates
        rw [splitBy, if_pos (beq_self_eq_true character), same, List.intercalate_cons_cons, ih]
        rfl
      · rw [splitBy_cons (by simpa using separates) same]
        cases pieces with
        | nil => simpa using ih
        | cons next pieces =>
            rw [List.intercalate_cons_cons] at ih ⊢
            rw [← ih]
            rfl

end Splitting

section Joining

variable {separator : List Char} {removed : Char → Bool} {pieces : List (List Char)}

theorem head?_intercalate {piece : List Char} (filled : piece ≠ []) :
    (separator.intercalate (piece :: pieces)).head? = piece.head? := by
  cases pieces with
  | nil => rw [List.intercalate_singleton]
  | cons next pieces =>
      cases piece with
      | nil => exact absurd rfl filled
      | cons character piece => simp [List.intercalate_cons_cons]

theorem intercalate_ne_nil {piece : List Char} (filled : piece ≠ []) :
    separator.intercalate (piece :: pieces) ≠ [] := by
  intro empty
  have head : (separator.intercalate (piece :: pieces)).head? = piece.head? :=
    head?_intercalate filled
  rw [empty] at head
  exact filled (List.head?_eq_none_iff.mp head.symm)

theorem trimmed_intercalate (trimmed : ∀ piece ∈ pieces, piece ≠ [] ∧ Trimmed removed piece) :
    Trimmed removed (separator.intercalate pieces) := by
  induction pieces with
  | nil => exact ⟨by simp, by simp⟩
  | cons piece pieces ih =>
      rw [List.forall_mem_cons] at trimmed
      obtain ⟨⟨filled, first⟩, others⟩ := trimmed
      refine ⟨fun character same => first.begins character ?_, fun character same => ?_⟩
      · rwa [head?_intercalate filled] at same
      · cases pieces with
        | nil =>
            rw [List.intercalate_singleton] at same
            exact first.ends character same
        | cons next pieces =>
            have inner : separator.intercalate (next :: pieces) ≠ [] :=
              intercalate_ne_nil (others next List.mem_cons_self).1
            rw [List.intercalate_cons_cons, List.getLast?_append,
              List.getLast?_eq_some_getLast inner, Option.some_or,
              ← List.getLast?_eq_some_getLast inner] at same
            exact (ih others).ends character same

theorem intercalate_append {α : Type} {separator : List α} {first second : List (List α)}
    (some : first ≠ []) (some' : second ≠ []) :
    separator.intercalate (first ++ second) =
      separator.intercalate first ++ separator ++ separator.intercalate second := by
  match second, some' with
  | head :: tail, _ =>
      induction first with
      | nil => exact absurd rfl some
      | cons item items ih =>
          cases items with
          | nil => simp [List.intercalate_cons_cons]
          | cons next items =>
              have later := ih (by simp)
              simp only [List.cons_append, List.intercalate_cons_cons, List.append_assoc]
                at later ⊢
              rw [later]

theorem toList_join (lines : List (List Char)) :
    (join "\n" (lines.map String.ofList)).toList = ['\n'].intercalate lines := by
  rw [join, String.toList_intercalate, List.map_map]
  simp

end Joining

theorem exists_takeLast {α : Type} (count : Nat) (elements : List α) :
    ∃ front, elements = front ++ takeLast count elements ∧
      (takeLast count elements).length = min count elements.length := by
  refine ⟨elements.take (elements.length - count), (List.take_append_drop _ _).symm, ?_⟩
  rw [takeLast, List.length_drop]
  omega

end Montage.Text
