import Montage.Filter.Graph
import Montage.Proofs.Numeric.Digits
import Mathlib.Data.List.Basic

/-!
# Generated labels

The labels that a graph gives out are letters with numbers, and a few words.  They are told
apart by their letters and their numbers, and no word is a letter with a number.
-/

namespace Montage.Filter.Builder

section Numbers

theorem toList_numbered (letter : String) (number : Nat) :
    (numbered letter number).toList = letter.toList ++ Decimal.digitsOf number := by
  rw [numbered, String.toList_append, Decimal.toList_ofInt_natCast]

@[simp]
theorem numbered_inj {letter : String} {number other : Nat} :
    numbered letter number = numbered letter other ↔ number = other := by
  refine ⟨fun same => ?_, fun same => same ▸ rfl⟩
  have texts := congrArg String.toList same
  rw [toList_numbered, toList_numbered, List.append_cancel_left_eq] at texts
  exact Decimal.digitsOf_injective texts

theorem numbered_ne {letter letter' : String} {number other : Nat} (first : letter.toList ≠ [])
    (second : letter'.toList ≠ []) (apart : letter.toList.head? ≠ letter'.toList.head?) :
    numbered letter number ≠ numbered letter' other := by
  intro same
  have heads := congrArg (fun label => label.toList.head?) same
  simp only [toList_numbered, List.head?_append_of_ne_nil _ first,
    List.head?_append_of_ne_nil _ second] at heads
  exact apart heads

theorem numbered_ne_word {letter word : String} {number : Nat} (single : letter.toList.length = 1)
    (letters : word.toList.tail.all Char.isDigit = false) :
    numbered letter number ≠ word := by
  rintro rfl
  obtain ⟨character, member, notDigit⟩ := List.all_eq_false.mp letters
  obtain ⟨head, whole⟩ := List.length_eq_one_iff.mp single
  rw [toList_numbered, whole] at member
  have isDigit := Nat.isDigit_of_mem_toDigits (by decide) (by decide) member
  simp [isDigit] at notDigit

end Numbers

/-- The labels that a graph under construction has given to pictures, clip sounds and audio
clips. -/
def given (builder : Builder) : List String :=
  (List.range builder.pictures.length).map (numbered "v") ++
    (List.range builder.sounds.length).map (numbered "a") ++
      (List.range builder.overlays.length).map (numbered "o")

def textLabels (count : Nat) : List String :=
  (List.range count).map (numbered "t")

section Freshness

variable {builder : Builder} {letter letter' word : String}

theorem numbered_not_mem_own (letter : String) (count : Nat) :
    numbered letter count ∉ (List.range count).map (numbered letter) := by
  simp only [List.mem_map, List.mem_range, numbered_inj, not_exists, not_and]
  intro index below
  omega

theorem numbered_not_mem_other (first : letter.toList ≠ []) (second : letter'.toList ≠ [])
    (apart : letter'.toList.head? ≠ letter.toList.head?) (number count : Nat) :
    numbered letter number ∉ (List.range count).map (numbered letter') := by
  rw [List.mem_map]
  rintro ⟨index, -, same⟩
  exact numbered_ne second first apart same

theorem word_not_mem (single : letter.toList.length = 1)
    (letters : word.toList.tail.all Char.isDigit = false) (count : Nat) :
    word ∉ (List.range count).map (numbered letter) := by
  rw [List.mem_map]
  rintro ⟨index, -, same⟩
  exact numbered_ne_word single letters same

theorem word_not_mem_given (letters : word.toList.tail.all Char.isDigit = false) :
    word ∉ builder.given := by
  simp only [given, List.mem_append, not_or]
  exact ⟨⟨word_not_mem (by decide) letters _, word_not_mem (by decide) letters _⟩,
    word_not_mem (by decide) letters _⟩

theorem picture_not_mem_given : numbered "v" builder.pictures.length ∉ builder.given := by
  simp only [given, List.mem_append, not_or]
  exact ⟨⟨numbered_not_mem_own _ _, numbered_not_mem_other (by decide) (by decide) (by decide) _ _⟩,
    numbered_not_mem_other (by decide) (by decide) (by decide) _ _⟩

theorem sound_not_mem_given : numbered "a" builder.sounds.length ∉ builder.given := by
  simp only [given, List.mem_append, not_or]
  exact ⟨⟨numbered_not_mem_other (by decide) (by decide) (by decide) _ _,
    numbered_not_mem_own _ _⟩, numbered_not_mem_other (by decide) (by decide) (by decide) _ _⟩

theorem overlay_not_mem_given : numbered "o" builder.overlays.length ∉ builder.given := by
  simp only [given, List.mem_append, not_or]
  exact ⟨⟨numbered_not_mem_other (by decide) (by decide) (by decide) _ _,
    numbered_not_mem_other (by decide) (by decide) (by decide) _ _⟩, numbered_not_mem_own _ _⟩

theorem text_not_mem_given (count : Nat) : numbered "t" count ∉ builder.given := by
  simp only [given, List.mem_append, not_or]
  exact ⟨⟨numbered_not_mem_other (by decide) (by decide) (by decide) _ _,
    numbered_not_mem_other (by decide) (by decide) (by decide) _ _⟩,
    numbered_not_mem_other (by decide) (by decide) (by decide) _ _⟩

end Freshness

end Montage.Filter.Builder
