import Montage.Console.Styled

/-!
# Styles of printed lines

Breaking a text into lines brings no style into it: every stretch of a line has the style
of a stretch of the text.
-/

namespace Montage.Console.Styled

def In (styles : List String) (styled : Styled) : Prop :=
  ∀ span ∈ styled.spans, span.style ∈ styles

variable {styles : List String} {styled : Styled}

theorem In.filterMap (inside : styled.In styles) {change : Span → Option Span}
    (keeps : ∀ span changed, change span = some changed → changed.style = span.style)
    (characters : List Char) : In styles ⟨characters, styled.spans.filterMap change⟩ := by
  intro span member
  obtain ⟨original, listed, made⟩ := List.mem_filterMap.mp member
  rw [keeps original span made]
  exact inside original listed

theorem In.between (inside : styled.In styles) (first last : Nat) :
    (styled.between first last).In styles := by
  refine inside.filterMap (fun span changed made => ?_) _
  simp only [Span.between?] at made
  split at made
  · rw [← Option.some.inj made]
  · simp at made

theorem In.cutAt (inside : styled.In styles) (places : List Nat) :
    ∀ part ∈ styled.cutAt places, part.In styles := by
  have parts : ∀ first, ∀ part ∈ styled.partsFrom first places, part.In styles := by
    induction places with
    | nil =>
        intro first part member
        rw [List.mem_singleton.mp member]
        exact inside.between _ _
    | cons place places ih =>
        intro first part member
        rcases List.mem_cons.mp member with rfl | later
        · exact inside.between _ _
        · exact ih place part later
  unfold Styled.cutAt
  split
  · simpa using inside
  · exact parts 0

theorem In.cropped (inside : styled.In styles) (characters : List Char) :
    (styled.cropped characters).In styles := by
  unfold Styled.cropped
  split
  · refine inside.filterMap (fun span changed made => ?_) _
    unfold Span.within? at made
    split at made
    · rw [← Option.some.inj made]
    · simp at made
  · exact inside

theorem In.padded (inside : styled.In styles) (blanks : Nat) :
    (styled.padded blanks).In styles := by
  intro span member
  obtain ⟨original, listed, rfl⟩ := List.mem_map.mp member
  split <;> exact inside original listed

theorem in_joined {parts : List Styled} (inside : ∀ part ∈ parts, part.In styles) :
    (joined parts).In styles := by
  induction parts with
  | nil => simp [joined, In]
  | cons part parts ih =>
      intro span member
      rcases List.mem_append.mp member with own | other
      · exact inside part List.mem_cons_self span own
      · obtain ⟨original, listed, rfl⟩ := List.mem_map.mp other
        exact ih (fun later member => inside later (List.mem_cons_of_mem _ member))
          original listed

theorem in_expandParts (column : Nat) {parts : List Styled}
    (inside : ∀ part ∈ parts, part.In styles) :
    ∀ part ∈ expandParts column parts, part.In styles := by
  induction parts generalizing column with
  | nil => simp [expandParts]
  | cons part parts ih =>
      have own := inside part List.mem_cons_self
      have later := fun column => ih column fun other member =>
        inside other (List.mem_cons_of_mem _ member)
      unfold expandParts
      split
      · intro other member
        rcases List.mem_cons.mp member with rfl | member
        · have shown : In styles ⟨part.characters.dropLast ++ [' '], part.spans⟩ := own
          exact shown.padded _
        · exact later _ other member
      · intro other member
        rcases List.mem_cons.mp member with rfl | member
        · exact own
        · exact later _ other member

theorem In.withoutTabs (inside : styled.In styles) : styled.withoutTabs.In styles := by
  unfold Styled.withoutTabs
  dsimp only
  split
  · exact inside
  · exact in_joined (in_expandParts 0 (inside.cutAt _))

theorem In.printedLines (inside : styled.In styles) (width : Nat) :
    ∀ line ∈ styled.printedLines width, line.In styles := by
  intro line member
  obtain ⟨unbroken, listed, broken⟩ := List.mem_flatMap.mp member
  have whole := inside.cutAt _ unbroken (List.mem_filter.mp listed).1
  obtain ⟨part, cut, rfl⟩ := List.mem_map.mp broken
  exact ((whole.withoutTabs.cutAt _ part cut).cropped _).cropped _

end Montage.Console.Styled
