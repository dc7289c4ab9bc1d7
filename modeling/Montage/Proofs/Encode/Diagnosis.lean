import Montage.Encode.Diagnosis
import Montage.Proofs.Text.Cutting

/-!
# Diagnoses as tails

A diagnosis drops the longest banner at the start of error output and keeps the last lines of the
rest.  Lines that look like the banner further on are kept, so a diagnosis is a part of the output
in one piece, and ends as the output does.
-/

namespace Montage.Encode.Diagnosis

variable {line : String} {lines banner useful : List String}

/-- Lines of the banner: those that hold a mark, and those that begin with the name of a library,
white space apart, and hold a slash. -/
inductive OfBanner (line : String) : Prop where
  | marked {mark : String} (listed : mark ∈ bannerMarks) (holds : mark.toList <:+: line.toList) :
      OfBanner line
  | library {blanks rest : List Char} (named : line.toList = blanks ++ "lib".toList ++ rest)
      (blank : ∀ character ∈ blanks, Text.isBlank character = true) (slash : '/' ∈ line.toList) :
      OfBanner line

theorem isBanner_iff : isBanner line = true ↔ OfBanner line := by
  have library : (Text.dropStart? ['l', 'i', 'b'] (Text.trim line).toList).isSome ↔
      ∃ blanks rest, line.toList = blanks ++ "lib".toList ++ rest ∧
        ∀ character ∈ blanks, Text.isBlank character = true := by
    rw [Text.isSome_dropStart?_iff, Text.trim, String.toList_ofList]
    exact Text.prefix_trimBy_iff (by decide) (Text.kept_of_all (by decide))
  rw [isBanner, Bool.or_eq_true, Bool.and_eq_true, library, List.any_eq_true]
  constructor
  · rintro (⟨mark, listed, holds⟩ | ⟨⟨blanks, rest, named, blank⟩, slash⟩)
    · exact .marked listed (Text.occursIn_iff_infix.mp holds)
    · exact .library named blank (List.contains_iff_mem.mp slash)
  · rintro (⟨listed, holds⟩ | ⟨named, blank, slash⟩)
    · exact .inl ⟨_, listed, Text.occursIn_iff_infix.mpr holds⟩
    · exact .inr ⟨⟨_, _, named, blank⟩, List.contains_iff_mem.mpr slash⟩

/-- Lines with the longest banner at their start taken apart from the others. -/
structure Parts (lines banner useful : List String) : Prop where
  whole : lines = banner ++ useful
  banner : ∀ line ∈ banner, OfBanner line
  useful : ∀ line, useful.head? = some line → ¬ OfBanner line

theorem parts_usefulLines (output : String) :
    Parts (Text.lines (Text.trim output))
      ((Text.lines (Text.trim output)).takeWhile isBanner) (usefulLines output) := by
  unfold usefulLines
  generalize Text.lines (Text.trim output) = lines
  refine ⟨List.takeWhile_append_dropWhile.symm, fun line member => ?_, fun line first => ?_⟩
  · exact isBanner_iff.mp (List.mem_takeWhile_imp member)
  · have kept := List.head?_dropWhile_not isBanner lines
    rw [first] at kept
    rw [← isBanner_iff]
    simpa using kept

theorem Parts.unique {banner' useful' : List String} (parts : Parts lines banner useful)
    (parts' : Parts lines banner' useful') : banner' = banner ∧ useful' = useful := by
  have inside : ∀ {banner useful}, Parts lines banner useful →
      ∀ line ∈ banner, isBanner line = true :=
    fun parts line member => isBanner_iff.mpr (parts.banner line member)
  have beyond : ∀ {banner useful}, Parts lines banner useful →
      ∀ line, useful.head? = some line → isBanner line = false := by
    intro banner useful parts line first
    rw [Bool.eq_false_iff, Ne, isBanner_iff]
    exact parts.useful line first
  exact Text.front_unique (parts.whole.symm.trans parts'.whole) (inside parts) (inside parts')
    (beyond parts) (beyond parts')

/-- A diagnosis of the last lines of a text: it is the end of the text, cut off in front of a line,
and nothing is left out of it. -/
structure Ends (text : String) (kept : List String) (diagnosis : String) : Prop where
  joined : diagnosis = "\n".intercalate kept
  last : kept.getLast? = (Text.lines text).getLast?
  tail : ∃ front, text.toList = front ++ diagnosis.toList ∧
    (front = [] ∨ front.getLast? = some '\n')

theorem intercalate_lines (text : String) : "\n".intercalate (Text.lines text) = text := by
  have whole := Text.intercalate_splitBy '\n' text.toList
  rw [← String.toList_inj, String.toList_intercalate, Text.lines, Text.split, List.map_map]
  simpa [Function.comp_def] using whole

theorem ends_of_lines {text : String} {front kept : List String} (filled : kept ≠ [])
    (lines : Text.lines text = front ++ kept) : Ends text kept ("\n".intercalate kept) := by
  refine ⟨rfl, lines ▸ (List.getLast?_append_of_ne_nil front filled).symm, ?_⟩
  have whole := intercalate_lines text
  rw [lines] at whole
  by_cases empty : front = []
  · exact ⟨[], by rw [← whole, empty]; rfl, .inl rfl⟩
  · refine ⟨("\n".intercalate front).toList ++ ['\n'], ?_, .inr (by simp)⟩
    rw [← whole, String.toList_intercalate, List.map_append,
      Text.intercalate_append (by simpa using empty) (by simpa using filled),
      String.toList_intercalate, String.toList_intercalate]
    rfl

/-- The lines of the output, white space around it apart, are parted in one way into the longest
banner and the others.  A diagnosis is made of the last fifteen of these, or of all if there are
fewer; where there are none, it is the last five hundred characters of the output. -/
theorem ofOutput_tail (output : String) :
    ∃ banner useful, Parts (Text.lines (Text.trim output)) banner useful ∧
      (∀ banner' useful', Parts (Text.lines (Text.trim output)) banner' useful' →
        banner' = banner ∧ useful' = useful) ∧
      (useful ≠ [] → ∃ cut kept, useful = cut ++ kept ∧ kept.length = min 15 useful.length ∧
        Ends (Text.trim output) kept (ofOutput output)) ∧
      (useful = [] → ∃ front, output.toList = front ++ (ofOutput output).toList ∧
        (ofOutput output).toList.length = min 500 output.toList.length) := by
  have parts := parts_usefulLines output
  refine ⟨_, _, parts, fun _ _ parts' => parts.unique parts', fun some => ?_, fun none => ?_⟩
  · obtain ⟨cut, split, count⟩ := Text.exists_takeLast keptLines (usefulLines output)
    have filled : Text.takeLast keptLines (usefulLines output) ≠ [] := by
      have positive := List.length_pos_iff.mpr some
      have kept : keptLines = 15 := rfl
      exact List.length_pos_iff.mp (by omega)
    have told : ofOutput output =
        "\n".intercalate (Text.takeLast keptLines (usefulLines output)) := by
      rw [ofOutput]
      simp [some, Text.join]
    have lines := parts.whole
    rw [split, ← List.append_assoc] at lines
    exact ⟨cut, _, split, count, told ▸ ends_of_lines filled lines⟩
  · obtain ⟨front, split, count⟩ := Text.exists_takeLast keptCharacters output.toList
    have told : (ofOutput output).toList = Text.takeLast keptCharacters output.toList := by
      rw [ofOutput]
      simp [none, Text.suffix]
    rw [told]
    exact ⟨front, split, count⟩

/-- A line that looks like the banner ends the diagnosis if it is the last one. -/
example : ofOutput "ffmpeg version 6\n  libavutil 58 / 58\nNo such file\nbuilt with gcc\n" =
    "No such file\nbuilt with gcc" := by
  decide +kernel

end Montage.Encode.Diagnosis
