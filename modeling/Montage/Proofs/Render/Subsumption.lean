import Montage.Proofs.Numeric.Rounding
import Montage.Proofs.Render.Faults

/-!
# Accepted requests are resolved

Whatever a request is accepted with, the checks of resolution have nothing to object to: a cut
that is in order leaves something, a length that is given is above zero, and no start is below it.
What is no number passes all checks of both kinds.
-/

namespace Montage

namespace Resolution

variable {fallback : Binary64} {probe : Option ProbeResult} {item : TimelineItem} {cut : Option Cut}
  {progress : Progress} {path : Option Path} {assets : AssetLookup} {listed : List TimelineItem}
  {located : List (TimelineItem × Option Path)} {prober : Prober} {options : Options}
  {spec : RenderSpec}

section Lengths

theorem not_le_zero_of_pos {number : Binary64} (above : 0 < number) : ¬ number ≤ 0 := fun atMost =>
  absurd (Binary64.zero_lt_of_le above atMost) (by decide)

theorem not_lt_zero_of_nonneg {number : Binary64} (nonneg : 0 ≤ number) : ¬ number < 0 := by
  obtain ⟨known, known'⟩ := Binary64.ne_nan_of_le nonneg
  rw [Binary64.lt_iff_rank known' known, not_lt]
  exact (Binary64.le_iff_rank known known').mp nonneg

theorem not_probedDuration_le_zero (positive : 0 < fallback) :
    ¬ probedDuration fallback probe ≤ 0 := by
  unfold probedDuration
  split
  · exact not_le_zero_of_pos positive
  · split
    · exact not_le_zero_of_pos positive
    next lasts => exact lasts

theorem exists_cutLength (ordered : ∀ given ∈ cut, given.InOrder) (filename : String) :
    ∃ length, cutLength filename cut = .ok length ∧ ∀ taken ∈ length, ¬ taken ≤ 0 := by
  cases cut with
  | none => exact ⟨none, rfl, by simp⟩
  | some part =>
      have inOrder := ordered part rfl
      cases part with
      | whole => exact ⟨none, rfl, by simp⟩
      | between start finish =>
          refine ⟨some (finish - start), by rw [cutLength, if_neg inOrder.1], ?_⟩
          rintro taken ⟨⟩
          exact Binary64.not_sub_le_zero inOrder.1 inOrder.2

theorem not_getD_le_zero {length : Option Binary64} {other : Binary64}
    (lasts : ∀ taken ∈ length, ¬ taken ≤ 0) (lasts' : ¬ other ≤ 0) : ¬ length.getD other ≤ 0 := by
  cases length with
  | none => exact lasts'
  | some taken => exact lasts taken rfl

/-- An item within its bounds takes some length, or one that is no number. -/
theorem exists_lengthOf (positive : 0 < fallback) (bounds : ¬ item.isText → item.InBounds)
    (probe : Option ProbeResult) :
    ∃ duration, lengthOf fallback probe item = .ok duration ∧
      (¬ item.isText → ¬ duration ≤ 0) := by
  have probed : ¬ probedDuration fallback probe ≤ 0 := not_probedDuration_le_zero positive
  cases item with
  | text overlay => exact ⟨_, rfl, fun notText => absurd rfl notText⟩
  | image clip =>
      exact ⟨_, rfl, fun notText => not_le_zero_of_pos (bounds notText)⟩
  | video clip =>
      obtain ⟨cuts, -⟩ := bounds (by simp [TimelineItem.isText])
      obtain ⟨length, taken, lasts⟩ := exists_cutLength cuts clip.filename
      exact ⟨_, by rw [lengthOf, taken]; rfl, fun _ => not_getD_le_zero lasts probed⟩
  | audio clip =>
      obtain ⟨-, cuts, given, -⟩ := bounds (by simp [TimelineItem.isText])
      obtain ⟨length, taken, lasts⟩ := exists_cutLength cuts clip.filename
      refine ⟨_, by rw [lengthOf, taken]; rfl, fun _ => ?_⟩
      exact not_getD_le_zero (fun own mine => not_le_zero_of_pos (given own mine))
        (not_getD_le_zero lasts probed)

end Lengths

section Placing

/-- An item within its bounds is placed, and the cursor does not fall below zero. -/
theorem exists_place (positive : 0 < fallback) (bounds : ¬ item.isText → item.InBounds)
    (notBelow : ¬ progress.cursor < 0) (path : Option Path) (probe : Option ProbeResult) :
    ∃ next resolved, place fallback progress item path probe = .ok (next, resolved) ∧
      ¬ next.cursor < 0 := by
  obtain ⟨duration, taken, lasts⟩ := exists_lengthOf positive bounds probe
  have begins : item.isAudio → ¬ item.startAt progress.cursor < 0 := by
    intro audio
    cases item with
    | audio clip =>
        obtain ⟨starts, -⟩ := bounds (by simp [TimelineItem.isText])
        change ¬ clip.startTime.getD progress.cursor < 0
        cases given : clip.startTime with
        | none => exact notBelow
        | some start => exact not_lt_zero_of_nonneg (starts start given)
    | video _ | image _ | text _ => simp [TimelineItem.isAudio] at audio
  refine ⟨_, _, place_eq_ok taken lasts begins, ?_⟩
  cases item with
  | video clip | image clip =>
      exact Binary64.not_add_lt_zero notBelow (lasts (by simp [TimelineItem.isText]))
  | audio _ | text _ => exact notBelow

theorem exists_placeAll (positive : 0 < fallback)
    (bounds : ∀ entry ∈ located, ¬ entry.1.isText → entry.1.InBounds)
    (notBelow : ¬ progress.cursor < 0) (probes : List (Path × Option ProbeResult)) :
    ∃ next items, placeAll fallback probes progress located = .ok (next, items) := by
  induction located generalizing progress with
  | nil => exact ⟨progress, [], rfl⟩
  | cons entry located ih =>
      obtain ⟨here, rest⟩ := List.forall_mem_cons.mp bounds
      obtain ⟨middle, resolved, placed, onward⟩ :=
        exists_place positive here notBelow entry.2 (probeAt probes entry.2)
      obtain ⟨next, others, placed'⟩ := ih rest onward
      exact ⟨next, resolved :: others,
        placeAll_cons_ok_iff.mpr ⟨middle, resolved, others, placed, placed', rfl⟩⟩

theorem exists_locate (found : ∀ item ∈ listed, ∀ name, item.filename? = some name →
    ∃ path, assets name = .ok path) : ∃ located, locate assets listed = .ok located := by
  induction listed with
  | nil => exact ⟨[], rfl⟩
  | cons item listed ih =>
      obtain ⟨here, rest⟩ := List.forall_mem_cons.mp found
      obtain ⟨others, behind⟩ := ih rest
      have known : ∃ path, pathOf? assets item = some path := by
        unfold pathOf?
        cases named : item.filename? with
        | none => exact ⟨none, rfl⟩
        | some name =>
            obtain ⟨path, given⟩ := here name named
            exact ⟨some path, by simp [given]⟩
      obtain ⟨path, known⟩ := known
      exact ⟨_, locate_cons_ok_iff.mpr ⟨path, others, known, behind, rfl⟩⟩

/-- A composition with items within their bounds, all of whose files are found, is resolved where
the prober does not break off. -/
theorem exists_resolve (filled : spec.timeline ≠ [])
    (bounds : ∀ item ∈ spec.timeline, item.InBounds)
    (found : ∀ item ∈ spec.timeline, ∀ name, item.filename? = some name →
      ∃ path, assets name = .ok path)
    (probed : ∀ path fault, prober path ≠ .error (.fault fault))
    (positive : 0 < options.fallbackDuration) :
    ∃ timeline, (resolve options assets prober spec).2 = .ok timeline := by
  have own : ∀ item ∈ itemsOf spec, ¬ item.isText → item ∈ spec.timeline := fun _ =>
    mem_timeline_of_mem_itemsOf
  obtain ⟨located, locates⟩ : ∃ located, locate assets (itemsOf spec) = .ok located := by
    refine exists_locate fun item member name named => found item (own item member ?_) name named
    intro text
    cases item <;> simp_all [TimelineItem.isText, TimelineItem.filename?]
  have bounded : ∀ entry ∈ located, ¬ entry.1.isText → entry.1.InBounds := by
    intro entry member notText
    have listed : entry.1 ∈ itemsOf spec := by
      rw [← map_fst_of_locate locates]
      exact List.mem_map_of_mem member
    exact bounds _ (own _ listed notText)
  have start : ¬ (⟨.zero, .zero⟩ : Progress).cursor < 0 := by decide
  obtain ⟨progress, items, placed⟩ := exists_placeAll positive bounded start
    (ProbeCache.answers prober (ProbeCache.distinct (probedPaths located)))
  refine ⟨⟨items, progress.total⟩, resolve_ok_iff.mpr
    ⟨filled, located, progress, locates, fun path _ => ?_, placed, rfl⟩⟩
  exact ProbeCache.isSome_outcome?_iff.mpr (probed path)

end Placing

end Resolution

namespace Render

/-- A composition that was accepted is resolved where all its files are found and the prober does
not break off: none of the reasons of resolution to turn it down applies.  Aloud it is as long as
the console takes all remarks. -/
theorem resolves_of_specOf {document : Json} {spec : RenderSpec} {config : Config}
    {assets : AssetLookup} {prober : Prober} (verbosity : Console.Verbosity)
    (read : Wire.RenderRequest.specOf document = .ok spec)
    (found : ∀ item ∈ spec.timeline, ∀ name, item.filename? = some name →
      ∃ path, assets name = .ok path)
    (probed : ∀ path fault, prober path ≠ .error (.fault fault))
    (positive : 0 < config.probe.fallbackDuration) :
    (∃ timeline, (resolve config assets prober spec).2 = .ok timeline) ∧
    (∀ reason, (resolveAloud verbosity config assets prober spec).2.2 ≠
      .error (.rejected reason)) ∧
    ((∃ timeline, (resolveAloud verbosity config assets prober spec).2.2 = .ok timeline) ↔
      RemarksTaken verbosity config assets prober spec) := by
  obtain ⟨-, request, -, -, filled, same, -⟩ := Wire.RenderRequest.exists_fields_of_specOf read
  obtain ⟨timeline, resolves⟩ : ∃ timeline, (resolve config assets prober spec).2 = .ok timeline :=
    Resolution.exists_resolve (same ▸ filled) (Wire.RenderRequest.inBounds_of_specOf read) found
      probed positive
  by_cases taken : RemarksTaken verbosity config assets prober spec
  · have aloud := resolveAloud_of_remarksTaken taken
    rw [aloud, resolves]
    exact ⟨⟨timeline, rfl⟩, by simp, by simp [taken]⟩
  · obtain ⟨fault, broken⟩ := exists_fault_of_not_remarksTaken taken
    rw [broken]
    exact ⟨⟨timeline, resolves⟩, by simp, by simp [taken]⟩

def titledRequest (subtitles : String) : Json :=
  .object [
    ("timeline", .array [.object [("type", .text "image"), ("filename", .text "still.png")]]),
    ("subtitles", .text subtitles)]

def closingTagBlock : String := "1\n[/b]\nx"

theorem entries_closingTagBlock :
    Subtitles.entries closingTagBlock = [.invalidTiming "[/b]"] := by
  have lines : Subtitles.normalize closingTagBlock.toList =
      ['1', '\n', '[', '/', 'b', ']', '\n', 'x'] := by decide
  have block : Subtitles.blocks ['1', '\n', '[', '/', 'b', ']', '\n', 'x'] =
      [['1', '\n', '[', '/', 'b', ']', '\n', 'x']] := by
    simp [Subtitles.blocks, Subtitles.separator?, Subtitles.afterSeparator?,
      Subtitles.afterLastFeed?, Text.isBlank]
  rw [Subtitles.entries, lines, block]
  rfl

def closingTagWarning : String :=
  "[subtitles] Skipping block with invalid timing line: '[/b]'"

theorem isTagName_subtitles : Console.Markup.IsTagName "subtitles" := by
  refine .of_word ?_ ?_ ?_ ?_ ?_ ?_ ?_ <;> decide

theorem exists_announce_closingTag :
    ∃ fault, Console.announce .normal .warning closingTagWarning = .error fault := by
  have starts : closingTagWarning.toList = Console.Markup.bracketed "subtitles".toList ++
      (" Skipping block with invalid timing line: '".toList ++
        (Console.Markup.bracketed ['/', 'b'] ++ "'".toList)) := by decide
  exact Console.exists_announce_closingBold rfl isTagName_subtitles starts (by decide) (by decide)
    (by decide)

/-- A console that is not silent does not take it. -/
theorem not_remarksTaken_closingTag {config : Config} {assets : AssetLookup} {prober : Prober}
    {spec : RenderSpec} (filled : spec.timeline ≠ [])
    (subtitles : spec.subtitles = some closingTagBlock) :
    ¬ RemarksTaken .normal config assets prober spec := by
  intro taken
  have said : subtitleRemarks spec = [⟨.warning, closingTagWarning⟩] := by
    simp only [subtitleRemarks, Resolution.subtitleWarnings, subtitles, Option.map_some,
      Option.getD_some, entries_closingTagBlock]
    decide +kernel
  have printed := taken.subtitles filled ⟨.warning, closingTagWarning⟩ (by simp [said])
  obtain ⟨fault, refused⟩ := exists_announce_closingTag
  cases printed.symm.trans refused

theorem exists_titledSpec :
    ∃ spec, Wire.RenderRequest.specOf (titledRequest closingTagBlock) = .ok spec ∧
      spec.timeline = [.image ⟨"still.png", 5, none⟩] ∧ spec.subtitles = some closingTagBlock := by
  have fields : (Wire.RenderRequest.specOf (titledRequest closingTagBlock)).toOption.map
      (fun spec => (spec.timeline, spec.subtitles)) =
        some ([.image ⟨"still.png", 5, none⟩], some closingTagBlock) := rfl
  obtain ⟨spec, found, same⟩ := Option.map_eq_some_iff.mp fields
  obtain ⟨timeline, subtitles⟩ := Prod.mk.inj same
  exact ⟨spec, toOption_eq_some_iff.mp found, timeline, subtitles⟩

/-- Without a word on it, a block that is skipped does no harm. -/
theorem resolves_closingTag_silently :
    ∃ spec, Wire.RenderRequest.specOf (titledRequest closingTagBlock) = .ok spec ∧
      (∀ item ∈ spec.timeline, ∀ name, item.filename? = some name →
        ∃ path, Resolution.everyFile name = .ok path) ∧
      (∀ path fault, Resolution.nothingFound path ≠ .error (.fault fault)) ∧
      ∃ timeline, (resolveAloud .silent {} Resolution.everyFile Resolution.nothingFound
        spec).2.2 = .ok timeline := by
  obtain ⟨spec, read, -⟩ := exists_titledSpec
  have found : ∀ item ∈ spec.timeline, ∀ name, item.filename? = some name →
      ∃ path, Resolution.everyFile name = .ok path := fun _ _ name _ => ⟨.ofString name, rfl⟩
  have probed : ∀ path fault, Resolution.nothingFound path ≠ .error (.fault fault) := by
    simp [Resolution.nothingFound]
  have positive : 0 < ({} : Config).probe.fallbackDuration :=
    Binary64.zero_lt_ofInt_natCast (by decide) (by decide)
  obtain ⟨-, -, aloud⟩ := resolves_of_specOf .silent read found probed positive
  exact ⟨spec, read, found, probed, aloud.mpr
    ⟨fun _ => isTaken_subtitleRemarks_silent, fun _ _ => isTaken_probeRemarks_silent⟩⟩

/-- The warning about it cannot be printed, and there is no timeline. -/
theorem not_resolves_closingTag :
    ∃ spec, Wire.RenderRequest.specOf (titledRequest closingTagBlock) = .ok spec ∧
      (∀ item ∈ spec.timeline, ∀ name, item.filename? = some name →
        ∃ path, Resolution.everyFile name = .ok path) ∧
      (∀ path fault, Resolution.nothingFound path ≠ .error (.fault fault)) ∧
      0 < ({} : Config).probe.fallbackDuration ∧
      ∃ fault, (resolveAloud .normal {} Resolution.everyFile Resolution.nothingFound
        spec).2.2 = .error (.fault fault) := by
  obtain ⟨spec, read, items, subtitles⟩ := exists_titledSpec
  exact ⟨spec, read, fun _ _ name _ => ⟨.ofString name, rfl⟩, by simp [Resolution.nothingFound],
    Binary64.zero_lt_ofInt_natCast (by decide) (by decide),
    exists_fault_of_not_remarksTaken (not_remarksTaken_closingTag (by simp [items]) subtitles)⟩

end Render

end Montage
