import Montage.Proofs.Timeline.Layout

/-!
# Removing overlays

Texts and audio clips lie over the pictures and move nothing.  Without some of them the other
items keep their places, and the total duration does not grow; without texts it stays.
-/

namespace Montage

section Marks

variable {α β : Type} {marks more : List Bool} {items others : List α}

def kept (marks : List Bool) (items : List α) : List α :=
  ((marks.zip items).filter Prod.fst).map Prod.snd

def removed (marks : List Bool) (items : List α) : List α :=
  ((marks.zip items).filter (!·.1)).map Prod.snd

theorem kept_cons (mark : Bool) (item : α) :
    kept (mark :: marks) (item :: items) =
      if mark then item :: kept marks items else kept marks items := by
  cases mark <;> simp [kept]

theorem removed_cons (mark : Bool) (item : α) :
    removed (mark :: marks) (item :: items) =
      if mark then removed marks items else item :: removed marks items := by
  cases mark <;> simp [removed]

theorem mem_of_mem_kept {item : α} (member : item ∈ kept marks items) : item ∈ items := by
  obtain ⟨⟨mark, item⟩, marked, rfl⟩ := List.mem_map.mp member
  exact (List.of_mem_zip (List.mem_filter.mp marked).1).2

theorem removed_map (image : α → β) :
    removed marks (items.map image) = (removed marks items).map image := by
  simp [removed, List.zip_map_right, List.filter_map, Function.comp_def]

theorem kept_append (lengths : marks.length = items.length) :
    kept (marks ++ more) (items ++ others) = kept marks items ++ kept more others := by
  simp [kept, List.zip_append lengths]

theorem removed_append (lengths : marks.length = items.length) :
    removed (marks ++ more) (items ++ others) = removed marks items ++ removed more others := by
  simp [removed, List.zip_append lengths]

theorem kept_replicate (mark : Bool) :
    kept (List.replicate items.length mark) items = if mark then items else [] := by
  induction items with
  | nil => cases mark <;> rfl
  | cons item items ih =>
      rw [List.length_cons, List.replicate_succ, kept_cons, ih]
      cases mark <;> rfl

theorem removed_replicate (mark : Bool) :
    removed (List.replicate items.length mark) items = if mark then [] else items := by
  induction items with
  | nil => cases mark <;> rfl
  | cons item items ih =>
      rw [List.length_cons, List.replicate_succ, removed_cons, ih]
      cases mark <;> rfl

/-- Where nothing that goes is of some kind, all of that kind stay. -/
theorem filter_kept {ofKind : α → Bool} (lengths : marks.length = items.length)
    (spared : ∀ item ∈ removed marks items, ¬ ofKind item) :
    (kept marks items).filter ofKind = items.filter ofKind := by
  induction items generalizing marks with
  | nil => simp [kept]
  | cons item items ih =>
      cases marks with
      | nil => simp at lengths
      | cons mark marks =>
          have rest := ih (Nat.succ.inj lengths)
          rw [removed_cons] at spared
          rw [kept_cons]
          cases mark with
          | true => simp [List.filter_cons, rest spared]
          | false =>
              obtain ⟨other, spared⟩ := List.forall_mem_cons.mp spared
              rw [List.filter_cons_of_neg other]
              exact rest spared

end Marks

namespace ResolvedItem

def timing (resolved : ResolvedItem) : TimelineItem × Binary64 × Binary64 :=
  (resolved.item, resolved.start, resolved.duration)

end ResolvedItem

namespace Resolution

open ResolvedItem

variable {fallback : Binary64} {item : TimelineItem} {path : Option Path}
  {probe probe' : Option ProbeResult} {progress progress' next : Progress}
  {resolved : ResolvedItem} {probes probes' : List (Path × Option ProbeResult)}
  {located : List (TimelineItem × Option Path)} {items : List ResolvedItem} {marks : List Bool}

theorem lengthOf_congr (paired : item.cut? ≠ some .whole)
    (agrees : needsProbe item → probe' = probe) :
    lengthOf fallback probe' item = lengthOf fallback probe item := by
  have cutting : ∀ (filename : String) (start finish : Binary64) (length : Option Binary64),
      (cutLength filename (some (.between start finish))).map (fun cut =>
          length.getD (cut.getD (probedDuration fallback probe'))) =
        (cutLength filename (some (.between start finish))).map fun cut =>
          length.getD (cut.getD (probedDuration fallback probe)) := by
    intro filename start finish length
    unfold cutLength
    dsimp only
    split <;> rfl
  cases item with
  | text overlay => rfl
  | image clip => rfl
  | video clip =>
      cases cut : clip.cut with
      | none => rw [agrees (by simp [needsProbe, cut])]
      | some part =>
          cases part with
          | whole => exact absurd cut paired
          | between start finish =>
              simpa [lengthOf, cut] using cutting clip.filename start finish none
  | audio clip =>
      cases given : clip.duration with
      | some length => simp [lengthOf, given]
      | none =>
          cases cut : clip.cut with
          | none => rw [agrees (by simp [needsProbe, cut, given])]
          | some part =>
              cases part with
              | whole => exact absurd cut paired
              | between start finish =>
                  simpa [lengthOf, cut, given] using cutting clip.filename start finish none

theorem locate_kept {assets : AssetLookup} {listed : List TimelineItem}
    (lengths : marks.length = listed.length) (found : locate assets listed = .ok located) :
    locate assets (kept marks listed) = .ok (kept marks located) := by
  induction listed generalizing marks located with
  | nil =>
      obtain rfl := Except.ok.inj found
      simp [kept, locate]
  | cons item listed ih =>
      cases marks with
      | nil => simp at lengths
      | cons mark marks =>
          obtain ⟨path, others, here, behind, rfl⟩ := locate_cons_ok_iff.mp found
          have rest := ih (Nat.succ.inj lengths) behind
          rw [kept_cons, kept_cons]
          cases mark with
          | true => exact locate_cons_ok_iff.mpr ⟨path, _, here, rest, rfl⟩
          | false => exact rest

/-- With another probe that agrees where one is asked for, an item has the same place. -/
theorem place_congr (cursor : progress'.cursor = progress.cursor)
    (paired : item.cut? ≠ some .whole) (agrees : needsProbe item → probe' = probe)
    (placed : place fallback progress item path probe = .ok (next, resolved)) :
    ∃ next' resolved', place fallback progress' item path probe' = .ok (next', resolved') ∧
      resolved'.timing = resolved.timing ∧ next'.cursor = next.cursor := by
  obtain ⟨duration, taken, lasts, begins, rfl, rfl⟩ := place_ok_iff.mp placed
  rw [← lengthOf_congr paired agrees] at taken
  rw [← cursor] at begins
  refine ⟨_, _, place_ok_iff.mpr ⟨duration, taken, lasts, begins, rfl, rfl⟩, ?_, ?_⟩
  · rw [cursor]
    rfl
  · simp only [Progress.advance]
    rw [cursor]
    rfl

/-- Without some overlays the other items have the same places. -/
theorem placeAll_kept (lengths : marks.length = located.length)
    (cursor : progress'.cursor = progress.cursor)
    (paired : ∀ entry ∈ located, entry.1.cut? ≠ some .whole)
    (agrees : ∀ entry ∈ kept marks located, needsProbe entry.1 →
      probeAt probes' entry.2 = probeAt probes entry.2)
    (overlays : ∀ entry ∈ removed marks located, entry.1.isText ∨ entry.1.isAudio)
    (placed : placeAll fallback probes progress located = .ok (next, items)) :
    ∃ next' items', placeAll fallback probes' progress' (kept marks located) =
        .ok (next', items') ∧
      items'.map timing = kept marks (items.map timing) := by
  induction located generalizing marks progress progress' items with
  | nil =>
      obtain ⟨rfl, rfl⟩ := placeAll_nil_ok_iff.mp placed
      exact ⟨progress', [], by simp [kept, placeAll], by simp [kept]⟩
  | cons entry located ih =>
      obtain ⟨item, path⟩ := entry
      cases marks with
      | nil => simp at lengths
      | cons mark marks =>
          obtain ⟨middle, resolved, others, here, rest, rfl⟩ := placeAll_cons_ok_iff.mp placed
          have shorter : marks.length = located.length := Nat.succ.inj lengths
          obtain ⟨paired_here, paired⟩ := List.forall_mem_cons.mp paired
          rw [kept_cons] at agrees ⊢
          rw [removed_cons] at overlays
          rw [List.map_cons, kept_cons]
          cases mark with
          | true =>
              obtain ⟨agrees_here, agrees⟩ := List.forall_mem_cons.mp agrees
              obtain ⟨middle', resolved', here', same, cursor⟩ :=
                place_congr cursor paired_here agrees_here here
              obtain ⟨next', others', rest', timings⟩ :=
                ih shorter cursor paired agrees overlays rest
              refine ⟨next', resolved' :: others',
                placeAll_cons_ok_iff.mpr ⟨middle', resolved', others', here', rest', rfl⟩, ?_⟩
              simp [same, timings]
          | false =>
              -- What goes has not moved the cursor.
              obtain ⟨overlay, overlays⟩ := List.forall_mem_cons.mp overlays
              have stays : middle.cursor = progress.cursor := by
                obtain ⟨duration, -, -, -, rfl, rfl⟩ := place_ok_iff.mp here
                refine if_neg fun shown => ?_
                rcases overlay with text | audio
                · exact (isShown_iff.mp shown).2 text
                · exact (isShown_iff.mp shown).1 audio
              exact ih shorter (cursor.trans stays.symm) paired agrees overlays rest

/-- The total duration counts the ends of all items but the texts. -/
theorem total_of_placeAll
    (placed : placeAll fallback probes progress located = .ok (next, items)) :
    next.total = ((items.filter (!·.item.isText)).map finish).foldl Binary64.larger
      progress.total := by
  induction located generalizing progress items with
  | nil =>
      obtain ⟨rfl, rfl⟩ := placeAll_nil_ok_iff.mp placed
      rfl
  | cons entry located ih =>
      obtain ⟨item, path⟩ := entry
      obtain ⟨middle, resolved, others, here, rest, rfl⟩ := placeAll_cons_ok_iff.mp placed
      obtain ⟨duration, -, -, -, -, rfl⟩ := place_ok_iff.mp here
      rw [ih rest]
      by_cases text : resolved.item.isText <;> simp [Progress.advance, text]

end Resolution

namespace RenderSpec

open Resolution

variable {spec : RenderSpec} {marks : List Bool} {subtitled : Bool}

/-- A composition without some items, and perhaps without its subtitles. -/
def without (spec : RenderSpec) (marks : List Bool) (subtitled : Bool) : RenderSpec :=
  { spec with
    timeline := kept marks spec.timeline
    subtitles := if subtitled then spec.subtitles else none }

def subtitleItems (spec : RenderSpec) : List TimelineItem :=
  ((spec.subtitles.map Subtitles.parse).getD []).map .text

def marksOf (spec : RenderSpec) (marks : List Bool) (subtitled : Bool) : List Bool :=
  marks ++ List.replicate spec.subtitleItems.length subtitled

theorem length_marksOf (subtitled : Bool) (lengths : marks.length = spec.timeline.length) :
    (spec.marksOf marks subtitled).length = (itemsOf spec).length := by
  simp [marksOf, itemsOf, subtitleItems, lengths]

theorem itemsOf_without (lengths : marks.length = spec.timeline.length) :
    itemsOf (spec.without marks subtitled) =
      kept (spec.marksOf marks subtitled) (itemsOf spec) := by
  change _ = kept _ (spec.timeline ++ spec.subtitleItems)
  rw [marksOf, kept_append lengths, kept_replicate]
  cases subtitled <;> simp [itemsOf, without, subtitleItems]

theorem removed_marksOf (lengths : marks.length = spec.timeline.length) :
    removed (spec.marksOf marks subtitled) (itemsOf spec) =
      removed marks spec.timeline ++ if subtitled then [] else spec.subtitleItems := by
  change removed _ (spec.timeline ++ spec.subtitleItems) = _
  rw [marksOf, removed_append lengths, removed_replicate]

theorem isText_of_mem_subtitleItems {item : TimelineItem} (member : item ∈ spec.subtitleItems) :
    item.isText := by
  obtain ⟨overlay, -, rfl⟩ := List.mem_map.mp member
  rfl

section Entries

-- What is known of every item of a composition: its path, or its place.
variable {α : Type} {entries : List α} {entry : α} {item : α → TimelineItem}

theorem kept_marksOf (listed : entries.map item = itemsOf spec)
    (lengths : marks.length = spec.timeline.length) :
    kept (spec.marksOf marks subtitled) entries =
      kept marks (entries.take spec.timeline.length) ++
        if subtitled then entries.drop spec.timeline.length else [] := by
  have count : entries.length = spec.timeline.length + spec.subtitleItems.length := by
    have count := congrArg List.length listed
    simpa [itemsOf, subtitleItems] using count
  have front : marks.length = (entries.take spec.timeline.length).length := by simp [lengths, count]
  have back : spec.subtitleItems.length = (entries.drop spec.timeline.length).length := by
    simp [count]
  rw [← kept_replicate, ← kept_append front, ← back, List.take_append_drop, marksOf]

/-- What goes is an item that was marked, or a subtitle. -/
theorem mem_removed_marksOf (listed : entries.map item = itemsOf spec)
    (lengths : marks.length = spec.timeline.length)
    (goes : entry ∈ removed (spec.marksOf marks subtitled) entries) :
    item entry ∈ removed marks spec.timeline ∨ (item entry).isText := by
  have member : item entry ∈ removed (spec.marksOf marks subtitled) (itemsOf spec) := by
    rw [← listed, removed_map]
    exact List.mem_map_of_mem goes
  rw [removed_marksOf lengths] at member
  rcases List.mem_append.mp member with marked | text
  · exact .inl marked
  · cases subtitled with
    | true => simp at text
    | false => exact .inr (isText_of_mem_subtitleItems text)

end Entries

end RenderSpec

namespace Resolution

open ResolvedItem RenderSpec

variable {options : Options} {assets : AssetLookup} {prober : Prober} {spec : RenderSpec}
  {timeline : ResolvedTimeline} {marks : List Bool} {subtitled : Bool}

/-- A composition that is resolved is resolved without overlays, too, and what stays keeps its
place. -/
theorem exists_resolve_without (subtitled : Bool)
    (resolves : (resolve options assets prober spec).2 = .ok timeline)
    (paired : ∀ item ∈ spec.timeline, item.cut? ≠ some .whole)
    (lengths : marks.length = spec.timeline.length)
    (overlays : ∀ item ∈ removed marks spec.timeline, item.isText ∨ item.isAudio)
    (some : kept marks spec.timeline ≠ []) :
    ∃ shorter, (resolve options assets prober (spec.without marks subtitled)).2 = .ok shorter ∧
      shorter.items.map timing =
        kept (spec.marksOf marks subtitled) (timeline.items.map timing) := by
  obtain ⟨-, located, progress, found, known, placed, -⟩ := resolve_ok_iff.mp resolves
  have listed := map_fst_of_locate found
  have whole := length_marksOf subtitled lengths
  have whole' : (spec.marksOf marks subtitled).length = located.length := by
    rw [whole, ← listed, List.length_map]
  have fewer : ∀ path ∈ probedPaths (kept (spec.marksOf marks subtitled) located),
      path ∈ probedPaths located := by
    intro path member
    obtain ⟨entry, stays, asks, place⟩ := mem_probedPaths.mp member
    exact mem_probedPaths.mpr ⟨entry, mem_of_mem_kept stays, asks, place⟩
  have paired : ∀ entry ∈ located, entry.1.cut? ≠ Option.some .whole := by
    intro entry member
    have item : entry.1 ∈ itemsOf spec := listed ▸ List.mem_map_of_mem member
    rcases List.mem_append.mp item with given | text
    · exact paired _ given
    · obtain ⟨overlay, -, same⟩ := List.mem_map.mp text
      simp [← same, TimelineItem.cut?]
  have overlays : ∀ entry ∈ removed (spec.marksOf marks subtitled) located,
      entry.1.isText ∨ entry.1.isAudio := by
    intro entry goes
    rcases mem_removed_marksOf listed lengths goes with marked | text
    · exact overlays _ marked
    · exact .inl text
  obtain ⟨next, items, placed', timings⟩ := placeAll_kept whole' rfl
    paired (fun entry stays asks => by
      rw [probeAt_answers stays asks, probeAt_answers (mem_of_mem_kept stays) asks]) overlays placed
  refine ⟨⟨items, next.total⟩, resolve_ok_iff.mpr ⟨some, _, next, ?_, ?_, placed', rfl⟩, timings⟩
  · rw [itemsOf_without lengths]
    exact locate_kept whole found
  · exact fun path member => known path (fewer path member)

/-- The latest end among items with their places, where texts do not count. -/
def latestEnd (timings : List (TimelineItem × Binary64 × Binary64)) : Binary64 :=
  ((timings.filter (!·.1.isText)).map fun timing => timing.2.1 + timing.2.2).foldl
    Binary64.larger .zero

theorem total_of_resolve (resolves : (resolve options assets prober spec).2 = .ok timeline) :
    timeline.totalDuration = latestEnd (timeline.items.map timing) := by
  obtain ⟨-, located, progress, -, -, placed, total⟩ := resolve_ok_iff.mp resolves
  rw [total, total_of_placeAll placed, latestEnd, List.filter_map, List.map_map]
  rfl

theorem latestEnd_kept {timings : List (TimelineItem × Binary64 × Binary64)}
    (lengths : marks.length = timings.length)
    (texts : ∀ timing ∈ removed marks timings, timing.1.isText) :
    latestEnd (kept marks timings) = latestEnd timings := by
  rw [latestEnd, filter_kept lengths fun timing goes => by simpa using texts timing goes, latestEnd]

/-- With fewer items, each in its place, the total duration is not greater. -/
theorem total_le_of_timings {shorter : ResolvedTimeline} {spec' : RenderSpec}
    (resolves : (resolve options assets prober spec).2 = .ok timeline)
    (resolves' : (resolve options assets prober spec').2 = .ok shorter)
    (timed : ∀ resolved ∈ timeline.items, IsTimed resolved)
    (fewer : ∀ resolved ∈ shorter.items, resolved.timing ∈ timeline.items.map timing) :
    shorter.totalDuration ≤ timeline.totalDuration := by
  obtain ⟨_, bounded, total⟩ := bounded_of_resolve resolves timed
  have timed' : ∀ resolved ∈ shorter.items, IsTimed resolved := by
    intro resolved member
    obtain ⟨other, listed, same⟩ := List.mem_map.mp (fewer resolved member)
    simp only [timing, Prod.mk.injEq] at same
    have timed := timed other listed
    unfold IsTimed at timed ⊢
    rwa [same.1, same.2.2] at timed
  obtain ⟨_, bounded', total'⟩ := bounded_of_resolve resolves' timed'
  rw [← total, ← total']
  rcases mem_ends bounded'.attained with zero | ⟨resolved, member, notText, ends⟩
  · rw [zero, ← Binary64.ofNat_zero]
    exact bounded.total
  · obtain ⟨other, listed, same⟩ := List.mem_map.mp (fewer resolved member)
    simp only [timing, Prod.mk.injEq] at same
    have within := (bounded.within other listed (same.1 ▸ notText)).2.2
    rwa [ends, finish, ← same.2.1, ← same.2.2]

end Resolution

namespace ResolvedTimeline

open ResolvedItem Resolution

/-- A timeline has the items of a composition, its pictures lie end to end, its audio clips lie
where they are put or where the pictures before them end, and it is as long as the latest of its
ends. -/
structure LaysOut (timeline : ResolvedTimeline) (spec : RenderSpec) : Prop where
  listed : timeline.items.map (·.item) = itemsOf spec
  shown : ∀ before resolved after, timeline.items = before ++ resolved :: after →
    resolved.isShown → resolved.start = backboneEnd before
  heard : ∀ before resolved after, timeline.items = before ++ resolved :: after →
    ∀ clip, resolved.item = .audio clip →
      resolved.start = clip.startTime.getD (backboneEnd before)
  attained : timeline.totalDuration ∈ ends timeline.items
  latest : ∀ time ∈ ends timeline.items, time ≤ timeline.totalDuration

end ResolvedTimeline

namespace Resolution

open ResolvedItem RenderSpec

variable {options : Options} {assets : AssetLookup} {prober : Prober} {spec : RenderSpec}
  {timeline : ResolvedTimeline}

theorem laysOut_of_resolve (resolves : (resolve options assets prober spec).2 = .ok timeline)
    (timed : ∀ resolved ∈ timeline.items, IsTimed resolved) : timeline.LaysOut spec := by
  obtain ⟨⟨_, laid⟩, listed⟩ := laid_of_resolve resolves
  obtain ⟨_, bounded, total⟩ := bounded_of_resolve resolves timed
  refine ⟨listed, ?_, ?_, total ▸ bounded.attained, ?_⟩
  · intro before resolved after split shown
    rw [laid.starts before resolved after split]
    cases kind : resolved.item with
    | video clip | image clip => rfl
    | audio clip | text overlay => simp [isShown, kind] at shown
  · intro before resolved after split clip kind
    rw [laid.starts before resolved after split, kind]
    rfl
  · intro time member
    rw [← total]
    rcases mem_ends member with rfl | ⟨resolved, listed, notText, rfl⟩
    · exact Binary64.ofNat_zero ▸ bounded.total
    · exact (bounded.within resolved listed notText).2.2

/-- A composition of finite times is laid out when it is resolved.  Without some of its texts and
audio clips, and with or without its subtitles, it is resolved, too: what stays keeps its place,
the total duration is not greater, and it is the same unless audio clips go. -/
theorem laysOut_and_removal_of_resolve
    (resolves : (resolve options assets prober spec).2 = .ok timeline)
    (finite : ∀ item ∈ spec.timeline, ∀ time ∈ item.clipTimes, time.toRat?.isSome)
    (paired : ∀ item ∈ spec.timeline, item.cut? ≠ some .whole)
    (known : options.fallbackDuration ≠ .nan)
    (probed : ∀ path result, prober path = .ok result → result.duration.toRat?.isSome) :
    timeline.LaysOut spec ∧
      ∀ marks subtitled, marks.length = spec.timeline.length →
        (∀ item ∈ removed marks spec.timeline, item.isText ∨ item.isAudio) →
        kept marks spec.timeline ≠ [] →
        ∃ shorter, (resolve options assets prober (spec.without marks subtitled)).2 =
            .ok shorter ∧
          shorter.items.map timing =
            kept marks ((timeline.items.take spec.timeline.length).map timing) ++
              (if subtitled then (timeline.items.drop spec.timeline.length).map timing else []) ∧
          shorter.totalDuration ≤ timeline.totalDuration ∧
          ((∀ item ∈ removed marks spec.timeline, item.isText) →
            shorter.totalDuration = timeline.totalDuration) := by
  have timed := isTimed_of_resolve resolves finite known probed
  have laysOut := laysOut_of_resolve resolves timed
  refine ⟨laysOut, fun marks subtitled lengths overlays some => ?_⟩
  obtain ⟨shorter, resolves', timings⟩ :=
    exists_resolve_without subtitled resolves paired lengths overlays some
  have listed : (timeline.items.map timing).map Prod.fst = itemsOf spec := by
    rw [← laysOut.listed, List.map_map]
    rfl
  refine ⟨shorter, resolves', ?_, ?_, fun texts => ?_⟩
  · rw [timings, kept_marksOf listed lengths, List.map_take, List.map_drop]
  · refine total_le_of_timings resolves resolves' timed fun resolved member => ?_
    exact mem_of_mem_kept (timings ▸ List.mem_map_of_mem member)
  · have whole : (spec.marksOf marks subtitled).length = (timeline.items.map timing).length := by
      rw [length_marksOf subtitled lengths, ← listed, List.length_map]
    rw [total_of_resolve resolves, total_of_resolve resolves', timings]
    refine latestEnd_kept whole fun place goes => ?_
    exact (mem_removed_marksOf listed lengths goes).elim (texts place.1) id

/-- A recording of four seconds with a title, music of ten seconds behind it, and a still image. -/
def recordingThenStill : RenderSpec where
  width := 640
  height := 360
  timeline := [
    .video ⟨"a.mp4", none, 100, none⟩,
    .text ⟨"Title", "basic", none, .named "center", 0, 3⟩,
    .audio ⟨"m.mp3", none, none, some 10, 50⟩,
    .image ⟨"b.png", 5, none⟩]
  quality := "high"
  extension := "mp4"
  scaling := .cover
  subtitles := none

def fourSeconds : Prober := fun _ => .ok ⟨4, true, true, 640, 360⟩

/-- The recording and the still image take nine seconds, and with the music it is fourteen. -/
theorem laysOut_and_removal_recordingThenStill :
    ∃ timeline shorter,
      (resolve ⟨5, 1⟩ (fun name => .ok (.ofString name)) fourSeconds recordingThenStill).2 =
        .ok timeline ∧
      timeline.LaysOut recordingThenStill ∧ timeline.totalDuration = 14 ∧
      (resolve ⟨5, 1⟩ (fun name => .ok (.ofString name)) fourSeconds
        (recordingThenStill.without [true, true, false, true] true)).2 = .ok shorter ∧
      shorter.totalDuration ≤ timeline.totalDuration ∧ shorter.totalDuration = 9 := by
  have total : (resolve ⟨5, 1⟩ (fun name => .ok (.ofString name)) fourSeconds
      recordingThenStill).2.toOption.map (·.totalDuration) = some 14 := by decide +kernel
  have total' : (resolve ⟨5, 1⟩ (fun name => .ok (.ofString name)) fourSeconds
      (recordingThenStill.without [true, true, false, true] true)).2.toOption.map
        (·.totalDuration) = some 9 := by decide +kernel
  cases resolves : (resolve ⟨5, 1⟩ (fun name => .ok (.ofString name)) fourSeconds
      recordingThenStill).2 with
  | error reason => simp [resolves, Except.toOption] at total
  | ok timeline =>
      have total : timeline.totalDuration = 14 := by
        simpa [resolves, Except.toOption] using total
      obtain ⟨laysOut, removal⟩ := laysOut_and_removal_of_resolve resolves (by decide +kernel)
        (by decide) (by decide +kernel) (by rintro path result ⟨⟩; decide +kernel)
      obtain ⟨shorter, resolves', -, atMost, -⟩ := removal [true, true, false, true] true rfl
        (by decide) (by decide)
      refine ⟨timeline, shorter, rfl, laysOut, total, resolves', atMost, ?_⟩
      simpa [resolves', Except.toOption] using total'

end Resolution

end Montage
