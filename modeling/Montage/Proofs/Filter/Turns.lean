import Montage.Proofs.Filter.Timing
import Montage.Proofs.Timeline.Resolution

/-!
# Turns

When the parts of a timeline begin in its graph.  Pictures take turns with each other, and
so do the sounds of the clips that are heard; an audio clip begins after its own delay.
-/

namespace Montage.Filter

open ResolvedItem

variable {Time : Type} {clock : Clock Time} {frame : Frame}

def BeginsAt (onsets : List (StreamRef × Moment Time)) (reference : StreamRef)
    (moment : Moment Time) : Prop :=
  ∀ other, (reference, other) ∈ onsets ↔ other = moment

theorem BeginsAt.eq_iff {onsets : List (StreamRef × Moment Time)} {reference : StreamRef}
    {moment other : Moment Time} (begins : BeginsAt onsets reference moment) :
    BeginsAt onsets reference other ↔ moment = other := by
  constructor
  · intro begins'
    exact (begins' moment).mp ((begins moment).mpr rfl)
  · rintro rfl
    exact begins

section Entries

theorem playedItems_split (before after : List ResolvedItem) {resolved : ResolvedItem}
    (plays : resolved.item.filename?.isSome) :
    ∃ later, playedItems (before ++ resolved :: after) =
        playedItems before ++ (resolved, (playedItems before).length) :: later ∧
      ∀ entry ∈ playedItems before ++ later, entry.2 ≠ (playedItems before).length := by
  refine ⟨((after.filter fun other => other.item.filename?.isSome).zipIdx
    ((playedItems before).length + 1)), ?_, ?_⟩
  · simp [playedItems, plays, List.zipIdx_append]
  · intro entry member
    rcases List.mem_append.mp member with earlier | later
    · have bound := List.snd_lt_of_mem_zipIdx earlier
      simp only [playedItems, List.length_zipIdx]
      omega
    · have bound := List.le_snd_of_mem_zipIdx later
      omega

theorem eq_of_mem_playedItems {before after : List ResolvedItem} {resolved : ResolvedItem}
    (plays : resolved.item.filename?.isSome) {entry : ResolvedItem × Nat}
    (member : entry ∈ playedItems (before ++ resolved :: after))
    (here : entry.2 = (playedItems before).length) : entry.1 = resolved := by
  obtain ⟨later, split, alone⟩ := playedItems_split before after plays
  rw [split, List.mem_append, List.mem_cons] at member
  rcases member with earlier | rfl | late
  · exact absurd here (alone entry (by simp [earlier]))
  · rfl
  · exact absurd here (alone entry (by simp [late]))

/-- The durations of parts that only some items have are those of these items. -/
theorem durations_filterMap_playedItems
    {part? : ResolvedItem × Nat → Option (Signal × Binary64)} {takes : ResolvedItem → Bool}
    (plays : ∀ resolved, takes resolved → resolved.item.filename?.isSome)
    (lasts : ∀ resolved index, (part? (resolved, index)).map (·.2) =
      if takes resolved then some resolved.duration else none)
    (items : List ResolvedItem) :
    ((playedItems items).filterMap part?).map (·.2) = (items.filter takes).map duration := by
  unfold playedItems
  generalize 0 = first
  induction items generalizing first with
  | nil => rfl
  | cons resolved items ih =>
      have here := lasts resolved first
      by_cases kept : takes resolved
      · rw [if_pos kept, Option.map_eq_some_iff] at here
        obtain ⟨segment, found, length⟩ := here
        simp [plays resolved kept, kept, found, length, ih]
      · rw [if_neg kept, Option.map_eq_none_iff] at here
        by_cases file : resolved.item.filename?.isSome
        · simp [file, kept, here, ih]
        · simp [file, kept, ih]

end Entries

section Parts

variable {entry : ResolvedItem × Nat} {segment : Signal × Binary64} {placement : Signal}
  {moment : Moment Time}

theorem onsets_pictureOf? (part : pictureOf? frame entry = some segment) :
    segment.1.onsets clock moment = [(⟨entry.2, "v"⟩, moment)] := by
  obtain ⟨resolved, index⟩ := entry
  simp only [pictureOf?] at part
  split at part <;> simp at part
  all_goals
    rw [← part]
    simp [fittedPicture, Signal.onsets, onsetsTogether]

theorem onsets_soundOf? (part : soundOf? entry = some segment) :
    segment.1.onsets clock moment = [(⟨entry.2, "a"⟩, moment)] := by
  obtain ⟨resolved, index⟩ := entry
  simp only [soundOf?] at part
  split at part
  · split at part
    · simp only [Option.some.injEq] at part
      rw [← part]
      simp [Signal.onsets, onsetsTogether]
    · simp at part
  · simp at part

/-- The sound of an audio clip is the one in its own input, after its delay. -/
theorem onsets_placementOf? (part : placementOf? entry = some placement) :
    placement.onsets clock moment =
      [(⟨entry.2, "a"⟩, moment.delayed (startDelay entry.1))] := by
  obtain ⟨resolved, index⟩ := entry
  simp only [placementOf?] at part
  split at part
  · simp only [Option.some.injEq] at part
    rw [← part]
    simp [Signal.onsets, onsetsTogether]
  · simp at part

theorem durations_picturesOf (frame : Frame) (items : List ResolvedItem) :
    (picturesOf frame items).map (·.2) = shownDurations items := by
  apply durations_filterMap_playedItems
  · intro resolved shown
    cases kind : resolved.item <;> simp_all [isShown, TimelineItem.filename?]
  · intro resolved index
    cases kind : resolved.item <;> simp [pictureOf?, isShown, kind]

theorem durations_soundsOf (items : List ResolvedItem) :
    (soundsOf items).map (·.2) = heardDurations items := by
  apply durations_filterMap_playedItems
  · intro resolved heard
    cases kind : resolved.item <;> simp_all [isHeard, TimelineItem.filename?]
  · intro resolved index
    cases kind : resolved.item with
    | video clip =>
        by_cases loud : 0 < clip.volume ∧ resolved.hasAudio
        · simp [soundOf?, isHeard, kind, loud]
        · have muted : (decide (0 < clip.volume) && resolved.hasAudio) = false := by
            simpa using loud
          simp [soundOf?, isHeard, kind, loud, muted]
    | image clip | audio clip | text overlay => simp [soundOf?, isHeard, kind]

end Parts

/-- The stream of an item is behind no part that the item does not have. -/
theorem not_mem_onsets_of_none {Part : Type} {part? : ResolvedItem × Nat → Option Part}
    {signal : Part → Signal} {kind : String} {before after : List ResolvedItem}
    {resolved : ResolvedItem}
    (reads : ∀ entry part, part? entry = some part → ∀ begin onset,
      onset ∈ (signal part).onsets clock begin → onset.1 = ⟨entry.2, kind⟩)
    (file : resolved.item.filename?.isSome)
    (none : part? (resolved, (playedItems before).length) = none) :
    ∀ part ∈ (playedItems (before ++ resolved :: after)).filterMap part?, ∀ begin finish,
      ((⟨(playedItems before).length, kind⟩ : StreamRef), finish) ∉
        (signal part).onsets clock begin := by
  intro part member begin finish behind
  obtain ⟨entry, present, found⟩ := List.mem_filterMap.mp member
  have stream := reads entry part found begin _ behind
  simp only [StreamRef.mk.injEq, and_true] at stream
  have index : entry.2 = (playedItems before).length := by omega
  have here := eq_of_mem_playedItems file present index
  have own : entry = (resolved, (playedItems before).length) := Prod.ext here index
  rw [own, none] at found
  exact absurd found (by simp)

/-- Among parts that take turns, each from its own input, a part begins when those of the
items before it have played. -/
theorem beginsAt_turn (clock : Clock Time) (moment : Moment Time)
    {part? : ResolvedItem × Nat → Option (Signal × Binary64)}
    {kind : String} {earlier later : List (ResolvedItem × Nat)} {resolved : ResolvedItem}
    {index : Nat} {segment : Signal × Binary64}
    (reads : ∀ entry segment, part? entry = some segment → ∀ begin,
      segment.1.onsets clock begin = [(⟨entry.2, kind⟩, begin)])
    (part : part? (resolved, index) = some segment)
    (alone : ∀ entry ∈ earlier ++ later, entry.2 ≠ index) :
    let segments := (earlier ++ (resolved, index) :: later).filterMap part?
    BeginsAt (onsetsInTurn clock (segments.map (·.2)) (segments.map (·.1)) moment)
      ⟨index, kind⟩
      { moment with
        time := clock.after ((earlier.filterMap part?).map (·.2)) moment.time } := by
  have silent : ∀ entries : List (ResolvedItem × Nat),
      (∀ entry ∈ entries, entry.2 ≠ index) → ∀ other ∈ entries.filterMap part?,
      ∀ begin finish, ((⟨index, kind⟩ : StreamRef), finish) ∉ other.1.onsets clock begin := by
    intro entries apart other member begin finish
    obtain ⟨entry, present, found⟩ := List.mem_filterMap.mp member
    rw [reads entry other found]
    have differs := apart entry present
    simp only [List.mem_singleton, Prod.mk.injEq, StreamRef.mk.injEq, and_true, not_and]
    omega
  have silentBefore := silent earlier fun entry member => alone entry (by simp [member])
  have silentAfter := silent later fun entry member => alone entry (by simp [member])
  intro segments other
  have shape : segments = earlier.filterMap part? ++ segment :: later.filterMap part? := by
    simp [segments, part]
  rw [shape, onsetsInTurn_append, List.mem_append, List.map_cons, List.map_cons,
    onsetsInTurn, List.mem_append, reads (resolved, index) segment part]
  have quietBefore := not_mem_onsetsInTurn moment silentBefore other
  have quietAfter := not_mem_onsetsInTurn (Moment.advanced clock
    { moment with time := clock.after ((earlier.filterMap part?).map (·.2)) moment.time }
    segment.2) silentAfter other
  simp [quietBefore, quietAfter]

namespace Graph

variable {graph : Graph} {items before after : List ResolvedItem} {resolved : ResolvedItem}

/-- When the streams behind the picture of a graph begin. -/
def pictureOnsets (clock : Clock Time) (graph : Graph) : List (StreamRef × Moment Time) :=
  match graph.program.signal? (.label graph.videoLabel) with
  | some signal => signal.onsets clock ⟨clock.zero, 0⟩
  | none => []

/-- When the streams behind the sound of a graph begin. -/
def soundOnsets (clock : Clock Time) (graph : Graph) : List (StreamRef × Moment Time) :=
  match graph.audioLabel.bind fun label => graph.program.signal? (.label label) with
  | some signal => signal.onsets clock ⟨clock.zero, 0⟩
  | none => []

theorem pictureOnsets_of_plays (plays : graph.Plays frame items) :
    graph.pictureOnsets clock =
      onsetsInTurn clock ((picturesOf frame items).map (·.2))
        ((picturesOf frame items).map (·.1)) ⟨clock.zero, 0⟩ := by
  obtain ⟨picture, whole, stands⟩ := plays.picture
  have shown : graph.program.signal? (.label graph.videoLabel) = some _ := stands
  rw [pictureOnsets, shown]
  exact (Signal.onsets_draw _ _).trans (Signal.onsets_join whole)

theorem soundOnsets_of_plays (plays : graph.Plays frame items) :
    graph.soundOnsets clock = onsetsTogether clock (sourcesOf items) ⟨clock.zero, 0⟩ := by
  have sound := plays.sound
  cases mixed : Signal.mix? (sourcesOf items) with
  | none =>
      have silent : sourcesOf items = [] := Signal.mix?_eq_none_iff.mp mixed
      rw [mixed, Option.map_none, Option.map_eq_none_iff] at sound
      rw [soundOnsets, sound, silent, Option.bind_none, onsetsTogether]
  | some signal =>
      rw [mixed, Option.map_some, Option.map_eq_some_iff] at sound
      obtain ⟨label, named, stands⟩ := sound
      rw [soundOnsets, named, Option.bind_some, stands]
      exact Signal.onsets_mix mixed

/-- A stream is heard in the turn of a clip or from an audio clip. -/
theorem mem_soundOnsets_iff (plays : graph.Plays frame items)
    {onset : StreamRef × Moment Time} :
    onset ∈ graph.soundOnsets clock ↔
      onset ∈ onsetsInTurn clock ((soundsOf items).map (·.2)) ((soundsOf items).map (·.1))
          ⟨clock.zero, 0⟩ ∨
        ∃ placement ∈ placementsOf items,
          onset ∈ placement.onsets clock ⟨clock.zero, 0⟩ := by
  rw [soundOnsets_of_plays plays, mem_onsetsTogether, sourcesOf]
  simp only [List.mem_append, or_and_right, exists_or]
  apply or_congr_left
  cases joined : Signal.join? true (soundsOf items) with
  | none =>
      have silent : soundsOf items = [] := Signal.join?_eq_none_iff.mp joined
      simp [silent, onsetsInTurn]
  | some signal => simp [Signal.onsets_join joined]

/-- A picture begins when the pictures before it have played. -/
theorem beginsAt_picture (clock : Clock Time)
    (plays : graph.Plays frame (before ++ resolved :: after))
    (shown : resolved.isShown) :
    BeginsAt (graph.pictureOnsets clock) ⟨(playedItems before).length, "v"⟩
      ⟨clock.after (shownDurations before) clock.zero, 0⟩ := by
  have file : resolved.item.filename?.isSome := by
    cases kind : resolved.item <;> simp_all [isShown, TimelineItem.filename?]
  have part : ∃ segment,
      pictureOf? frame (resolved, (playedItems before).length) = some segment := by
    cases kind : resolved.item <;> simp_all [isShown, pictureOf?]
  obtain ⟨segment, part⟩ := part
  obtain ⟨later, split, alone⟩ := playedItems_split before after file
  rw [pictureOnsets_of_plays plays, ← durations_picturesOf frame, picturesOf,
    picturesOf, split]
  exact beginsAt_turn clock _ (fun _ _ found _ => onsets_pictureOf? found) part alone

/-- The sound of a clip that is heard begins when the sounds heard before it have
played. -/
theorem beginsAt_heard (clock : Clock Time)
    (plays : graph.Plays frame (before ++ resolved :: after))
    (heard : resolved.isHeard) :
    BeginsAt (graph.soundOnsets clock) ⟨(playedItems before).length, "a"⟩
      ⟨clock.after (heardDurations before) clock.zero, 0⟩ := by
  obtain ⟨clip, kind, loud⟩ : ∃ clip, resolved.item = .video clip ∧
      (0 < clip.volume ∧ resolved.hasAudio) := by
    cases kind : resolved.item <;> simp_all [isHeard]
  have file : resolved.item.filename?.isSome := by simp [kind, TimelineItem.filename?]
  obtain ⟨segment, part⟩ : ∃ segment,
      soundOf? (resolved, (playedItems before).length) = some segment := by
    simp [soundOf?, kind, loud]
  obtain ⟨later, split, alone⟩ := playedItems_split before after file
  have turn := beginsAt_turn clock ⟨clock.zero, 0⟩
    (fun _ _ found _ => onsets_soundOf? found) part alone
  rw [← split] at turn
  intro other
  rw [mem_soundOnsets_iff plays, ← durations_soundsOf]
  have unplaced : ∀ placement ∈ placementsOf (before ++ resolved :: after), ∀ begin finish,
      ((⟨(playedItems before).length, "a"⟩ : StreamRef), finish) ∉
        (id placement).onsets clock begin := by
    refine not_mem_onsets_of_none ?_ file (by simp [placementOf?, kind])
    intro entry placement found begin onset behind
    rw [id, onsets_placementOf? found, List.mem_singleton] at behind
    rw [behind]
  constructor
  · rintro (turned | ⟨placement, member, begins⟩)
    · exact (turn other).mp turned
    · exact absurd begins (unplaced placement member ⟨clock.zero, 0⟩ other)
  · exact fun same => .inl ((turn other).mpr same)

theorem beginsAt_placed (clock : Clock Time)
    (plays : graph.Plays frame (before ++ resolved :: after))
    {clip : AudioClip} (kind : resolved.item = .audio clip) :
    BeginsAt (graph.soundOnsets clock) ⟨(playedItems before).length, "a"⟩
      (Moment.delayed ⟨clock.zero, 0⟩ (startDelay resolved)) := by
  have file : resolved.item.filename?.isSome := by simp [kind, TimelineItem.filename?]
  intro other
  rw [mem_soundOnsets_iff plays]
  have silent : ∀ segment ∈ soundsOf (before ++ resolved :: after), ∀ begin finish,
      ((⟨(playedItems before).length, "a"⟩ : StreamRef), finish) ∉
        segment.1.onsets clock begin := by
    refine not_mem_onsets_of_none ?_ file (by simp [soundOf?, kind])
    intro entry segment found begin onset behind
    rw [onsets_soundOf? found, List.mem_singleton] at behind
    rw [behind]
  constructor
  · rintro (turned | ⟨placement, member, begins⟩)
    · exact absurd turned (not_mem_onsetsInTurn _ silent other)
    · obtain ⟨entry, present, found⟩ := List.mem_filterMap.mp member
      rw [onsets_placementOf? found] at begins
      simp only [List.mem_singleton, Prod.mk.injEq, StreamRef.mk.injEq, and_true] at begins
      rw [begins.2, eq_of_mem_playedItems file present (by omega)]
  · rintro rfl
    refine .inr ⟨.result (.place (startDelay resolved) (placementFactor clip))
      [.stream ⟨(playedItems before).length, "a"⟩], ?_, ?_⟩
    · refine List.mem_filterMap.mpr ⟨(resolved, (playedItems before).length), ?_, ?_⟩
      · obtain ⟨later, split, -⟩ := playedItems_split before after file
        simp [split]
      · simp [placementOf?, kind]
    · simp [Signal.onsets, onsetsTogether]

end Graph

end Montage.Filter
