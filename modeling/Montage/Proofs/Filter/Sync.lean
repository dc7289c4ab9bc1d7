import Montage.Proofs.Filter.Turns
import Montage.Proofs.Numeric.Order
import Mathlib.Algebra.Order.BigOperators.Group.List

/-!
# Sound and picture in sync

The picture of a clip begins at the start that resolution gives it, and so does an audio
clip.  The sound of a clip follows only the sounds that are heard before it: it comes too
early by the pictures before it that are not heard.
-/

namespace Montage.Filter

open ResolvedItem

def exactLength (durations : List Binary64) : Rat :=
  (durations.map fun duration => duration.toRat?.getD 0).sum

/-- The lengths of pictures that are not heard, in order. -/
def unheardDurations (items : List ResolvedItem) : List Binary64 :=
  (items.filter fun resolved => resolved.isShown && !resolved.isHeard).map duration

section Length

@[simp]
theorem exactLength_nil : exactLength [] = 0 := rfl

@[simp]
theorem exactLength_cons (duration : Binary64) (durations : List Binary64) :
    exactLength (duration :: durations) =
      duration.toRat?.getD 0 + exactLength durations := by
  simp [exactLength]

theorem exact_after (durations : List Binary64) (time : Rat) :
    Clock.exact.after durations time = time + exactLength durations := by
  induction durations generalizing time with
  | nil => simp [Clock.after]
  | cons duration durations ih =>
      have step : Clock.exact.after (duration :: durations) time =
          Clock.exact.after durations (time + duration.toRat?.getD 0) := rfl
      rw [step, ih, exactLength_cons, add_assoc]

/-- Pictures that are all heard last as long as their sounds. -/
theorem shownDurations_eq_heardDurations {items : List ResolvedItem}
    (heard : ∀ resolved ∈ items, resolved.isShown → resolved.isHeard) :
    shownDurations items = heardDurations items := by
  rw [shownDurations, heardDurations, List.filter_congr]
  intro resolved member
  rw [Bool.eq_iff_iff]
  exact ⟨heard resolved member, isShown_of_isHeard⟩

/-- Pictures are either heard or not. -/
theorem exactLength_shownDurations (items : List ResolvedItem) :
    exactLength (shownDurations items) =
      exactLength (heardDurations items) + exactLength (unheardDurations items) := by
  simp only [shownDurations, heardDurations, unheardDurations]
  induction items with
  | nil => simp
  | cons resolved items ih =>
      by_cases heard : resolved.isHeard
      · simp [isShown_of_isHeard heard, heard, ih, add_assoc]
      · by_cases shown : resolved.isShown
        · simp [shown, heard, ih, add_left_comm]
        · simp [shown, heard, ih]

/-- Pictures that are not heard take no time only if there are none, since each lasts for
some time. -/
theorem exactLength_unheardDurations_eq_zero {items : List ResolvedItem}
    (last : ∀ resolved ∈ items, resolved.isShown → 0 < resolved.duration.toRat?.getD 0) :
    exactLength (unheardDurations items) = 0 ↔
      ∀ resolved ∈ items, resolved.isShown → resolved.isHeard := by
  have positive : ∀ length ∈ (unheardDurations items).map fun duration =>
      duration.toRat?.getD 0, 0 < length := by
    intro length member
    simp only [unheardDurations, List.map_map, List.mem_map, List.mem_filter,
      Bool.and_eq_true, Function.comp_apply] at member
    obtain ⟨resolved, ⟨present, shown, -⟩, rfl⟩ := member
    exact last resolved present shown
  constructor
  · intro zero resolved present shown
    by_contra unheard
    have member : resolved.duration ∈ unheardDurations items :=
      List.mem_map.mpr ⟨resolved, List.mem_filter.mpr ⟨present, by simp [shown, unheard]⟩, rfl⟩
    have longer := List.sum_pos _ positive (List.ne_nil_of_mem (List.mem_map_of_mem member))
    exact longer.ne' zero
  · intro heard
    have none : unheardDurations items = [] := by
      simpa [unheardDurations] using heard
    rw [none, exactLength_nil]

end Length

namespace Graph

variable {Time : Type} {options : Resolution.Options} {assets : AssetLookup}
  {prober : Prober} {spec : RenderSpec} {cache : ProbeCache} {timeline : ResolvedTimeline}
  {frame : Frame} {graph : Graph} {before after : List ResolvedItem}
  {resolved : ResolvedItem}

/-- Every picture of a resolved timeline that is finite lasts for some time. -/
theorem lasts_of_resolve
    (resolves : Resolution.resolve options assets prober spec = (cache, .ok timeline))
    (split : timeline.items = before ++ resolved :: after)
    (finite : ∀ earlier ∈ before, earlier.isShown → earlier.duration.toRat?.isSome) :
    ∀ earlier ∈ before, earlier.isShown → 0 < earlier.duration.toRat?.getD 0 := by
  intro earlier member shown
  obtain ⟨value, denotes⟩ := Option.isSome_iff_exists.mp (finite earlier member shown)
  obtain ⟨first, last, rfl⟩ := List.append_of_mem member
  rw [List.append_assoc, List.cons_append] at split
  obtain ⟨current, following, placed, -⟩ := Resolution.placed_of_resolve resolves split
  rw [denotes, Option.getD_some]
  exact Binary64.toRat?_pos denotes (placed.lasts shown)

/-- In a timeline that is resolved a picture starts when those before it have played. -/
theorem start_of_resolve
    (resolves : Resolution.resolve options assets prober spec = (cache, .ok timeline))
    (split : timeline.items = before ++ resolved :: after) (shown : resolved.isShown) :
    resolved.start = Clock.rounded.after (shownDurations before) .zero := by
  obtain ⟨current, following, placed, cursor⟩ := Resolution.placed_of_resolve resolves split
  exact (placed.start shown).trans cursor

theorem startDelay_nonneg_of_build
    (resolves : Resolution.resolve options assets prober spec = (cache, .ok timeline))
    (built : build frame timeline = .ok graph)
    (split : timeline.items = before ++ resolved :: after) {clip : AudioClip}
    (kind : resolved.item = .audio clip) : 0 ≤ startDelay resolved := by
  obtain ⟨current, following, placed, -⟩ := Resolution.placed_of_resolve resolves split
  have rounded := (plays_of_build built).delays resolved (by simp [split]) clip kind
  have factor : (1000 : Binary64).toRat? = some 1000 := by decide +kernel
  exact Binary64.round_mul_nonneg (placed.begins clip kind) factor (by decide) rounded

/-- In a graph of a resolved timeline every picture begins at its start, and every audio
clip at its start in milliseconds.  The sound of a clip begins when the sounds heard before
it have played, which is at its start only when these take as long as all pictures before
it.  This is so when all pictures before it are heard.  When time is counted exactly it is
not so otherwise: the sound then comes too early by the pictures that are not heard. -/
theorem heard_at_start_iff_of_build
    (resolves : Resolution.resolve options assets prober spec = (cache, .ok timeline))
    (built : build frame timeline = .ok graph)
    (split : timeline.items = before ++ resolved :: after) :
    let input : Int := (playedItems before).length
    (resolved.isShown →
      BeginsAt (graph.pictureOnsets .rounded) ⟨input, "v"⟩ ⟨resolved.start, 0⟩) ∧
    (∀ clip, resolved.item = .audio clip → ∃ delay,
      (resolved.start * 1000).round = .ok delay ∧
        BeginsAt (graph.soundOnsets .rounded) ⟨input, "a"⟩ ⟨.zero, delay⟩) ∧
    (resolved.isHeard →
      (BeginsAt (graph.soundOnsets .rounded) ⟨input, "a"⟩ ⟨resolved.start, 0⟩ ↔
        Clock.rounded.after (heardDurations before) .zero =
          Clock.rounded.after (shownDurations before) .zero) ∧
      ((∀ earlier ∈ before, earlier.isShown → earlier.isHeard) →
        BeginsAt (graph.soundOnsets .rounded) ⟨input, "a"⟩ ⟨resolved.start, 0⟩) ∧
      ∃ picture sound : Rat,
        BeginsAt (graph.pictureOnsets .exact) ⟨input, "v"⟩ ⟨picture, 0⟩ ∧
        BeginsAt (graph.soundOnsets .exact) ⟨input, "a"⟩ ⟨sound, 0⟩ ∧
        picture = sound + exactLength (unheardDurations before) ∧
        ((∀ earlier ∈ before, earlier.isShown → earlier.duration.toRat?.isSome) →
          (picture = sound ↔ ∀ earlier ∈ before, earlier.isShown → earlier.isHeard))) := by
  have plays := plays_of_build built
  have delays := plays.delays
  rw [split] at plays
  intro input
  refine ⟨fun shown => ?_, fun clip kind => ?_, fun heard => ⟨?_, fun all => ?_, ?_⟩⟩
  · rw [start_of_resolve resolves split shown]
    exact beginsAt_picture _ plays shown
  · refine ⟨startDelay resolved, delays resolved (by simp [split]) clip kind, ?_⟩
    have begins := beginsAt_placed .rounded plays kind
    have nonneg := startDelay_nonneg_of_build resolves built split kind
    rwa [Moment.delayed_of_nonneg nonneg, zero_add] at begins
  · rw [start_of_resolve resolves split (isShown_of_isHeard heard),
      (beginsAt_heard _ plays heard).eq_iff]
    simp [Clock.rounded]
  · rw [start_of_resolve resolves split (isShown_of_isHeard heard)]
    rw [shownDurations_eq_heardDurations all]
    exact beginsAt_heard _ plays heard
  · refine ⟨Clock.exact.after (shownDurations before) 0,
      Clock.exact.after (heardDurations before) 0,
      beginsAt_picture _ plays (isShown_of_isHeard heard), beginsAt_heard _ plays heard, ?_,
      fun finite => ?_⟩
    · rw [exact_after, exact_after, exactLength_shownDurations, add_assoc]
    · rw [exact_after, exact_after, exactLength_shownDurations, ← add_assoc,
        add_eq_left]
      exact exactLength_unheardDurations_eq_zero (lasts_of_resolve resolves split finite)

def stillThenClip : RenderSpec where
  width := 640
  height := 360
  timeline := [
    .image ⟨"still.png", 5, none⟩,
    .video ⟨"clip.mp4", some (.between 0 2), 100, none⟩]
  quality := "23"
  extension := "mp4"
  scaling := .cover
  subtitles := none

def namedFiles : AssetLookup := fun name => .ok (.ofString name)

def tenSeconds : Prober := fun _ => .ok ⟨10, true, true, 640, 360⟩

def resolvedStill : ResolvedItem :=
  ⟨.image ⟨"still.png", 5, none⟩, 0, 5, some (.ofString "still.png"), false⟩

def resolvedClip : ResolvedItem :=
  ⟨.video ⟨"clip.mp4", some (.between 0 2), 100, none⟩, 5, 2,
    some (.ofString "clip.mp4"), true⟩

theorem built_stillThenClip :
    ∃ cache timeline graph,
      Resolution.resolve ⟨5, 1⟩ namedFiles tenSeconds stillThenClip =
        (cache, .ok timeline) ∧
      timeline.items = [resolvedStill, resolvedClip] ∧
      build plainFrame timeline = .ok graph := by
  have items : (Resolution.resolve ⟨5, 1⟩ namedFiles tenSeconds
      stillThenClip).2.toOption.map (·.items) = some [resolvedStill, resolvedClip] := by
    decide +kernel
  have succeeds : ∀ total, (build plainFrame
      ⟨[resolvedStill, resolvedClip], total⟩).toOption.isSome = true := by
    intro total
    change (build plainFrame ⟨[resolvedStill, resolvedClip], .zero⟩).toOption.isSome = true
    decide +kernel
  cases resolves : Resolution.resolve ⟨5, 1⟩ namedFiles tenSeconds stillThenClip with
  | mk cache outcome =>
      cases outcome with
      | error reason => simp [resolves, Except.toOption] at items
      | ok timeline =>
          obtain ⟨placed, total⟩ := timeline
          obtain rfl : placed = [resolvedStill, resolvedClip] := by
            simpa [resolves, Except.toOption] using items
          cases built : build plainFrame ⟨[resolvedStill, resolvedClip], total⟩ with
          | error reason => simpa [built, Except.toOption] using succeeds total
          | ok graph => exact ⟨cache, _, graph, rfl, rfl, built⟩

/-- The sound of the clip is five seconds early: nothing is heard before it. -/
theorem sound_early_stillThenClip :
    ∃ cache timeline graph,
      Resolution.resolve ⟨5, 1⟩ namedFiles tenSeconds stillThenClip =
        (cache, .ok timeline) ∧
      build plainFrame timeline = .ok graph ∧
      resolvedClip ∈ timeline.items ∧ resolvedClip.isHeard ∧ resolvedClip.start = 5 ∧
      BeginsAt (graph.pictureOnsets .rounded) ⟨1, "v"⟩ ⟨5, 0⟩ ∧
      BeginsAt (graph.soundOnsets .rounded) ⟨1, "a"⟩ ⟨0, 0⟩ ∧
      ¬ BeginsAt (graph.soundOnsets .rounded) ⟨1, "a"⟩ ⟨resolvedClip.start, 0⟩ := by
  obtain ⟨cache, timeline, graph, resolves, items, built⟩ := built_stillThenClip
  have plays : graph.Plays plainFrame ([resolvedStill] ++ resolvedClip :: []) := by
    have played := plays_of_build built
    rwa [items] at played
  have shown := beginsAt_picture .rounded plays (by decide +kernel)
  have heard := beginsAt_heard .rounded plays (by decide +kernel)
  have five : Clock.rounded.after (shownDurations [resolvedStill]) Clock.rounded.zero = 5 := by
    decide +kernel
  have zero : Clock.rounded.after (heardDurations [resolvedStill]) Clock.rounded.zero = 0 := by
    decide
  rw [five] at shown
  rw [zero] at heard
  refine ⟨cache, timeline, graph, resolves, built, by simp [items], by decide +kernel, rfl,
    shown, heard, fun late => ?_⟩
  have same : (0 : Binary64) = 5 := congrArg Moment.time (heard.eq_iff.mp late)
  exact absurd same (by decide +kernel)

/-- Counted exactly, the sound of the clip comes too early by the still image. -/
theorem heard_at_start_stillThenClip :
    ∃ cache timeline graph,
      Resolution.resolve ⟨5, 1⟩ namedFiles tenSeconds stillThenClip =
        (cache, .ok timeline) ∧
      build plainFrame timeline = .ok graph ∧
      timeline.items = [resolvedStill] ++ resolvedClip :: [] ∧
      ∃ picture sound : Rat,
        BeginsAt (graph.pictureOnsets .exact) ⟨1, "v"⟩ ⟨picture, 0⟩ ∧
        BeginsAt (graph.soundOnsets .exact) ⟨1, "a"⟩ ⟨sound, 0⟩ ∧
        picture = sound + 5 := by
  obtain ⟨cache, timeline, graph, resolves, items, built⟩ := built_stillThenClip
  have split : timeline.items = [resolvedStill] ++ resolvedClip :: [] := items
  obtain ⟨-, -, heard⟩ := heard_at_start_iff_of_build resolves built split
  obtain ⟨-, -, picture, sound, shown, begins, lag, -⟩ := heard (by decide +kernel)
  have length : exactLength (unheardDurations [resolvedStill]) = 5 := by decide +kernel
  rw [length] at lag
  exact ⟨cache, timeline, graph, resolves, built, split, picture, sound, shown, begins, lag⟩

end Graph

end Montage.Filter
