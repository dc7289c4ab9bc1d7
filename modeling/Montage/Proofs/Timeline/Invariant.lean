import Montage.Proofs.Timeline.Layout
import Montage.Proofs.Wire.Accepted

/-!
# What holds of timelines

Of a request that is read, the timeline keeps its invariant unless a cut or a probe gives a clip a
length that is no number: the checks on the way refuse what is below a bound, and such a length is
below none.
-/

namespace Montage

namespace ResolvedTimeline

/-- Clips and images start from zero on, take some time and end within the total duration, texts
start from zero on and take no negative time, and all of these are numbers. -/
structure IsOrderly (timeline : ResolvedTimeline) : Prop where
  clips : ∀ resolved ∈ timeline.items, ¬ resolved.item.isText →
    0 ≤ resolved.start ∧ 0 < resolved.duration ∧ resolved.finish ≤ timeline.totalDuration
  texts : ∀ resolved ∈ timeline.items, resolved.item.isText →
    0 ≤ resolved.start ∧ 0 ≤ resolved.duration
  total : timeline.totalDuration ≠ .nan
  times : ∀ resolved ∈ timeline.items, resolved.start ≠ .nan ∧ resolved.duration ≠ .nan

end ResolvedTimeline

namespace Resolution

open ResolvedItem

variable {fallback : Binary64} {probe : Option ProbeResult} {assets : AssetLookup}
  {prober : Prober} {options : Options} {spec : RenderSpec} {timeline : ResolvedTimeline}

/-- Whether the length of a file is a number: by the ends of its cut, or else by what the prober
says of it. -/
def MeasuredSource (assets : AssetLookup) (prober : Prober) (filename : String) :
    Option Cut → Prop
  | some (.between start finish) => start ≠ .nan ∧ finish ≠ .nan
  | _ => ∀ path result, assets filename = .ok path → prober path = .ok result →
      result.duration ≠ .nan

def Measured (assets : AssetLookup) (prober : Prober) : TimelineItem → Prop
  | .video clip => MeasuredSource assets prober clip.filename clip.cut
  | .audio clip => clip.duration = none → MeasuredSource assets prober clip.filename clip.cut
  | .image _ => True
  | .text _ => True

theorem source_ne_nan_iff {filename : String} {cut : Option Cut} {length : Option Binary64}
    (known : fallback ≠ .nan) (ordered : ∀ given ∈ cut, given.InOrder)
    (asked : cut = none → ∀ result, probe = some result ↔
      ∃ path, assets filename = .ok path ∧ prober path = .ok result)
    (taken : cutLength filename cut = .ok length) :
    length.getD (probedDuration fallback probe) ≠ .nan ↔
      MeasuredSource assets prober filename cut := by
  cases cut with
  | none =>
      obtain rfl := Except.ok.inj taken
      change probedDuration fallback probe ≠ .nan ↔ ∀ path result, _
      rw [ne_eq, probedDuration_eq_nan_iff known]
      simp only [asked rfl]
      constructor
      · intro none path result found answered undefined
        exact none ⟨result, ⟨path, found, answered⟩, undefined⟩
      · rintro all ⟨result, ⟨path, found, answered⟩, undefined⟩
        exact all path result found answered undefined
  | some part =>
      have inOrder := ordered part rfl
      cases part with
      | whole => exact absurd inOrder (by simp [Cut.InOrder])
      | between start finish =>
          rw [cutLength, if_neg inOrder.1, Except.ok.injEq] at taken
          subst taken
          change finish - start ≠ .nan ↔ start ≠ .nan ∧ finish ≠ .nan
          rw [ne_eq, Binary64.sub_eq_nan_iff inOrder.1 inOrder.2, not_or]

/-- An item without a cut is probed when its length depends on it. -/
theorem probeAt_eq_some_iff {located : List (TimelineItem × Option Path)}
    {listed : List TimelineItem} {entry : TimelineItem × Option Path} {filename : String}
    (prober : Prober) (found : locate assets listed = .ok located) (member : entry ∈ located)
    (asks : needsProbe entry.1) (named : entry.1.filename? = some filename) (result : ProbeResult) :
    probeAt (ProbeCache.answers prober (ProbeCache.distinct (probedPaths located))) entry.2 =
        some result ↔
      ∃ path, assets filename = .ok path ∧ prober path = .ok result := by
  have placed := pathOf?_of_mem found member
  rw [probeAt_answers member asks]
  simp only [pathOf?, named] at placed
  cases given : assets filename with
  | error reason => simp [given] at placed
  | ok path =>
      rw [given, Option.some.injEq] at placed
      rw [← placed]
      simp only [Option.bind_some, Except.ok.injEq, exists_eq_left']
      unfold ProbeCache.outcome?
      cases answered : prober path with
      | ok other => simp
      | error reason => cases reason <;> simp

theorem duration_ne_nan_iff {located : List (TimelineItem × Option Path)}
    {listed : List TimelineItem} {entry : TimelineItem × Option Path} {duration : Binary64}
    (known : fallback ≠ .nan) (found : locate assets listed = .ok located)
    (member : entry ∈ located) (bounds : entry.1.InBounds) (notText : ¬ entry.1.isText)
    (taken : lengthOf fallback (probeAt (ProbeCache.answers prober
      (ProbeCache.distinct (probedPaths located))) entry.2) entry.1 = .ok duration) :
    duration ≠ .nan ↔ Measured assets prober entry.1 := by
  have asked := fun asks filename (named : entry.1.filename? = some filename) =>
    probeAt_eq_some_iff prober found member asks named
  obtain ⟨item, path⟩ := entry
  cases item with
  | text overlay => exact absurd rfl notText
  | image clip =>
      obtain rfl := Except.ok.inj taken
      have positive : 0 < clip.duration := bounds
      exact iff_of_true (Binary64.ne_nan_of_le (Binary64.le_of_lt positive)).2 trivial
  | video clip =>
      cases named : cutLength clip.filename clip.cut with
      | error reason => simp [lengthOf, named, Except.map] at taken
      | ok length =>
          simp only [lengthOf, named, Except.map, Except.ok.injEq] at taken
          subst taken
          exact source_ne_nan_iff known bounds.1
            (fun whole => asked (by simp [needsProbe, whole]) _ rfl) named
  | audio clip =>
      cases named : cutLength clip.filename clip.cut with
      | error reason => simp [lengthOf, named, Except.map] at taken
      | ok length =>
          simp only [lengthOf, named, Except.map, Except.ok.injEq] at taken
          subst taken
          cases given : clip.duration with
          | some own =>
              have positive := bounds.2.2.1 own given
              refine iff_of_true (Binary64.ne_nan_of_le (Binary64.le_of_lt positive)).2 ?_
              simp [Measured, given]
          | none =>
              have source := source_ne_nan_iff known bounds.2.1
                (fun whole => asked (by simp [needsProbe, whole, given]) _ rfl) named
              exact source.trans ⟨fun measured _ => measured, fun measured => measured given⟩

theorem zero_le_larger (time : Binary64) : 0 ≤ Binary64.zero.larger time := by
  rw [Binary64.ofNat_zero]
  exact Binary64.le_larger_left (by simp [Binary64.zero]) time

theorem mem_timeline_of_mem_itemsOf {item : TimelineItem} (member : item ∈ itemsOf spec)
    (notText : ¬ item.isText) : item ∈ spec.timeline := by
  rcases List.mem_append.mp member with own | text
  · exact own
  · obtain ⟨overlay, -, rfl⟩ := List.mem_map.mp text
    exact absurd rfl notText

/-- The times of texts are raised to zero. -/
theorem nonneg_of_isText {resolved : ResolvedItem}
    (resolves : (resolve options assets prober spec).2 = .ok timeline)
    (member : resolved ∈ timeline.items) (text : resolved.item.isText) :
    0 ≤ resolved.start ∧ 0 ≤ resolved.duration := by
  obtain ⟨located, entry, before, after, -, -, here⟩ := exists_place_of_resolve resolves member
  obtain ⟨duration, taken, -, -, rfl, -⟩ := place_ok_iff.mp here
  obtain ⟨item, path⟩ := entry
  cases item with
  | text overlay =>
      obtain rfl := Except.ok.inj taken
      exact ⟨zero_le_larger _, zero_le_larger _⟩
  | video clip | image clip | audio clip => simp [settle, TimelineItem.isText] at text

/-- The timeline of a request that is read keeps its invariant exactly if every item takes a length
that is a number. -/
theorem isOrderly_iff_measured {document : Json}
    (read : Wire.RenderRequest.specOf document = .ok spec) (known : options.fallbackDuration ≠ .nan)
    (resolves : (resolve options assets prober spec).2 = .ok timeline) :
    timeline.IsOrderly ↔ ∀ item ∈ spec.timeline, Measured assets prober item := by
  have bounds := Wire.RenderRequest.inBounds_of_specOf read
  obtain ⟨⟨_, laid⟩, listed⟩ := laid_of_resolve resolves
  have own : ∀ resolved ∈ timeline.items, ¬ resolved.item.isText →
      resolved.item ∈ spec.timeline := fun resolved member notText =>
    mem_timeline_of_mem_itemsOf (listed ▸ List.mem_map_of_mem member) notText
  -- Both directions go through the items as they were placed.
  have measured : ∀ resolved ∈ timeline.items, ¬ resolved.item.isText →
      (resolved.duration ≠ .nan ↔ Measured assets prober resolved.item) := by
    intro resolved member notText
    obtain ⟨located, entry, before, after, found, present, here⟩ :=
      exists_place_of_resolve resolves member
    obtain ⟨duration, taken, -, -, rfl, -⟩ := place_ok_iff.mp here
    exact duration_ne_nan_iff known found present (bounds _ (own _ member notText)) notText taken
  constructor
  · intro orderly item member
    by_cases text : item.isText
    · cases item <;> trivial
    · have placed : item ∈ timeline.items.map (·.item) := by
        rw [listed]
        exact List.mem_append_left _ member
      obtain ⟨resolved, present, rfl⟩ := List.mem_map.mp placed
      exact (measured resolved present text).mp (orderly.times resolved present).2
  · intro all
    have timed : ∀ resolved ∈ timeline.items, IsTimed resolved := by
      refine fun resolved member => ⟨fun notText => ?_, fun clip kind start => ?_⟩
      · exact (measured resolved member notText).mpr (all _ (own resolved member notText))
      · have inBounds := bounds _ (own resolved member (by simp [kind, TimelineItem.isText]))
        rw [kind] at inBounds
        exact (Binary64.ne_nan_of_le (inBounds.1 .nan start)).2 rfl
    obtain ⟨progress, bounded, total⟩ := bounded_of_resolve resolves timed
    have clips := total ▸ bounded.within
    have known := total ▸ (Binary64.ne_nan_of_le bounded.total).2
    refine ⟨clips, fun _ => nonneg_of_isText resolves, known, ?_⟩
    intro resolved member
    by_cases text : resolved.item.isText
    · obtain ⟨start, duration⟩ := nonneg_of_isText resolves member text
      exact ⟨(Binary64.ne_nan_of_le start).2, (Binary64.ne_nan_of_le duration).2⟩
    · obtain ⟨start, duration, -⟩ := clips resolved member text
      exact ⟨(Binary64.ne_nan_of_le start).2, timed resolved member |>.1 text⟩

/-- A request for one video clip with a cut from some start up to five seconds. -/
def cutRequest (start : Json) : Json :=
  .object [("timeline", .array [.object [("type", .text "video"), ("filename", .text "a.mp4"),
    ("cut", .array [start, .integer 5])]])]

def plainOptions : Options := ⟨5, 1⟩

def everyFile : AssetLookup := fun name => .ok (.ofString name)

def nothingFound : Prober := fun _ => .ok .empty

/-- The timeline of a request where every file is there and nothing is found in it. -/
def plainTimeline (document : Json) : Option ResolvedTimeline :=
  (Wire.RenderRequest.specOf document).toOption.bind fun spec =>
    (resolve plainOptions everyFile nothingFound spec).2.toOption

theorem exists_of_plainTimeline {document : Json} (found : plainTimeline document = some timeline) :
    ∃ spec, Wire.RenderRequest.specOf document = .ok spec ∧
      (resolve plainOptions everyFile nothingFound spec).2 = .ok timeline := by
  obtain ⟨spec, read, resolves⟩ := Option.bind_eq_some_iff.mp found
  exact ⟨spec, toOption_eq_some_iff.mp read, toOption_eq_some_iff.mp resolves⟩

/-- A cut from one second up to five keeps the timeline in order. -/
theorem isOrderly_cutFromOne :
    ∃ spec timeline, Wire.RenderRequest.specOf (cutRequest (.integer 1)) = .ok spec ∧
      (resolve plainOptions everyFile nothingFound spec).2 = .ok timeline ∧
      timeline.IsOrderly ∧ timeline.totalDuration = 4 := by
  have cuts : ((Wire.RenderRequest.specOf (cutRequest (.integer 1))).toOption.map (·.timeline)) =
      some [.video ⟨"a.mp4", some (.between 1 5), fullVolume, none⟩] := by decide +kernel
  have total : (plainTimeline (cutRequest (.integer 1))).map (·.totalDuration) = some 4 := by
    decide +kernel
  obtain ⟨timeline, found, total⟩ := Option.map_eq_some_iff.mp total
  obtain ⟨spec, read, resolves⟩ := exists_of_plainTimeline found
  have items : spec.timeline = [.video ⟨"a.mp4", some (.between 1 5), fullVolume, none⟩] := by
    simpa [read, Except.toOption] using cuts
  have ordered := isOrderly_iff_measured read (by decide +kernel) resolves
  refine ⟨spec, timeline, read, resolves, ordered.mpr ?_, total⟩
  intro item member
  rw [items, List.mem_singleton] at member
  subst member
  change (1 : Binary64) ≠ .nan ∧ (5 : Binary64) ≠ .nan
  decide +kernel

/-- A cut from what is no number is accepted, and so is the length that it gives. -/
theorem not_isOrderly_cutFromNan :
    ∃ spec timeline, Wire.RenderRequest.specOf (cutRequest (.text "nan")) = .ok spec ∧
      (resolve plainOptions everyFile nothingFound spec).2 = .ok timeline ∧
      timeline.items.map (·.duration) = [.nan] ∧ ¬ timeline.IsOrderly := by
  have lengths : (plainTimeline (cutRequest (.text "nan"))).map (fun timeline =>
      timeline.items.map (·.duration)) = some [.nan] := by decide +kernel
  obtain ⟨timeline, found, lengths⟩ := Option.map_eq_some_iff.mp lengths
  obtain ⟨spec, read, resolves⟩ := exists_of_plainTimeline found
  refine ⟨spec, timeline, read, resolves, lengths, fun orderly => ?_⟩
  have member : Binary64.nan ∈ timeline.items.map (·.duration) := by simp [lengths]
  obtain ⟨resolved, member, undefined⟩ := List.mem_map.mp member
  exact (orderly.times resolved member).2 undefined

end Resolution

end Montage
