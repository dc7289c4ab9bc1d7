import Montage.Proofs.Probe.Answers
import Montage.Proofs.Sequence
import Montage.Timeline.Resolved

/-!
# Resolution step by step

What it takes to find the file of an item, to place it and to resolve a composition, and what
comes of it: video clips and images back to back, each with some length, and audio clips at a start
that is not negative.
-/

namespace Montage

namespace TimelineItem

def isAudio : TimelineItem → Bool
  | .audio _ => true
  | .video _ => false
  | .image _ => false
  | .text _ => false

def isText : TimelineItem → Bool
  | .text _ => true
  | .video _ => false
  | .image _ => false
  | .audio _ => false

/-- The start of an item where the pictures before it end at the cursor. -/
def startAt (cursor : Binary64) : TimelineItem → Binary64
  | .video _ => cursor
  | .image _ => cursor
  | .audio clip => clip.startTime.getD cursor
  | .text overlay => Binary64.zero.larger overlay.startTime

end TimelineItem

namespace ResolvedItem

/-- Whether an item has a picture of its own, and so takes its turn in the sequence. -/
def isShown (resolved : ResolvedItem) : Bool :=
  match resolved.item with
  | .video _ => true
  | .image _ => true
  | .audio _ => false
  | .text _ => false

def isHeard (resolved : ResolvedItem) : Bool :=
  match resolved.item with
  | .video clip => decide (0 < clip.volume) && resolved.hasAudio
  | .image _ => false
  | .audio _ => false
  | .text _ => false

theorem isShown_of_isHeard {resolved : ResolvedItem} (heard : resolved.isHeard) :
    resolved.isShown := by
  unfold isHeard at heard
  unfold isShown
  split at heard <;> simp_all

def shownDurations (items : List ResolvedItem) : List Binary64 :=
  (items.filter isShown).map duration

/-- The lengths of video clips that are heard, in order. -/
def heardDurations (items : List ResolvedItem) : List Binary64 :=
  (items.filter isHeard).map duration

theorem isShown_iff {resolved : ResolvedItem} :
    resolved.isShown ↔ ¬ resolved.item.isAudio ∧ ¬ resolved.item.isText := by
  cases kind : resolved.item <;>
    simp [isShown, kind, TimelineItem.isAudio, TimelineItem.isText]

end ResolvedItem

namespace Resolution

open ResolvedItem

variable {fallback : Binary64} {item : TimelineItem} {path : Option Path}
  {probe : Option ProbeResult} {progress next : Progress} {resolved : ResolvedItem}
  {probes : List (Path × Option ProbeResult)} {located : List (TimelineItem × Option Path)}
  {items : List ResolvedItem}

def lengthOf (fallback : Binary64) (probe : Option ProbeResult) :
    TimelineItem → Except Rejection Binary64
  | .video clip =>
      (cutLength clip.filename clip.cut).map (·.getD (probedDuration fallback probe))
  | .image clip => .ok clip.duration
  | .audio clip =>
      (cutLength clip.filename clip.cut).map fun cut =>
        clip.duration.getD (cut.getD (probedDuration fallback probe))
  | .text overlay => .ok (Binary64.zero.larger overlay.duration)

def soundOf (probe : Option ProbeResult) : TimelineItem → Bool
  | .video _ => (probe.map (·.hasAudio)).getD false
  | .image _ => false
  | .audio _ => true
  | .text _ => false

def Progress.advance (progress : Progress) (resolved : ResolvedItem) : Progress where
  cursor := if resolved.isShown then resolved.finish else progress.cursor
  total := if resolved.item.isText then progress.total
    else progress.total.larger resolved.finish

/-- An item of some length, where the pictures before it end at the cursor. -/
def settle (cursor : Binary64) (item : TimelineItem) (path : Option Path)
    (probe : Option ProbeResult) (duration : Binary64) : ResolvedItem :=
  ⟨item, item.startAt cursor, duration, if item.isText then none else path, soundOf probe item⟩

theorem place_eq_ok {duration : Binary64} (taken : lengthOf fallback probe item = .ok duration)
    (lasts : ¬ item.isText → ¬ duration ≤ 0)
    (begins : item.isAudio → ¬ item.startAt progress.cursor < 0) :
    place fallback progress item path probe =
      .ok (progress.advance (settle progress.cursor item path probe duration),
        settle progress.cursor item path probe duration) := by
  cases item with
  | text overlay =>
      obtain rfl := Except.ok.inj taken
      rfl
  | image clip =>
      obtain rfl := Except.ok.inj taken
      simp only [place, lasts (by simp [TimelineItem.isText]), if_false]
      rfl
  | video clip =>
      cases named : cutLength clip.filename clip.cut with
      | error reason => simp [lengthOf, named, Except.map] at taken
      | ok cut =>
          simp only [lengthOf, named, Except.map, Except.ok.injEq] at taken
          simp only [place, named, bind, Except.bind, taken,
            lasts (by simp [TimelineItem.isText]), if_false]
          rfl
  | audio clip =>
      cases named : cutLength clip.filename clip.cut with
      | error reason => simp [lengthOf, named, Except.map] at taken
      | ok cut =>
          simp only [lengthOf, named, Except.map, Except.ok.injEq] at taken
          have notEarly : ¬ clip.startTime.getD progress.cursor < 0 := begins rfl
          simp only [place, named, bind, Except.bind, taken,
            lasts (by simp [TimelineItem.isText]), notEarly, if_false]
          rfl

theorem length_of_place
    (placed : place fallback progress item path probe = .ok (next, resolved)) :
    ∃ duration, lengthOf fallback probe item = .ok duration ∧
      (¬ item.isText → ¬ duration ≤ 0) ∧ (item.isAudio → ¬ item.startAt progress.cursor < 0) := by
  cases item with
  | text overlay => exact ⟨_, rfl, by simp [TimelineItem.isText], by simp [TimelineItem.isAudio]⟩
  | image clip =>
      refine ⟨_, rfl, fun _ empty => ?_, by simp [TimelineItem.isAudio]⟩
      simp [place, empty] at placed
  | video clip =>
      simp only [place, bind_eq_ok_iff] at placed
      obtain ⟨cut, named, rest⟩ := placed
      refine ⟨_, by rw [lengthOf, named, Except.map], fun _ empty => ?_,
        by simp [TimelineItem.isAudio]⟩
      simp [empty] at rest
  | audio clip =>
      simp only [place, bind_eq_ok_iff] at placed
      obtain ⟨cut, named, rest⟩ := placed
      refine ⟨_, by rw [lengthOf, named, Except.map], fun _ empty => ?_, fun _ early => ?_⟩
      · simp [empty] at rest
      · have early : clip.startTime.getD progress.cursor < 0 := early
        simp only [early, if_true] at rest
        split at rest <;> simp at rest

/-- The items that can be placed are the texts and those that take some time, and audio clips among
them that do not start below zero. -/
theorem place_ok_iff :
    place fallback progress item path probe = .ok (next, resolved) ↔
      ∃ duration, lengthOf fallback probe item = .ok duration ∧
        (¬ item.isText → ¬ duration ≤ 0) ∧ (item.isAudio → ¬ item.startAt progress.cursor < 0) ∧
        resolved = settle progress.cursor item path probe duration ∧
        next = progress.advance resolved := by
  constructor
  · intro placed
    obtain ⟨duration, taken, lasts, begins⟩ := length_of_place placed
    rw [place_eq_ok taken lasts begins, Except.ok.injEq, Prod.mk.injEq] at placed
    obtain ⟨rfl, rfl⟩ := placed
    exact ⟨duration, taken, lasts, begins, rfl, rfl⟩
  · rintro ⟨duration, taken, lasts, begins, rfl, rfl⟩
    exact place_eq_ok taken lasts begins

def probeAt (probes : List (Path × Option ProbeResult)) (path : Option Path) : Option ProbeResult :=
  (path.bind fun found => probes.lookup found).join

theorem placeAll_nil_ok_iff :
    placeAll fallback probes progress [] = .ok (next, items) ↔ progress = next ∧ [] = items := by
  rw [placeAll, Except.ok.injEq, Prod.mk.injEq]

theorem placeAll_cons_ok_iff :
    placeAll fallback probes progress ((item, path) :: located) = .ok (next, items) ↔
      ∃ middle resolved others,
        place fallback progress item path (probeAt probes path) = .ok (middle, resolved) ∧
        placeAll fallback probes middle located = .ok (next, others) ∧
        items = resolved :: others := by
  simp only [placeAll, probeAt, bind_eq_ok_iff, Prod.exists, Except.ok.injEq, Prod.mk.injEq]
  constructor
  · rintro ⟨middle, resolved, here, last, others, rest, rfl, rfl⟩
    exact ⟨middle, resolved, others, here, rest, rfl⟩
  · rintro ⟨middle, resolved, others, here, rest, rfl⟩
    exact ⟨middle, resolved, here, next, others, rest, rfl, rfl⟩

theorem exists_place_of_mem
    (placed : placeAll fallback probes progress located = .ok (next, items))
    (member : resolved ∈ items) :
    ∃ entry ∈ located, ∃ before after,
      place fallback before entry.1 entry.2 (probeAt probes entry.2) = .ok (after, resolved) := by
  induction located generalizing progress items with
  | nil =>
      obtain ⟨-, rfl⟩ := placeAll_nil_ok_iff.mp placed
      exact absurd member List.not_mem_nil
  | cons entry located ih =>
      obtain ⟨middle, first, others, here, rest, rfl⟩ := placeAll_cons_ok_iff.mp placed
      rcases List.mem_cons.mp member with rfl | later
      · exact ⟨entry, List.mem_cons_self, progress, middle, here⟩
      · obtain ⟨entry, member, found⟩ := ih rest later
        exact ⟨entry, List.mem_cons_of_mem _ member, found⟩

/-- The path of an item, none if it has no asset, unless its asset is missing. -/
def pathOf? (assets : AssetLookup) (item : TimelineItem) : Option (Option Path) :=
  match item.filename? with
  | none => some none
  | some filename =>
      match assets filename with
      | .ok path => some (some path)
      | .error _ => none

theorem locate_cons_ok_iff {assets : AssetLookup} {rest : List TimelineItem} :
    locate assets (item :: rest) = .ok located ↔
      ∃ path others, pathOf? assets item = some path ∧ locate assets rest = .ok others ∧
        located = (item, path) :: others := by
  have step : ∀ path : Option Path, (do
      let others ← locate assets rest
      Except.ok ((item, path) :: others)) = .ok located ↔
        ∃ others, locate assets rest = .ok others ∧ located = (item, path) :: others := by
    intro path
    rw [bind_eq_ok_iff]
    refine exists_congr fun others => and_congr_right fun _ => ?_
    rw [Except.ok.injEq, eq_comm]
  cases named : item.filename? with
  | none => simpa [locate, pathOf?, named] using step none
  | some filename =>
      cases found : assets filename with
      | error reason => cases reason <;> simp [locate, pathOf?, named, found]
      | ok path => simpa [locate, pathOf?, named, found] using step (some path)

theorem map_fst_of_locate {assets : AssetLookup} {listed : List TimelineItem}
    (found : locate assets listed = .ok located) : located.map Prod.fst = listed := by
  induction listed generalizing located with
  | nil =>
      obtain rfl := Except.ok.inj found
      rfl
  | cons item listed ih =>
      obtain ⟨path, others, -, behind, rfl⟩ := locate_cons_ok_iff.mp found
      rw [List.map_cons, ih behind]

theorem mem_probedPaths {found : Path} :
    found ∈ probedPaths located ↔
      ∃ entry ∈ located, needsProbe entry.1 ∧ entry.2 = some found := by
  rw [probedPaths, List.mem_filterMap]
  refine exists_congr fun entry => and_congr_right fun _ => ?_
  by_cases asks : needsProbe entry.1 <;> simp [asks]

theorem probeAt_answers {prober : Prober} {entry : TimelineItem × Option Path}
    (member : entry ∈ located) (asks : needsProbe entry.1) :
    probeAt (ProbeCache.answers prober (ProbeCache.distinct (probedPaths located))) entry.2 =
      (entry.2.bind (ProbeCache.outcome? prober)).join := by
  cases place : entry.2 with
  | none => rfl
  | some found =>
      have probed : found ∈ probedPaths located :=
        mem_probedPaths.mpr ⟨entry, member, asks, place⟩
      simp [probeAt, ProbeCache.lookup_answers, ProbeCache.mem_distinct, probed]

theorem pathOf?_of_mem {assets : AssetLookup} {listed : List TimelineItem}
    {entry : TimelineItem × Option Path} (found : locate assets listed = .ok located)
    (member : entry ∈ located) : pathOf? assets entry.1 = some entry.2 := by
  induction listed generalizing located with
  | nil =>
      obtain rfl := Except.ok.inj found
      simp at member
  | cons item listed ih =>
      obtain ⟨path, others, here, behind, rfl⟩ := locate_cons_ok_iff.mp found
      rcases List.mem_cons.mp member with rfl | later
      · exact here
      · exact ih behind later

theorem ok_of_probeAt {prober : Prober} {paths : List Path} {result : ProbeResult}
    (found : probeAt (ProbeCache.answers prober paths) path = some result) :
    ∃ asked, prober asked = .ok result := by
  cases path with
  | none => simp [probeAt] at found
  | some asked =>
      rw [probeAt, Option.bind_some, ProbeCache.lookup_answers] at found
      split at found
      · refine ⟨asked, ?_⟩
        unfold ProbeCache.outcome? at found
        split at found <;> simp_all
      · simp at found

/-- A composition is resolved when it has items, their files are found, no probe breaks off and
every item can be placed. -/
theorem resolve_ok_iff {options : Options} {assets : AssetLookup} {prober : Prober}
    {spec : RenderSpec} {timeline : ResolvedTimeline} :
    (resolve options assets prober spec).2 = .ok timeline ↔
      spec.timeline ≠ [] ∧ ∃ located progress, locate assets (itemsOf spec) = .ok located ∧
        (∀ path ∈ probedPaths located, (ProbeCache.outcome? prober path).isSome) ∧
        placeAll options.fallbackDuration
            (ProbeCache.answers prober (ProbeCache.distinct (probedPaths located)))
            ⟨.zero, .zero⟩ located = .ok (progress, timeline.items) ∧
        timeline.totalDuration = progress.total := by
  unfold resolve
  by_cases none : spec.timeline.isEmpty
  · simp [List.isEmpty_iff.mp none]
  have some : spec.timeline ≠ [] := fun empty => none (List.isEmpty_iff.mpr empty)
  simp only [none, some, ne_eq, not_false_eq_true, true_and]
  cases found : locate assets (itemsOf spec) with
  | error reason => simp
  | ok located =>
      simp only [Except.ok.injEq, exists_and_left, exists_eq_left']
      cases probed : ProbeCache.probeMany prober options.parallelism .empty
          (probedPaths located) with
      | mk cache outcome =>
          cases outcome with
          | error fault =>
              have breaks : ¬ ∀ path ∈ probedPaths located,
                  (ProbeCache.outcome? prober path).isSome := by
                intro known
                obtain ⟨after, succeeds⟩ := (ProbeCache.probeMany_ok_iff _).mpr ⟨known, rfl⟩
                cases succeeds.symm.trans probed
              exact iff_of_false (by simp) (by simp [breaks])
          | ok probes =>
              obtain ⟨known, rfl⟩ := (ProbeCache.probeMany_ok_iff _).mp ⟨cache, probed⟩
              rw [iff_true_intro known, true_and]
              dsimp only
              cases placed : placeAll options.fallbackDuration
                  (ProbeCache.answers prober (ProbeCache.distinct (probedPaths located)))
                  ⟨.zero, .zero⟩ located with
              | error reason => simp
              | ok outcome =>
                  obtain ⟨progress, items⟩ := outcome
                  cases timeline
                  simp [eq_comm]

/-- Every item of a timeline was found, and placed by what the prober says of its path. -/
theorem exists_place_of_resolve {options : Options} {assets : AssetLookup} {prober : Prober}
    {spec : RenderSpec} {timeline : ResolvedTimeline}
    (resolves : (resolve options assets prober spec).2 = .ok timeline)
    (member : resolved ∈ timeline.items) :
    ∃ located entry before after, locate assets (itemsOf spec) = .ok located ∧
      entry ∈ located ∧ place options.fallbackDuration before entry.1 entry.2
        (probeAt (ProbeCache.answers prober (ProbeCache.distinct (probedPaths located))) entry.2) =
          .ok (after, resolved) := by
  obtain ⟨-, located, progress, found, -, placed, -⟩ := resolve_ok_iff.mp resolves
  obtain ⟨entry, present, before, after, here⟩ := exists_place_of_mem placed member
  exact ⟨located, entry, before, after, found, present, here⟩

/-- The path of an item in a timeline was given for some name. -/
theorem exists_asset_of_resolve {options : Options} {assets : AssetLookup} {prober : Prober}
    {spec : RenderSpec} {timeline : ResolvedTimeline}
    (resolves : (resolve options assets prober spec).2 = .ok timeline)
    (member : resolved ∈ timeline.items) {found : Path} (given : resolved.path = some found) :
    ∃ filename, assets filename = .ok found := by
  obtain ⟨located, entry, before, after, locates, present, placed⟩ :=
    exists_place_of_resolve resolves member
  obtain ⟨duration, -, -, -, rfl, -⟩ := place_ok_iff.mp placed
  have known : entry.2 = some found := by
    rw [settle] at given
    dsimp only at given
    split at given
    · simp at given
    · exact given
  have path := pathOf?_of_mem locates present
  unfold pathOf? at path
  split at path
  · simp [known] at path
  next filename _ =>
    split at path
    next other equal => exact ⟨filename, by simp_all⟩
    next => simp at path

theorem item_of_placeAll
    (placed : placeAll fallback probes progress located = .ok (next, items)) :
    items.map (·.item) = located.map Prod.fst := by
  induction located generalizing progress items with
  | nil =>
      obtain ⟨-, rfl⟩ := placeAll_nil_ok_iff.mp placed
      rfl
  | cons entry located ih =>
      obtain ⟨middle, resolved, others, here, rest, rfl⟩ := placeAll_cons_ok_iff.mp placed
      obtain ⟨duration, -, -, -, same, -⟩ := place_ok_iff.mp here
      rw [List.map_cons, List.map_cons, ih rest, same]
      rfl

theorem paths_of_placeAll {assets : AssetLookup} {listed : List TimelineItem}
    (found : locate assets listed = .ok located)
    (placed : placeAll fallback probes progress located = .ok (next, items)) :
    List.Forall₂ (fun filename path => assets filename = .ok path)
      (listed.filterMap (·.filename?)) (items.filterMap (·.path)) := by
  induction listed generalizing located progress items with
  | nil =>
      obtain rfl := Except.ok.inj found
      obtain ⟨-, rfl⟩ := placeAll_nil_ok_iff.mp placed
      exact .nil
  | cons item listed ih =>
      obtain ⟨path, others, here, behind, rfl⟩ := locate_cons_ok_iff.mp found
      obtain ⟨middle, resolved, rest, first, later, rfl⟩ := placeAll_cons_ok_iff.mp placed
      obtain ⟨duration, -, -, -, same, -⟩ := place_ok_iff.mp first
      have kept : resolved.path = if item.isText then none else path := by rw [same, settle]
      unfold pathOf? at here
      cases named : item.filename? with
      | none =>
          obtain rfl : none = path := by simpa [named] using here
          rw [ite_self] at kept
          simpa [named, kept] using ih behind later
      | some filename =>
          have notText : item.isText = false := by
            cases item <;> simp_all [TimelineItem.filename?, TimelineItem.isText]
          rw [notText, if_neg Bool.false_ne_true] at kept
          rw [named] at here
          dsimp only at here
          split at here
          next found known =>
            obtain rfl := Option.some.inj here
            simpa [named, kept] using ⟨known, ih behind later⟩
          next => simp at here

/-- The files of a timeline are those that its composition names, in order. -/
theorem paths_of_resolve {options : Options} {assets : AssetLookup} {prober : Prober}
    {spec : RenderSpec} {timeline : ResolvedTimeline}
    (resolves : (resolve options assets prober spec).2 = .ok timeline) :
    List.Forall₂ (fun filename path => assets filename = .ok path)
      (spec.timeline.filterMap (·.filename?)) (timeline.items.filterMap (·.path)) := by
  obtain ⟨-, located, progress, found, -, placed, -⟩ := resolve_ok_iff.mp resolves
  have named : (itemsOf spec).filterMap (·.filename?) = spec.timeline.filterMap (·.filename?) := by
    simp [itemsOf, List.filterMap_map, TimelineItem.filename?]
  rw [← named]
  exact paths_of_placeAll found placed

/-- An item as it is placed: in its turn with some length if it has a picture, and
otherwise without an effect on the turns of others. -/
structure Placed (progress next : Progress) (resolved : ResolvedItem) : Prop where
  start : resolved.isShown → resolved.start = progress.cursor
  cursor : next.cursor =
    if resolved.isShown then progress.cursor + resolved.duration else progress.cursor
  lasts : resolved.isShown → ¬ resolved.duration ≤ 0
  begins : ∀ clip, resolved.item = .audio clip → ¬ resolved.start < 0

theorem placed_of_place
    (taken : place fallback progress item path probe = .ok (next, resolved)) :
    Placed progress next resolved := by
  obtain ⟨duration, -, lasts, begins, rfl, rfl⟩ := place_ok_iff.mp taken
  cases item with
  | video clip =>
      exact ⟨fun _ => rfl, rfl, fun _ => lasts (by simp [TimelineItem.isText]), by simp [settle]⟩
  | image clip =>
      exact ⟨fun _ => rfl, rfl, fun _ => lasts (by simp [TimelineItem.isText]), by simp [settle]⟩
  | audio clip =>
      exact ⟨by simp [isShown, settle], rfl, by simp [isShown, settle], fun _ _ => begins rfl⟩
  | text overlay =>
      exact ⟨by simp [isShown, settle], rfl, by simp [isShown, settle], by simp [settle]⟩

/-- In a run of placements every item finds the cursor where the pictures before it
end. -/
theorem placed_of_placeAll {before after : List ResolvedItem}
    (taken : placeAll fallback probes progress located =
      .ok (next, before ++ resolved :: after)) :
    ∃ current following, Placed current following resolved ∧
      current.cursor = (shownDurations before).foldl (· + ·) progress.cursor := by
  induction located generalizing progress before with
  | nil => simp [placeAll] at taken
  | cons entry located ih =>
      obtain ⟨middle, first, others, here, rest, split⟩ := placeAll_cons_ok_iff.mp taken
      have placed := placed_of_place here
      cases before with
      | nil =>
          obtain ⟨rfl, rfl⟩ := List.cons.inj split
          exact ⟨progress, middle, placed, rfl⟩
      | cons head before =>
          obtain ⟨rfl, rfl⟩ := List.cons.inj split
          obtain ⟨current, following, placed', cursor⟩ := ih rest
          refine ⟨current, following, placed', ?_⟩
          rw [cursor, placed.cursor]
          by_cases shown : head.isShown <;> simp [shownDurations, shown]

/-- A resolved item stands where the pictures before it end, if it has a picture. -/
theorem placed_of_resolve {options : Options} {assets : AssetLookup} {prober : Prober}
    {spec : RenderSpec} {cache : ProbeCache} {timeline : ResolvedTimeline}
    {before after : List ResolvedItem}
    (resolves : resolve options assets prober spec = (cache, .ok timeline))
    (split : timeline.items = before ++ resolved :: after) :
    ∃ current following, Placed current following resolved ∧
      current.cursor = (shownDurations before).foldl (· + ·) .zero := by
  obtain ⟨-, located, progress, -, -, placed, -⟩ := resolve_ok_iff.mp (congrArg Prod.snd resolves)
  rw [split] at placed
  exact placed_of_placeAll placed

section Foreseen

variable {assets : AssetLookup} {prober : Prober}

theorem locate_ne_fault {listed : List TimelineItem}
    (answered : ∀ item ∈ listed, ∀ name, item.filename? = some name →
      ∀ fault, assets name ≠ .error (.fault fault)) (fault : Fault) :
    locate assets listed ≠ .error (.fault fault) := by
  induction listed with
  | nil => simp [locate]
  | cons item listed ih =>
      obtain ⟨here, later⟩ := List.forall_mem_cons.mp answered
      have behind := ih later
      cases named : item.filename? with
      | none =>
          cases found : locate assets listed <;> simp_all [locate, bind, Except.bind]
      | some filename =>
          cases given : assets filename with
          | error reason =>
              cases reason with
              | rejected reason => simp [locate, named, given]
              | fault cause => exact absurd given (here filename named cause)
          | ok path =>
              cases found : locate assets listed <;> simp_all [locate, bind, Except.bind]

/-- Where every lookup answers, resolution breaks off exactly if a path that is asked for has no
outcome. -/
theorem resolve_fault_iff {spec : RenderSpec}
    (answered : ∀ item ∈ spec.timeline, ∀ name, item.filename? = some name →
      ∀ fault, assets name ≠ .error (.fault fault)) (options : Options) :
    (∃ fault, (resolve options assets prober spec).2 = .error (.fault fault)) ↔
      ¬ ProbeCache.Answered prober (resolve options assets prober spec).1 := by
  have listed : ∀ item ∈ itemsOf spec, ∀ name, item.filename? = some name →
      ∀ fault, assets name ≠ .error (.fault fault) := by
    intro item member
    rcases List.mem_append.mp member with own | text
    · exact answered item own
    · obtain ⟨overlay, -, rfl⟩ := List.mem_map.mp text
      intro name named
      simp [TimelineItem.filename?] at named
  have unasked : ProbeCache.Answered prober .empty := ProbeCache.answered_empty
  unfold resolve
  split
  · simp [unasked]
  · cases found : locate assets (itemsOf spec) with
    | error reason =>
        have located := locate_ne_fault listed
        rw [found] at located
        simpa [unasked] using located
    | ok located =>
        have many := ProbeCache.answered_probeMany_iff prober options.parallelism
          (probedPaths located)
        dsimp only
        rcases probed : ProbeCache.probeMany prober options.parallelism .empty
          (probedPaths located) with ⟨cache, fault | probes⟩
        · simpa [probed] using many
        · have all : ProbeCache.Answered prober cache := by simpa [probed] using many
          dsimp only
          split <;> simp [all]

/-- Resolution breaks off only where a lookup or a probe does. -/
theorem resolve_ne_fault {spec : RenderSpec}
    (answered : ∀ item ∈ spec.timeline, ∀ name, item.filename? = some name →
      ∀ fault, assets name ≠ .error (.fault fault))
    (probed : ∀ path fault, prober path ≠ .error (.fault fault)) (options : Options)
    (fault : Fault) : (resolve options assets prober spec).2 ≠ .error (.fault fault) := by
  intro broken
  exact (resolve_fault_iff answered options).mp ⟨fault, broken⟩ fun path _ =>
    ProbeCache.isSome_outcome?_iff.mpr (probed path)

end Foreseen

end Resolution

end Montage
