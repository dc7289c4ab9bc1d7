import Montage.Proofs.Numeric.Rounding
import Montage.Proofs.Timeline.Resolution

/-!
# Layout

The items with a picture lie end to end from zero on.  An audio clip lies where it is put, or
where the pictures listed before it end.  The total duration is the latest of these ends.
-/

namespace Montage

def Cut.times : Cut → List Binary64
  | .between start finish => [start, finish]
  | .whole => []

namespace TimelineItem

/-- The times that an item with an asset gives: its start, its length and the ends of its cut. -/
def clipTimes : TimelineItem → List Binary64
  | .video clip => (clip.cut.map Cut.times).getD []
  | .image clip => [clip.duration]
  | .audio clip =>
      clip.startTime.toList ++ (clip.cut.map Cut.times).getD [] ++ clip.duration.toList
  | .text _ => []

end TimelineItem

namespace ResolvedItem

/-- The end of the last item with a picture, which is zero if there is none. -/
def backboneEnd (items : List ResolvedItem) : Binary64 :=
  ((items.filter isShown).getLast?.map finish).getD .zero

/-- The ends that bound a timeline: zero, that of the pictures and those of the audio clips. -/
def ends (items : List ResolvedItem) : List Binary64 :=
  .zero :: backboneEnd items :: (items.filter (·.item.isAudio)).map finish

theorem backboneEnd_append (items : List ResolvedItem) (resolved : ResolvedItem) :
    backboneEnd (items ++ [resolved]) =
      if resolved.isShown then resolved.finish else backboneEnd items := by
  by_cases shown : resolved.isShown <;> simp [backboneEnd, List.filter_append, shown]

theorem mem_ends_append {items : List ResolvedItem} {resolved : ResolvedItem} {time : Binary64} :
    time ∈ ends (items ++ [resolved]) ↔
      time = .zero ∨ (time = if resolved.isShown then resolved.finish else backboneEnd items) ∨
        time ∈ (items.filter (·.item.isAudio)).map finish ∨
        (resolved.item.isAudio ∧ time = resolved.finish) := by
  rw [ends, backboneEnd_append, List.filter_append, List.map_append]
  by_cases audio : resolved.item.isAudio <;> simp [audio]

theorem ends_append_of_isText {items : List ResolvedItem} {resolved : ResolvedItem}
    (text : resolved.item.isText) : ends (items ++ [resolved]) = ends items := by
  have shown : ¬ resolved.isShown := by simp [isShown_iff, text]
  have audio : ¬ resolved.item.isAudio := by
    cases kind : resolved.item <;> simp_all [TimelineItem.isText, TimelineItem.isAudio]
  rw [ends, backboneEnd_append, List.filter_append]
  simp [ends, shown, audio]

theorem finish_mem_ends_append {items : List ResolvedItem} {resolved : ResolvedItem}
    (notText : ¬ resolved.item.isText) : resolved.finish ∈ ends (items ++ [resolved]) := by
  rw [mem_ends_append]
  by_cases shown : resolved.isShown
  · exact .inr (.inl (if_pos shown).symm)
  · have audio : resolved.item.isAudio := by
      by_contra notAudio
      exact shown (isShown_iff.mpr ⟨notAudio, notText⟩)
    exact .inr (.inr (.inr ⟨audio, rfl⟩))

/-- An end that a further item does not pass still bounds the timeline. -/
theorem mem_ends_append_of_mem {items : List ResolvedItem} {resolved : ResolvedItem}
    {time : Binary64} (member : time ∈ ends items) (later : 0 < resolved.finish)
    (reaches : resolved.finish ≤ time)
    (passes : resolved.isShown → backboneEnd items ≤ resolved.finish) :
    time ∈ ends (items ++ [resolved]) := by
  rw [mem_ends_append]
  rcases List.mem_cons.mp member with zero | member
  · exact .inl zero
  rcases List.mem_cons.mp member with pictures | audio
  · refine .inr (.inl ?_)
    split
    -- The pictures ended at this time, and a further one ends neither before nor behind it.
    next shown => exact (Binary64.eq_of_le_of_le later reaches (pictures ▸ passes shown)).symm
    next => exact pictures
  · exact .inr (.inr (.inl audio))

/-- The ends that bound a timeline are zero and ends of items that are no texts. -/
theorem mem_ends {items : List ResolvedItem} {time : Binary64} (member : time ∈ ends items) :
    time = .zero ∨ ∃ resolved ∈ items, ¬ resolved.item.isText ∧ time = resolved.finish := by
  rcases List.mem_cons.mp member with zero | member
  · exact .inl zero
  rcases List.mem_cons.mp member with pictures | audio
  · cases last : (items.filter isShown).getLast? with
    | none => exact .inl (by simp [pictures, backboneEnd, last])
    | some resolved =>
        obtain ⟨member, shown⟩ := List.mem_filter.mp (List.mem_of_getLast? last)
        refine .inr ⟨resolved, member, (isShown_iff.mp shown).2, ?_⟩
        simp [pictures, backboneEnd, last]
  · obtain ⟨resolved, found, rfl⟩ := List.mem_map.mp audio
    obtain ⟨member, audio⟩ := List.mem_filter.mp found
    refine .inr ⟨resolved, member, ?_, rfl⟩
    cases kind : resolved.item <;> simp_all [TimelineItem.isAudio, TimelineItem.isText]

end ResolvedItem

namespace Resolution

open ResolvedItem

variable {fallback : Binary64} {item : TimelineItem} {path : Option Path}
  {probe : Option ProbeResult} {progress next : Progress} {resolved : ResolvedItem}

/-- Items that start where they have to, and whose pictures end at the cursor. -/
structure Laid (progress : Progress) (items : List ResolvedItem) : Prop where
  cursor : progress.cursor = backboneEnd items
  starts : ∀ before resolved after, items = before ++ resolved :: after →
    resolved.start = resolved.item.startAt (backboneEnd before)

theorem laid_nil : Laid ⟨.zero, .zero⟩ [] := ⟨rfl, by simp⟩

theorem Laid.place {items : List ResolvedItem} (laid : Laid progress items)
    (placed : place fallback progress item path probe = .ok (next, resolved)) :
    Laid next (items ++ [resolved]) := by
  obtain ⟨duration, -, -, -, same, rfl⟩ := place_ok_iff.mp placed
  have start : resolved.start = resolved.item.startAt progress.cursor := by
    rw [same]
    rfl
  refine ⟨?_, fun before other after split => ?_⟩
  · rw [backboneEnd_append, ← laid.cursor]
    rfl
  · rcases List.eq_nil_or_concat after with rfl | ⟨front, last, rfl⟩
    · obtain ⟨rfl, same⟩ := List.append_inj' split rfl
      obtain rfl := List.singleton_inj.mp same
      rw [start, laid.cursor]
    · have split : items ++ [resolved] = (before ++ other :: front) ++ [last] := by
        simpa using split
      exact laid.starts before other front (List.append_inj' split rfl).1

/-- What each placement keeps of the items so far is kept by a run of placements. -/
theorem placeAll_induction {motive : Progress → List ResolvedItem → Prop}
    {probes : List (Path × Option ProbeResult)} {located : List (TimelineItem × Option Path)}
    {before items : List ResolvedItem}
    (step : ∀ {progress next : Progress} {before : List ResolvedItem} {resolved : ResolvedItem}
      {entry : TimelineItem × Option Path}, motive progress before →
      place fallback progress entry.1 entry.2 (probeAt probes entry.2) = .ok (next, resolved) →
      motive next (before ++ [resolved]))
    (start : motive progress before)
    (placed : placeAll fallback probes progress located = .ok (next, items)) :
    motive next (before ++ items) := by
  induction located generalizing progress before items with
  | nil =>
      obtain ⟨rfl, rfl⟩ := placeAll_nil_ok_iff.mp placed
      rwa [List.append_nil]
  | cons entry located ih =>
      obtain ⟨middle, first, others, here, rest, rfl⟩ := placeAll_cons_ok_iff.mp placed
      rw [← List.singleton_append, ← List.append_assoc]
      exact ih (step start here) rest

/-- Whether the times of an item are numbers as far as the total duration depends on them. -/
def IsTimed (resolved : ResolvedItem) : Prop :=
  (¬ resolved.item.isText → resolved.duration ≠ .nan) ∧
    ∀ clip, resolved.item = .audio clip → clip.startTime ≠ some .nan

/-- Items that start from zero on and take some time, and a total duration that is the latest of
their ends. -/
structure Bounded (progress : Progress) (items : List ResolvedItem) : Prop where
  cursor : 0 ≤ progress.cursor
  total : 0 ≤ progress.total
  attained : progress.total ∈ ends items
  within : ∀ resolved ∈ items, ¬ resolved.item.isText →
    0 ≤ resolved.start ∧ 0 < resolved.duration ∧ resolved.finish ≤ progress.total

theorem bounded_nil : Bounded ⟨.zero, .zero⟩ [] :=
  ⟨by decide, by decide, by simp [ends], by simp⟩

/-- What is placed starts from zero on and takes some time. -/
theorem positive_of_place (nonneg : 0 ≤ progress.cursor)
    (placed : place fallback progress item path probe = .ok (next, resolved))
    (timed : IsTimed resolved) (notText : ¬ resolved.item.isText) :
    0 ≤ resolved.start ∧ 0 < resolved.duration := by
  obtain ⟨duration, -, lasts, begins, rfl, -⟩ := place_ok_iff.mp placed
  have zero : (0 : Binary64) ≠ .nan := by decide
  refine ⟨?_, Binary64.lt_of_not_le (timed.1 notText) zero (lasts notText)⟩
  change 0 ≤ item.startAt progress.cursor
  cases item with
  | video clip => exact nonneg
  | image clip => exact nonneg
  | text overlay => exact absurd rfl notText
  | audio clip =>
      refine Binary64.le_of_not_lt ?_ zero (begins rfl)
      have given := timed.2 clip rfl
      cases start : clip.startTime with
      | none => simpa [TimelineItem.startAt, start] using (Binary64.ne_nan_of_le nonneg).2
      | some time =>
          rw [start] at given
          simpa [TimelineItem.startAt, start] using given

theorem Bounded.place {items : List ResolvedItem} (bounded : Bounded progress items)
    (laid : Laid progress items)
    (placed : place fallback progress item path probe = .ok (next, resolved))
    (timed : IsTimed resolved) : Bounded next (items ++ [resolved]) := by
  have positive := positive_of_place bounded.cursor placed timed
  obtain ⟨-, -, -, -, -, rfl⟩ := place_ok_iff.mp placed
  by_cases text : resolved.item.isText
  · have shown : ¬ resolved.isShown := by simp [isShown_iff, text]
    have same : progress.advance resolved = progress := by simp [Progress.advance, shown, text]
    rw [same]
    refine ⟨bounded.cursor, bounded.total, ?attained, ?within⟩
    case attained =>
      rw [ends_append_of_isText text]
      exact bounded.attained
    case within =>
      intro other member notText
      rcases List.mem_append.mp member with old | new
      · exact bounded.within other old notText
      · exact absurd text (List.mem_singleton.mp new ▸ notText)
  · obtain ⟨start, duration⟩ := positive text
    have later : 0 < resolved.finish := Binary64.add_pos start duration
    have known := (Binary64.ne_nan_of_le bounded.total).2
    have known' := (Binary64.ne_nan_of_le (Binary64.le_of_lt later)).2
    have total : (progress.advance resolved).total = progress.total.larger resolved.finish := by
      simp [Progress.advance, text]
    have grows := Binary64.le_larger_left known resolved.finish
    have reaches := Binary64.le_larger_right known known'
    constructor
    case cursor =>
      unfold Progress.advance
      dsimp only
      split
      · exact Binary64.le_of_lt later
      · exact bounded.cursor
    case total =>
      rw [total]
      exact Binary64.le_trans bounded.total grows
    case attained =>
      rw [total]
      rcases Binary64.larger_eq_or progress.total resolved.finish with stays | moves
      · rw [stays] at reaches ⊢
        refine mem_ends_append_of_mem bounded.attained later reaches fun shown => ?_
        rw [← laid.cursor, ← (placed_of_place placed).start shown]
        exact Binary64.le_add_of_nonneg start (Binary64.le_of_lt duration)
      · rw [moves]
        exact finish_mem_ends_append text
    case within =>
      intro other member notText
      rw [total]
      rcases List.mem_append.mp member with old | new
      · obtain ⟨start, duration, within⟩ := bounded.within other old notText
        exact ⟨start, duration, Binary64.le_trans within grows⟩
      · obtain rfl := List.mem_singleton.mp new
        exact ⟨start, duration, reaches⟩

theorem bounded_of_placeAll {probes : List (Path × Option ProbeResult)}
    {located : List (TimelineItem × Option Path)} {items : List ResolvedItem}
    (placed : placeAll fallback probes ⟨.zero, .zero⟩ located = .ok (next, items))
    (timed : ∀ resolved ∈ items, IsTimed resolved) : Bounded next items := by
  have both := placeAll_induction
    (motive := fun progress items => Laid progress items ∧
      ((∀ resolved ∈ items, IsTimed resolved) → Bounded progress items))
    (fun ⟨laid, bounded⟩ here => ⟨laid.place here, fun timed => by
      obtain ⟨before, last⟩ := List.forall_mem_append.mp timed
      exact (bounded before).place laid here (last _ (List.mem_singleton_self _))⟩)
    ⟨laid_nil, fun _ => bounded_nil⟩ placed
  exact both.2 timed

/-- The length of a file is no number when that is what its probe says. -/
theorem probedDuration_eq_nan_iff (known : fallback ≠ .nan) :
    probedDuration fallback probe = .nan ↔
      ∃ result, probe = some result ∧ result.duration = .nan := by
  cases probe with
  | none => simp [probedDuration, known]
  | some result =>
      by_cases empty : result.duration ≤ 0
      · have number := (Binary64.ne_nan_of_le empty).1
        simp [probedDuration, empty, known, number]
      · simp [probedDuration, empty]

theorem cutLength_ne_nan {filename : String} {cut : Option Cut} {length : Binary64}
    (finite : ∀ time ∈ (cut.map Cut.times).getD [], time.toRat?.isSome)
    (taken : cutLength filename cut = .ok (some length)) : length ≠ .nan := by
  unfold cutLength at taken
  split at taken
  · simp at taken
  · simp at taken
  next start finish =>
    split at taken
    · simp at taken
    · obtain rfl := Option.some.inj (Except.ok.inj taken)
      have negated : -start ≠ .nan := Binary64.neg_ne_nan
        (Binary64.ne_nan_of_isSome (finite start (by simp [Cut.times])))
      exact Binary64.add_ne_nan (finite finish (by simp [Cut.times])) negated

theorem isTimed_of_place (finite : ∀ time ∈ item.clipTimes, time.toRat?.isSome)
    (known : fallback ≠ .nan)
    (probed : ∀ result, probe = some result → result.duration.toRat?.isSome)
    (placed : place fallback progress item path probe = .ok (next, resolved)) :
    IsTimed resolved := by
  obtain ⟨duration, taken, -, -, rfl, -⟩ := place_ok_iff.mp placed
  have isNumber : ∀ time ∈ item.clipTimes, time ≠ .nan := fun time member =>
    Binary64.ne_nan_of_isSome (finite time member)
  have either : probedDuration fallback probe ≠ .nan := by
    rw [ne_eq, probedDuration_eq_nan_iff known]
    rintro ⟨result, asked, undefined⟩
    exact Binary64.ne_nan_of_isSome (probed result asked) undefined
  constructor
  · intro notText
    change duration ≠ .nan
    cases item with
    | text overlay => exact absurd rfl notText
    | image clip =>
        obtain rfl := Except.ok.inj taken
        exact isNumber _ (by simp [TimelineItem.clipTimes])
    | video clip =>
        cases named : cutLength clip.filename clip.cut with
        | error reason => simp [lengthOf, named, Except.map] at taken
        | ok cut =>
            simp only [lengthOf, named, Except.map, Except.ok.injEq] at taken
            subst taken
            cases cut with
            | none => exact either
            | some length => exact cutLength_ne_nan finite named
    | audio clip =>
        cases named : cutLength clip.filename clip.cut with
        | error reason => simp [lengthOf, named, Except.map] at taken
        | ok cut =>
            simp only [lengthOf, named, Except.map, Except.ok.injEq] at taken
            subst taken
            cases given : clip.duration with
            | some length => exact isNumber _ (by simp [TimelineItem.clipTimes, given])
            | none =>
                cases cut with
                | none => exact either
                | some length =>
                    refine cutLength_ne_nan (fun time member => finite time ?_) named
                    simp [TimelineItem.clipTimes, member]
  · rintro clip rfl start
    exact isNumber .nan (by simp [TimelineItem.clipTimes, start]) rfl

section Resolve

variable {options : Options} {assets : AssetLookup} {prober : Prober} {spec : RenderSpec}
  {timeline : ResolvedTimeline}

theorem laid_of_resolve (resolves : (resolve options assets prober spec).2 = .ok timeline) :
    (∃ progress, Laid progress timeline.items) ∧
      timeline.items.map (·.item) = itemsOf spec := by
  obtain ⟨-, located, progress, found, -, placed, -⟩ := resolve_ok_iff.mp resolves
  have laid := placeAll_induction (fun laid here => Laid.place laid here) laid_nil placed
  exact ⟨⟨progress, laid⟩, (item_of_placeAll placed).trans (map_fst_of_locate found)⟩

theorem bounded_of_resolve (resolves : (resolve options assets prober spec).2 = .ok timeline)
    (timed : ∀ resolved ∈ timeline.items, IsTimed resolved) :
    ∃ progress, Bounded progress timeline.items ∧ progress.total = timeline.totalDuration := by
  obtain ⟨-, located, progress, -, -, placed, total⟩ := resolve_ok_iff.mp resolves
  exact ⟨progress, bounded_of_placeAll placed timed, total.symm⟩

/-- In a composition of finite times, and with finite probes, all times that the total duration
depends on are numbers. -/
theorem isTimed_of_resolve (resolves : (resolve options assets prober spec).2 = .ok timeline)
    (finite : ∀ item ∈ spec.timeline, ∀ time ∈ item.clipTimes, time.toRat?.isSome)
    (known : options.fallbackDuration ≠ .nan)
    (probed : ∀ path result, prober path = .ok result → result.duration.toRat?.isSome) :
    ∀ resolved ∈ timeline.items, IsTimed resolved := by
  intro resolved member
  obtain ⟨located, entry, before, after, found, listed, here⟩ :=
    exists_place_of_resolve resolves member
  refine isTimed_of_place (fun time given => ?_) known (fun result asked => ?_) here
  · have item : entry.1 ∈ itemsOf spec :=
      map_fst_of_locate found ▸ List.mem_map_of_mem listed
    rcases List.mem_append.mp item with own | text
    · exact finite _ own time given
    · obtain ⟨overlay, -, same⟩ := List.mem_map.mp text
      simp [← same, TimelineItem.clipTimes] at given
  · obtain ⟨path, answered⟩ := ok_of_probeAt asked
    exact probed path result answered

end Resolve

end Resolution

end Montage
