import Montage.Proofs.Encode.Stream
import Montage.Proofs.Jobs.Underway

/-!
# Progress as a maximum

A job in its slot has made as much progress as the largest percentage that was reported of it.
A translator leaves out percentages below others that it passed on, which changes nothing.
-/

namespace Montage.Jobs

open Encode

namespace Registry

variable {registry : Registry} {id : String} {job : Job} {progress percent : Int}

/-- A job that has not settled and made some progress. -/
def IsAt (registry : Registry) (id : String) (progress : Int) : Prop :=
  ∃ job, registry.find? id = some job ∧ job.settled = false ∧ job.progress = progress

theorem IsAt.updateProgress (reached : registry.IsAt id progress) (bounded : percent ≤ 100) :
    (registry.updateProgress id percent).IsAt id (max progress percent) := by
  obtain ⟨job, known, unsettled, rfl⟩ := reached
  rcases updateProgress_cases registry id percent with ⟨same, found, counts, moved⟩ | ⟨rests, same⟩
  · obtain rfl := Option.some.inj (known.symm.trans found)
    have named := (find?_some found).2
    have changed := (find?_change (fun _ => job.advance percent) found fun _ _ => named).1
    rw [moved, max_eq_right counts.2.le]
    exact ⟨job.advance percent, changed, unsettled, min_eq_right bounded⟩
  · have below : percent ≤ job.progress := not_lt.mp fun above => rests job known ⟨unsettled, above⟩
    rw [same, max_eq_left below]
    exact ⟨job, known, unsettled, rfl⟩

/-- A percentage that is not passed on is below another, so the maximum stays. -/
theorem IsAt.passTo {start : Int} {seen : List Int}
    (reached : registry.IsAt id (seen.foldl max start)) (bounded : percent ≤ 100) :
    (Translator.passTo (fun registry percent => registry.updateProgress id percent) registry
      (if ∀ earlier ∈ seen, earlier < percent then some percent else none)).IsAt id
      ((seen ++ [percent]).foldl max start) := by
  split
  next above =>
    rw [List.foldl_append]
    exact reached.updateProgress bounded
  next below =>
    rw [foldl_max_eq, max?_concat_of_not_above below, ← foldl_max_eq]
    exact reached

/-- The percentages of all markers are at most a hundred, so a job whose registry hears a
translator is at the largest of them. -/
theorem IsAt.exists_foldlM_feed {α : Type} [Measure α] {total : α} {value : α → Int}
    {markers : List α} (reached : registry.IsAt id progress)
    (translated : ∀ elapsed ∈ markers, percentage total elapsed = .ok (value elapsed))
    (bounded : ∀ elapsed ∈ markers, value elapsed ≤ 100) :
    ∃ translator after, markers.foldlM (Translator.feed (Translator.passTo
        fun registry percent => registry.updateProgress id percent))
        (.start total, registry) = .ok (translator, after) ∧
      after.IsAt id ((markers.map value).foldl max progress) := by
  obtain ⟨after, runs, ends⟩ := Translator.exists_foldlM_feed
    (Translator.passTo fun (registry : Registry) percent => registry.updateProgress id percent) []
    (fun seen registry => registry.IsAt id (seen.foldl max progress)) translated
    (fun _ _ elapsed member reached => reached.passTo (bounded elapsed member)) reached
  exact ⟨_, after, runs, ends⟩

/-- After the actions of an encoder, its job is at the largest percentage of the elapsed times
that they report. -/
theorem IsAt.follow {total : Binary64} {value : Binary64 → Int} {actions : List Action}
    (reached : registry.IsAt id progress) (before : Option String) (cancelled : Bool)
    (read : ∀ text, .line text ∈ performed actions → ∃ marker, Marker.read text = .ok marker)
    (translated : ∀ elapsed ∈ elapsedTimes actions,
      percentage total elapsed = .ok (value elapsed)) :
    (Encode.follow (Watch.listen fun registry percent => registry.updateProgress id percent)
        ⟨.start total registry, before, cancelled⟩ actions).1.listener.receiver.IsAt id
      (((elapsedTimes actions).map value).foldl max progress) := by
  obtain ⟨translator, after, runs, ends⟩ := reached.exists_foldlM_feed translated
    fun elapsed member => (percentage_bounds (translated elapsed member)).2
  obtain ⟨last, listens⟩ :=
    exists_foldlM_listen_progress (Watch.start total registry) runs
  obtain ⟨requested, followed⟩ :=
    follow_eq ⟨Watch.start total registry, before, cancelled⟩ read listens
  rw [followed]
  exact ends

section Shares

variable {total : Rat} {markers others : List Rat}

theorem getD_max?_share (total : Rat) (markers : List Rat) :
    (markers.map (share total)).foldl max 0 = (markers.map (share total)).max?.getD 0 := by
  rw [foldl_max_eq]
  cases known : (markers.map (share total)).max? with
  | none => rfl
  | some largest =>
      obtain ⟨member, -⟩ := List.max?_eq_some_iff.mp known
      obtain ⟨elapsed, -, rfl⟩ := List.mem_map.mp member
      exact max_eq_right (share_nonneg total elapsed)

/-- In exact arithmetic a translator answers each marker with its percentage when that exceeds all
earlier answers.  The last answer, and the progress of a job that had made none, is the largest
percentage so far, whatever the order of the markers and however often they are repeated. -/
theorem progress_eq_largest_share (total : Rat) (markers : List Rat)
    (found : registry.find? id = some job) (unsettled : job.settled = false)
    (unstarted : job.progress = 0) :
    (∃ given, (Translator.start total).answers markers = .ok given ∧
      Records (markers.map (share total)) given ∧
      (∀ percent ∈ given.reduceOption, 0 ≤ percent ∧ percent ≤ 100) ∧
      ∀ others, (∀ elapsed, elapsed ∈ others ↔ elapsed ∈ markers) →
        ∃ given', (Translator.start total).answers others = .ok given' ∧
          given'.reduceOption.getLast? = given.reduceOption.getLast?) ∧
    (∀ elapsed later, elapsed ≤ later → share total elapsed ≤ share total later) ∧
    (∀ elapsed, total ≤ elapsed → share total elapsed = 100) ∧
    ∀ before, before <+: markers →
      ∃ translator after, before.foldlM (Translator.feed (Translator.passTo
          fun registry percent => registry.updateProgress id percent))
          (.start total, registry) = .ok (translator, after) ∧
        after.IsAt id ((before.map (share total)).max?.getD 0) := by
  have translated : ∀ markers : List Rat, ∀ elapsed ∈ markers,
      percentage total elapsed = .ok (share total elapsed) :=
    fun _ elapsed _ => percentage_eq_share total elapsed
  refine ⟨?_, fun _ _ order => share_mono total order, fun _ past => share_of_le past,
    fun before _ => ?_⟩
  · obtain ⟨given, answered, records⟩ := Translator.exists_answers (translated markers)
    refine ⟨given, answered, records, fun percent member => ?_, fun others same => ?_⟩
    · obtain ⟨elapsed, -, rfl⟩ := List.mem_map.mp (records.given percent member)
      exact ⟨share_nonneg total elapsed, share_le_hundred total elapsed⟩
    · obtain ⟨given', answered', records'⟩ := Translator.exists_answers (translated others)
      refine ⟨given', answered', ?_⟩
      rw [records'.largest, records.largest]
      apply max?_eq_of_mem_iff
      simp [same]
  · rw [← getD_max?_share]
    have reached : registry.IsAt id 0 := ⟨job, found, unsettled, unstarted⟩
    exact reached.exists_foldlM_feed (translated before)
      fun elapsed _ => share_le_hundred total elapsed

/-- A first job of eight seconds, with markers that go back and repeat.  One second is half a
percent above twelve. -/
theorem progress_eq_largest_share_backwards :
    let registry := ((Registry.start 2 8 1000).create []).1
    let markers : List Rat := [1, -3, 4, 2, 4, 1]
    (Translator.start 8).answers markers = .ok [some 13, none, some 50, none, none, none] ∧
    ∃ translator after, markers.foldlM (Translator.feed (Translator.passTo
        fun registry percent => registry.updateProgress "job-1" percent))
        (.start 8, registry) = .ok (translator, after) ∧ after.IsAt "job-1" 50 := by
  intro registry markers
  have found : registry.find? "job-1" = some (Job.accepted "job-1" 1000 []) := rfl
  obtain ⟨-, -, -, reached⟩ := progress_eq_largest_share 8 markers found rfl rfl
  refine ⟨by decide +kernel, ?_⟩
  have largest : ((markers.map (share 8)).max?).getD 0 = 50 := by decide +kernel
  rw [← largest]
  exact reached markers (List.prefix_refl markers)

end Shares

end Registry

end Montage.Jobs
