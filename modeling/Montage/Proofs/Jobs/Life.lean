import Montage.Jobs.Job
import Montage.Proofs.Numeric.Order

/-!
# The life of a job

What holds of a job at every moment, and what never changes back.  The state and the
settlement of a job are two things: a job counts as finished as soon as its encoder reports
the full duration, but its end is recorded only later, and may then be a failure.
-/

namespace Montage.Jobs.Job

/-- What holds of every job. -/
structure Sound (job : Job) : Prop where
  progress : 0 ≤ job.progress ∧ job.progress ≤ 100
  processing : job.state = .processing →
    job.settled = false ∧ job.progress < 100 ∧ job.output = none ∧ job.failure = none
  finished : job.state = .finished → job.settled = false →
    job.progress = 100 ∧ job.output = none
  failed : job.state = .failed →
    job.settled = true ∧ job.failure.isSome ∧ job.output = none
  output : job.output.isSome → job.settled = true ∧ job.state = .finished
  failure : job.failure.isSome → job.settled = true ∧ job.state = .failed
  ended : job.settled = true ↔ job.finishedAt.isSome
  time : ∀ time, job.finishedAt = some time → 0 < time

/-- Whether the recorded end of a job is that of another. -/
structure SameEnd (job after : Job) : Prop where
  settled : after.settled = job.settled
  state : after.state = job.state
  progress : after.progress = job.progress
  output : after.output = job.output
  failure : after.failure = job.failure
  finishedAt : after.finishedAt = job.finishedAt

structure Later (job after : Job) : Prop where
  id : after.id = job.id
  startedAt : after.startedAt = job.startedAt
  sound : after.Sound
  progress : job.progress ≤ after.progress
  ended : job.settled = true → job.SameEnd after

variable {job after last : Job} {time : Binary64}

theorem SameEnd.refl (job : Job) : job.SameEnd job := ⟨rfl, rfl, rfl, rfl, rfl, rfl⟩

theorem SameEnd.trans (first : job.SameEnd after) (second : after.SameEnd last) :
    job.SameEnd last :=
  ⟨second.settled.trans first.settled, second.state.trans first.state,
    second.progress.trans first.progress, second.output.trans first.output,
    second.failure.trans first.failure, second.finishedAt.trans first.finishedAt⟩

theorem Sound.of_sameEnd (sound : job.Sound) (same : job.SameEnd after) : after.Sound := by
  obtain ⟨settled, state, progress, output, failure, finishedAt⟩ := same
  constructor
  · rw [progress]
    exact sound.progress
  · rw [state, settled, progress, output, failure]
    exact sound.processing
  · rw [state, settled, progress, output]
    exact sound.finished
  · rw [state, settled, failure, output]
    exact sound.failed
  · rw [output, settled, state]
    exact sound.output
  · rw [failure, settled, state]
    exact sound.failure
  · rw [settled, finishedAt]
    exact sound.ended
  · rw [finishedAt]
    exact sound.time

theorem Later.refl (sound : job.Sound) : job.Later job :=
  ⟨rfl, rfl, sound, le_refl _, fun _ => SameEnd.refl job⟩

theorem Later.trans (first : job.Later after) (second : after.Later last) :
    job.Later last where
  id := second.id.trans first.id
  startedAt := second.startedAt.trans first.startedAt
  sound := second.sound
  progress := first.progress.trans second.progress
  ended := fun settled =>
    have same := first.ended settled
    same.trans (second.ended (same.settled.trans settled))

/-- What does not touch the end of a job may happen to it at any time. -/
theorem Later.of_sameEnd (sound : job.Sound) (id : after.id = job.id)
    (startedAt : after.startedAt = job.startedAt) (same : job.SameEnd after) :
    job.Later after :=
  ⟨id, startedAt, sound.of_sameEnd same, same.progress.ge, fun _ => same⟩

theorem sound_accepted (id : String) (startedAt : Binary64) (inputs : List Path) :
    (accepted id startedAt inputs).Sound := by
  constructor <;> simp [accepted]

/-- A job that is not settled has neither an output, nor a failure, nor the time of an
end. -/
theorem Sound.open (sound : job.Sound) (unsettled : job.settled = false) :
    job.state ≠ .failed ∧ job.output = none ∧ job.failure = none ∧
      job.finishedAt = none := by
  refine ⟨fun failed => ?_, ?_, ?_, ?_⟩
  · simpa [unsettled] using (sound.failed failed).1
  · have output := sound.output
    simpa [unsettled] using output
  · have failure := sound.failure
    simpa [unsettled] using failure
  · have ended := sound.ended
    simpa [unsettled] using ended

/-- A report above the progress of a job that is not settled moves it on. -/
theorem Sound.later_advance (sound : job.Sound) (unsettled : job.settled = false)
    {percent : Int} (above : job.progress < percent) : job.Later (job.advance percent) := by
  obtain ⟨notFailed, output, failure, finishedAt⟩ := sound.open unsettled
  have bounds := sound.progress
  have bounded : job.progress ≤ min 100 percent := by omega
  refine ⟨rfl, rfl, ?_, bounded, by simp [unsettled]⟩
  by_cases full : 100 ≤ percent
  · have hundred : min 100 percent = 100 := by omega
    constructor <;> simp [advance, hundred, unsettled, output, failure, finishedAt]
  · have partly : min 100 percent = percent := by omega
    have below : ¬ job.state = .finished := fun finished => by
      have hundred := (sound.finished finished unsettled).1
      omega
    have state : job.state = .processing := by
      cases state : job.state <;> simp_all
    constructor
    · simp only [advance, partly]
      omega
    · simp only [advance, partly, if_neg full]
      exact fun _ => ⟨unsettled, by omega, output, failure⟩
    · simp [advance, partly, full, state]
    · simp [advance, partly, full, state]
    · simp [advance, output]
    · simp [advance, failure]
    · simp [advance, unsettled, finishedAt]
    · simp [advance, finishedAt]

/-- A job that is not settled may end with an output. -/
theorem Sound.later_finish (sound : job.Sound) (unsettled : job.settled = false)
    (positive : 0 < time) (output : Path) : job.Later (job.finish time output) := by
  obtain ⟨-, -, failure, -⟩ := sound.open unsettled
  refine ⟨rfl, rfl, ?_, le_refl _, by simp [unsettled]⟩
  have progress := sound.progress
  constructor <;> simp_all [finish]

/-- A job that is not settled may end without one. -/
theorem Sound.later_fail (sound : job.Sound) (unsettled : job.settled = false)
    (positive : 0 < time) (failure : Failure) : job.Later (job.fail time failure) := by
  obtain ⟨-, output, -, -⟩ := sound.open unsettled
  refine ⟨rfl, rfl, ?_, le_refl _, by simp [unsettled]⟩
  have progress := sound.progress
  constructor <;> simp_all [fail]

theorem Later.status_eq (later : job.Later after) (sound : job.Sound)
    (settled : job.settled = true) (now then' : Binary64) :
    after.status then' = job.status now := by
  have same := later.ended settled
  obtain ⟨time, found⟩ := Option.isSome_iff_exists.mp (sound.ended.mp settled)
  have nonzero := Binary64.equal_zero_of_zero_lt (sound.time time found)
  simp only [status, duration, countedUntil, same.finishedAt, found, nonzero,
    Bool.false_eq_true, if_false, later.startedAt, same.state, same.progress, same.failure]

end Montage.Jobs.Job
