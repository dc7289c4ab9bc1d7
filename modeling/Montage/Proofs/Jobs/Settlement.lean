import Montage.Proofs.Jobs.Step

/-!
# Settlement

In every run of the registry each job stays sound, its progress never goes back, and what
is recorded of its end stays as it is.
-/

namespace Montage.Jobs.Registry

variable {registry after : Registry}

theorem Sound.findAny?_eq (sound : registry.Sound) {job : Job} (known : job ∈ registry.all) :
    registry.findAny? job.id = some job :=
  sound.findAny?_eq_some_iff.mpr ⟨known, rfl⟩

/-- From the first moment of a registry on, every job is sound, and in every further run it
is found again with at least its progress, and with the same end and status once it is
settled. -/
theorem job_sound_and_settled_of_run {maxConcurrent maxFinished : Int} {clock : Binary64}
    (positive : 0 < clock) (run : Run (start maxConcurrent maxFinished clock) registry)
    {job : Job} (known : job ∈ registry.all) :
    job.Sound ∧ ∀ after, Run registry after →
      ∃ later, after.findAny? job.id = some later ∧ job.progress ≤ later.progress ∧
        (job.settled = true → job.SameEnd later ∧
          ∀ now afterwards, later.status afterwards = job.status now) := by
  obtain ⟨sound, -⟩ := run.evolves (sound_start maxConcurrent maxFinished positive)
  refine ⟨sound.jobs job known, fun after further => ?_⟩
  obtain ⟨soundAfter, moved⟩ := further.evolves sound
  obtain ⟨later, member, becomes⟩ := moved job known
  refine ⟨later, ?_, becomes.progress, fun settled => ⟨becomes.ended settled, ?_⟩⟩
  · rw [← becomes.id]
    exact soundAfter.findAny?_eq member
  · exact becomes.status_eq (sound.jobs job known) settled

/-- A job that was reported complete and then failed is sound, and stays failed when it is
finished after that. -/
theorem job_sound_and_settled_completeThenFailed :
    ∃ registry after job later,
      Run (start 1 200 1000) registry ∧ job ∈ registry.all ∧
      Run registry after ∧ after.findAny? job.id = some later ∧
      job.Sound ∧ job.progress = 100 ∧ job.state = .failed ∧ later.state = .failed := by
  let complete := ((start 1 200 1000).create []).1.updateProgress "job-1" 100
  let registry := complete.fail "job-1" ⟨.encode, "no output"⟩
  have positive : 0 < (1000 : Binary64) := by decide +kernel
  have run : Run (start 1 200 1000) registry :=
    ((Relation.ReflTransGen.single (.create _ [])).tail (.updateProgress _ "job-1" 100)).tail
      (.fail _ "job-1" ⟨.encode, "no output"⟩)
  have further : Run registry (registry.finish "job-1" (.ofString "out.mp4")) :=
    .single (.finish _ _ _)
  have found : ∃ job ∈ registry.all, job.settled = true ∧ job.progress = 100 ∧
      job.state = .failed := by decide
  obtain ⟨job, known, settled, progress, state⟩ := found
  obtain ⟨sound, stays⟩ := job_sound_and_settled_of_run positive run known
  obtain ⟨later, same, -, ended⟩ := stays _ further
  exact ⟨registry, _, job, later, run, known, further, same, sound, progress, state,
    (ended settled).1.state.trans state⟩

end Montage.Jobs.Registry
