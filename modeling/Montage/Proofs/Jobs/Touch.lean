import Montage.Proofs.Jobs.Outcome
import Montage.Proofs.Jobs.Replay
import Montage.Proofs.Jobs.Retention

/-!
# What is about one job

The operations that are about one job leave every other job as it is.  A job that is cancelled
before it got a slot ends at once, and one that got a slot keeps that.
-/

namespace Montage.Jobs

/-- A job, and what has become of it in operations about the job with an identifier. -/
structure Job.Attends (id : String) (job after : Job) : Prop where
  named : after.id = job.id
  other : job.id ≠ id → after = job
  admitted : job.admitted = true → after.admitted = true
  settled : job.settled = true → after.settled = true

namespace Job.Attends

variable {id : String} {job after last : Job}

theorem refl (job : Job) : job.Attends id job :=
  ⟨rfl, fun _ => rfl, fun admitted => admitted, fun settled => settled⟩

theorem trans (first : job.Attends id after) (second : after.Attends id last) :
    job.Attends id last where
  named := second.named.trans first.named
  other := fun other => by
    have same := first.other other
    rw [second.other (same ▸ other), same]
  admitted := fun admitted => second.admitted (first.admitted admitted)
  settled := fun settled => second.settled (first.settled settled)

end Job.Attends

/-- A job whose render has no slot yet: it has settled if it was cancelled, and failed so. -/
structure Job.Unstarted (job : Job) : Prop where
  admitted : job.admitted = false
  settled : job.settled = true ↔ job.cancelRequested = true
  ended : job.settled = true → job.EndedWith (.error (.stopped .cancelled))

def Job.cancel (job : Job) (time : Binary64) : Job :=
  if job.admitted ∨ job.settled then { job with cancelRequested := true }
  else { job with cancelRequested := true }.fail time .cancelled

namespace Job

variable {job after : Job}

theorem EndedWith.of_sameEnd {ended : Except FailureKind Path} (ends : job.EndedWith ended)
    (same : job.SameEnd after) : after.EndedWith ended := by
  cases ended with
  | ok output => exact ⟨same.state.trans ends.1, same.output.trans ends.2.1,
      same.failure.trans ends.2.2⟩
  | error kind => exact ⟨same.state.trans ends.1, same.output.trans ends.2.1, by
      rw [same.failure, ends.2.2]⟩

theorem unstarted_accepted (id : String) (time : Binary64) (inputs : List Path) :
    (accepted id time inputs).Unstarted :=
  ⟨rfl, by simp [accepted], by simp [accepted]⟩

/-- A job that is cancelled before it got a slot fails at once. -/
theorem Unstarted.cancel (unstarted : job.Unstarted) (sound : job.Sound) (time : Binary64) :
    (job.cancel time).Unstarted ∧ (job.cancel time).settled = true := by
  unfold Job.cancel
  split
  next either =>
    have settled : job.settled = true := by simpa [unstarted.admitted] using either
    exact ⟨⟨unstarted.admitted, by simp [settled], unstarted.ended⟩, settled⟩
  next neither =>
    have unsettled : job.settled = false := by simpa [unstarted.admitted] using neither
    have output := (sound.open unsettled).2.1
    exact ⟨⟨unstarted.admitted, by simp [fail], fun _ => ⟨rfl, output, rfl⟩⟩, rfl⟩

theorem settled_cancel (admitted : job.admitted = true) (time : Binary64) :
    (job.cancel time).settled = job.settled := by
  simp [cancel, admitted]

end Job

namespace Registry

variable {registry after last : Registry} {id : String} {job : Job}

/-- A registry, and what has become of it in operations about the job with an identifier. -/
structure Touches (id : String) (registry after : Registry) : Prop where
  jobs : ∀ job ∈ after.jobs, ∃ earlier ∈ registry.jobs, earlier.Attends id job
  retired : ∀ job ∈ after.retired, ∃ earlier ∈ registry.retired, earlier.Attends id job
  accepted : after.accepted = registry.accepted
  maxConcurrent : after.maxConcurrent = registry.maxConcurrent

namespace Touches

theorem of_jobs (jobs : after.jobs = registry.jobs) (retired : after.retired = registry.retired)
    (accepted : after.accepted = registry.accepted)
    (maxConcurrent : after.maxConcurrent = registry.maxConcurrent) :
    registry.Touches id after where
  jobs := fun job member => ⟨job, jobs ▸ member, Job.Attends.refl job⟩
  retired := fun job member => ⟨job, retired ▸ member, Job.Attends.refl job⟩
  accepted := accepted
  maxConcurrent := maxConcurrent

theorem refl (registry : Registry) : registry.Touches id registry := of_jobs rfl rfl rfl rfl

theorem trans (first : registry.Touches id after) (second : after.Touches id last) :
    registry.Touches id last where
  jobs := fun job member => by
    obtain ⟨middle, known, attends⟩ := second.jobs job member
    obtain ⟨earlier, known', attends'⟩ := first.jobs middle known
    exact ⟨earlier, known', attends'.trans attends⟩
  retired := fun job member => by
    obtain ⟨middle, known, attends⟩ := second.retired job member
    obtain ⟨earlier, known', attends'⟩ := first.retired middle known
    exact ⟨earlier, known', attends'.trans attends⟩
  accepted := second.accepted.trans first.accepted
  maxConcurrent := second.maxConcurrent.trans first.maxConcurrent

theorem all (touches : registry.Touches id after) (member : job ∈ after.all) :
    ∃ earlier ∈ registry.all, earlier.Attends id job := by
  rcases List.mem_append.mp member with known | retired
  · obtain ⟨earlier, known, attends⟩ := touches.jobs job known
    exact ⟨earlier, List.mem_append_left _ known, attends⟩
  · obtain ⟨earlier, known, attends⟩ := touches.retired job retired
    exact ⟨earlier, List.mem_append_right _ known, attends⟩

theorem other (touches : registry.Touches id after) (member : job ∈ after.all)
    (other : job.id ≠ id) : job ∈ registry.all := by
  obtain ⟨earlier, known, attends⟩ := touches.all member
  rwa [attends.other (attends.named ▸ other)]

theorem settled_retired (touches : registry.Touches id after)
    (settled : ∀ job ∈ registry.retired, job.settled = true) :
    ∀ job ∈ after.retired, job.settled = true := by
  intro job member
  obtain ⟨earlier, known, attends⟩ := touches.retired job member
  exact attends.settled (settled earlier known)

theorem change {change : Job → Job} (attends : ∀ job ∈ registry.jobs, job.id = id →
      ∃ earlier ∈ registry.jobs, earlier.Attends id (change job)) :
    registry.Touches id (registry.change id change) := by
  refine ⟨fun job member => ?_, fun job member => ⟨job, member, Job.Attends.refl job⟩, rfl, rfl⟩
  obtain ⟨earlier, known, rfl | ⟨named, rfl⟩⟩ := Retains.exists_of_mem_changeIn member
  · exact ⟨job, known, Job.Attends.refl job⟩
  · exact attends earlier known named

theorem changeAny {change : Job → Job}
    (attends : ∀ job : Job, job.id = id → job.Attends id (change job)) :
    registry.Touches id (registry.changeAny id change) := by
  have changed : ∀ {jobs : List Job}, ∀ job ∈ changeIn id change jobs,
      ∃ earlier ∈ jobs, earlier.Attends id job := by
    intro jobs job member
    obtain ⟨earlier, known, rfl | ⟨named, rfl⟩⟩ := Retains.exists_of_mem_changeIn member
    · exact ⟨job, known, Job.Attends.refl job⟩
    · exact ⟨earlier, known, attends earlier named⟩
  exact ⟨changed, changed, rfl, rfl⟩

theorem publish (registry : Registry) (event : Event) :
    registry.Touches id (registry.publish event) := of_jobs rfl rfl rfl rfl

theorem setTarget (registry : Registry) (id : String) (path : Path) :
    registry.Touches id (registry.setTarget id path) :=
  change fun job known named => ⟨job, known, rfl, fun other => absurd named other,
    fun admitted => admitted, fun settled => settled⟩

theorem updateProgress (registry : Registry) (id : String) (percent : Int) :
    registry.Touches id (registry.updateProgress id percent) := by
  rcases updateProgress_cases registry id percent with ⟨job, found, -, moved⟩ | ⟨-, same⟩
  · rw [moved]
    obtain ⟨known, named⟩ := find?_some found
    have advanced : job.Attends id (job.advance percent) :=
      ⟨rfl, fun other => absurd named other, fun admitted => admitted, fun settled => settled⟩
    exact (change fun _ _ _ => ⟨job, known, advanced⟩).trans (publish _ _)
  · rw [same]
    exact refl registry

theorem finish (registry : Registry) (id : String) (output : Path) :
    registry.Touches id (registry.finish id output) := by
  rcases finish_cases registry id output with ⟨_, -, -, ended⟩ | ⟨-, same⟩
  · rw [ended]
    refine (change fun job known named => ?_).trans (publish _ _)
    exact ⟨job, known, rfl, fun other => absurd named other, fun admitted => admitted,
      fun _ => rfl⟩
  · rw [same]
    exact refl registry

theorem fail (registry : Registry) (id : String) (failure : Failure) :
    registry.Touches id (registry.fail id failure) := by
  rcases fail_cases registry id failure with ⟨_, -, -, ended⟩ | ⟨-, same⟩
  · rw [ended]
    refine (change fun job known named => ?_).trans (publish _ _)
    exact ⟨job, known, rfl, fun other => absurd named other, fun admitted => admitted,
      fun _ => rfl⟩
  · rw [same]
    exact refl registry

theorem requestCancel (registry : Registry) (id : String) :
    registry.Touches id (registry.requestCancel id) :=
  changeAny fun _ named => ⟨rfl, fun other => absurd named other, fun admitted => admitted,
    fun settled => settled⟩

theorem enter (registry : Registry) (id : String) :
    registry.Touches id (registry.enter id).1 := by
  rcases enter_cases registry id with ⟨-, full⟩ | ⟨-, admitted, made, ⟨-, away⟩ | ⟨-, entered⟩⟩
  · rw [full]
    exact refl registry
  all_goals
    have kept : registry.Touches id admitted := by
      rw [made]
      exact changeAny fun _ named => ⟨rfl, fun other => absurd named other, fun _ => rfl,
        fun settled => settled⟩
  · rw [away]
    exact kept
  · rw [entered]
    exact kept.trans (of_jobs rfl rfl rfl rfl)

theorem leave (registry : Registry) (id : String) :
    registry.Touches id (registry.leave id) := of_jobs rfl rfl rfl rfl

end Touches

theorem keptInSlot_touches (registry : Registry) (id : String) :
    KeptInSlot id fun after => registry.Evolves after ∧ registry.Touches id after where
  setTarget := fun after path ⟨evolves, touches⟩ =>
    ⟨evolves.trans (evolves_setTarget after id path), touches.trans (.setTarget after id path)⟩
  updateProgress := fun after percent ⟨evolves, touches⟩ =>
    ⟨evolves.trans (evolves_updateProgress after id percent),
      touches.trans (.updateProgress after id percent)⟩
  requestCancel := fun after ⟨evolves, touches⟩ =>
    ⟨evolves.trans (evolves_requestCancel after id), touches.trans (.requestCancel after id)⟩

/-- A job that asks for a slot counts as admitted, be it turned away. -/
theorem admitted_of_enter (free : registry.isFull = false) :
    ∀ job ∈ (registry.enter id).1.all, job.id = id → job.admitted = true := by
  have changed : ∀ {jobs : List Job},
      ∀ job ∈ changeIn id (fun job => { job with admitted := true }) jobs,
        job.id = id → job.admitted = true := by
    intro jobs job member named
    obtain ⟨earlier, -, same⟩ := List.mem_map.mp member
    split at same
    next => rw [← same]
    next other => exact absurd (same ▸ named) other
  have jobs : (registry.enter id).1.all =
      changeIn id (fun job => { job with admitted := true }) registry.jobs ++
        changeIn id (fun job => { job with admitted := true }) registry.retired := by
    simp only [Registry.enter, free, Bool.false_eq_true, if_false]
    split <;> rfl
  intro job member named
  rw [jobs] at member
  rcases List.mem_append.mp member with known | gone
  · exact changed job known named
  · exact changed job gone named

section Cancellation

theorem Touches.cancel (cancelled : registry.cancel id = .ok after) :
    registry.Touches id after := by
  have requested : registry.Touches id (registry.requestCancel id) := .requestCancel registry id
  obtain ⟨job, -, ⟨-, rfl⟩ | ⟨-, rfl⟩⟩ := cancel_cases cancelled
  · exact requested
  · exact requested.trans (.fail _ id .cancelled)

theorem fail_of_settled (failure : Failure)
    (settled : ∀ job ∈ registry.jobs, job.id = id → job.settled = true) :
    registry.fail id failure = registry := by
  rcases fail_cases registry id failure with ⟨job, found, unsettled, -⟩ | ⟨-, same⟩
  · obtain ⟨known, named⟩ := find?_some found
    simp [settled job known named] at unsettled
  · exact same

/-- A known job that is cancelled is found as it is then, and all slots are as they were. -/
theorem exists_cancel (found : registry.find? id = some job) :
    ∃ after, registry.cancel id = .ok after ∧ after.inside = registry.inside ∧
      after.find? id = some (job.cancel registry.clock) := by
  have requested : (registry.requestCancel id).find? id =
      some { job with cancelRequested := true } :=
    (find?_change (fun job => { job with cancelRequested := true }) found fun _ named => named).2
  have cancelled : registry.cancel id = .ok (if job.admitted then registry.requestCancel id
      else (registry.requestCancel id).fail id .cancelled) := by
    simp [Registry.cancel, get, found]
  refine ⟨_, cancelled, ?_⟩
  split
  next admitted => exact ⟨rfl, by rw [requested, Job.cancel, if_pos (.inl admitted)]⟩
  next waiting =>
    rcases fail_cases (registry.requestCancel id) id .cancelled with
      ⟨later, found', unsettled, ended⟩ | ⟨settled, same⟩
    · obtain rfl := Option.some.inj (requested.symm.trans found')
      have failed := (find?_change (·.fail registry.clock .cancelled) requested
        fun _ named => named).1
      rw [ended, Job.cancel, if_neg (not_or.mpr ⟨waiting, Bool.eq_false_iff.mp unsettled⟩)]
      exact ⟨rfl, failed⟩
    · have ended : job.settled = true :=
        settled { job with cancelRequested := true } requested
      exact ⟨by rw [same]; rfl, by rw [same, requested, Job.cancel, if_pos (.inr ended)]⟩

end Cancellation

end Registry

end Montage.Jobs
