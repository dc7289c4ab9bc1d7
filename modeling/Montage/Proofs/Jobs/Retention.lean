import Montage.Proofs.Jobs.Step
import Mathlib.Tactic.Tauto

/-!
# What unsettled jobs keep

The operations on the registry leave an unsettled job its identifier and the files that it reads,
and give it no target but those that may be set.  Only settled jobs are retired.
-/

namespace Montage.Jobs

/-- A job and what has become of it: it reads the same files, its end is not taken back, and its
target is the same or one that may be set. -/
structure Job.Retains (settable : Path → Prop) (job after : Job) : Prop where
  id : after.id = job.id
  inputs : after.inputs = job.inputs
  settled : job.settled = true → after.settled = true
  target : ∀ path ∈ after.target, path ∈ job.target ∨ settable path

namespace Job.Retains

variable {settable : Path → Prop} {job after last : Job}

theorem refl (job : Job) : job.Retains settable job :=
  ⟨rfl, rfl, fun settled => settled, fun _ given => .inl given⟩

theorem trans (first : job.Retains settable after) (second : after.Retains settable last) :
    job.Retains settable last where
  id := second.id.trans first.id
  inputs := second.inputs.trans first.inputs
  settled := fun settled => second.settled (first.settled settled)
  target := fun path given =>
    (second.target path given).elim (first.target path) .inr

theorem unsettled (retains : job.Retains settable after) (going : after.settled = false) :
    job.settled = false := by
  cases settled : job.settled with
  | false => rfl
  | true => simp [retains.settled settled] at going

end Job.Retains

namespace Registry

variable {settable : Path → Prop} {registry after last : Registry} {id : String}

theorem mem_unsettled {job : Job} :
    job ∈ registry.unsettled ↔ job ∈ registry.jobs ∧ job.settled = false := by
  simp [unsettled]

/-- A registry and what has become of it: unsettled jobs were unsettled before, with the same
files, and none is retired. -/
structure Retains (settable : Path → Prop) (registry after : Registry) : Prop where
  jobs : ∀ job ∈ after.jobs, job.settled = false →
    ∃ earlier ∈ registry.jobs, earlier.Retains settable job
  retired : (∀ job ∈ registry.retired, job.settled = true) →
    ∀ job ∈ after.retired, job.settled = true

namespace Retains

theorem of_jobs (jobs : after.jobs = registry.jobs) (retired : after.retired = registry.retired) :
    registry.Retains settable after := by
  refine ⟨fun job member _ => ⟨job, jobs ▸ member, Job.Retains.refl job⟩, fun settled => ?_⟩
  rw [retired]
  exact settled

theorem refl (registry : Registry) : registry.Retains settable registry := of_jobs rfl rfl

theorem trans (first : registry.Retains settable after) (second : after.Retains settable last) :
    registry.Retains settable last := by
  refine ⟨fun job member going => ?_, fun settled => second.retired (first.retired settled)⟩
  obtain ⟨middle, known, retains⟩ := second.jobs job member going
  obtain ⟨earlier, known', retains'⟩ := first.jobs middle known (retains.unsettled going)
  exact ⟨earlier, known', retains'.trans retains⟩

theorem exists_of_mem_changeIn {change : Job → Job} {jobs : List Job} {job : Job}
    (member : job ∈ changeIn id change jobs) :
    ∃ earlier ∈ jobs, job = earlier ∨ earlier.id = id ∧ job = change earlier := by
  obtain ⟨earlier, known, same⟩ := List.mem_map.mp member
  refine ⟨earlier, known, ?_⟩
  split at same
  next named => exact .inr ⟨named, same.symm⟩
  next => exact .inl same.symm

theorem change {change : Job → Job} (retains : ∀ job ∈ registry.jobs, job.id = id →
      ∃ earlier ∈ registry.jobs, earlier.Retains settable (change job)) :
    registry.Retains settable (registry.change id change) := by
  refine ⟨fun job member _ => ?_, fun settled => settled⟩
  obtain ⟨earlier, known, rfl | ⟨named, rfl⟩⟩ := exists_of_mem_changeIn member
  · exact ⟨job, known, Job.Retains.refl job⟩
  · exact retains earlier known named

theorem changeAny {change : Job → Job}
    (retains : ∀ job : Job, job.Retains settable (change job)) :
    registry.Retains settable (registry.changeAny id change) := by
  refine ⟨fun job member _ => ?_, fun settled job member => ?_⟩
  · obtain ⟨earlier, known, rfl | ⟨-, rfl⟩⟩ := exists_of_mem_changeIn member
    · exact ⟨job, known, Job.Retains.refl job⟩
    · exact ⟨earlier, known, retains earlier⟩
  · obtain ⟨earlier, known, rfl | ⟨-, rfl⟩⟩ := exists_of_mem_changeIn member
    · exact settled job known
    · exact (retains earlier).settled (settled earlier known)

theorem publish (registry : Registry) (event : Event) :
    registry.Retains settable (registry.publish event) := of_jobs rfl rfl

theorem tick (registry : Registry) (seconds : Binary64) :
    registry.Retains settable (registry.tick seconds) := of_jobs rfl rfl

theorem updateProgress (registry : Registry) (id : String) (percent : Int) :
    registry.Retains settable (registry.updateProgress id percent) := by
  rcases updateProgress_cases registry id percent with ⟨job, found, -, moved⟩ | ⟨-, same⟩
  · rw [moved]
    have known := (find?_some found).1
    have advanced : job.Retains settable (job.advance percent) :=
      ⟨rfl, rfl, fun settled => settled, fun _ given => .inl given⟩
    exact (change fun _ _ _ => ⟨job, known, advanced⟩).trans (publish _ _)
  · rw [same]
    exact refl registry

theorem setTarget {path : Path} (registry : Registry) (id : String) (allowed : settable path) :
    registry.Retains settable (registry.setTarget id path) := by
  refine change fun job known _ => ⟨job, known, rfl, rfl, fun settled => settled, ?_⟩
  rintro _ ⟨⟩
  exact .inr allowed

theorem finish (registry : Registry) (id : String) (output : Path) :
    registry.Retains settable (registry.finish id output) := by
  rcases finish_cases registry id output with ⟨_, -, -, ended⟩ | ⟨-, same⟩
  · rw [ended]
    refine (change fun job known _ => ?_).trans (publish _ _)
    exact ⟨job, known, rfl, rfl, fun _ => rfl, fun _ given => .inl given⟩
  · rw [same]
    exact refl registry

theorem fail (registry : Registry) (id : String) (failure : Failure) :
    registry.Retains settable (registry.fail id failure) := by
  rcases fail_cases registry id failure with ⟨_, -, -, ended⟩ | ⟨-, same⟩
  · rw [ended]
    refine (change fun job known _ => ?_).trans (publish _ _)
    exact ⟨job, known, rfl, rfl, fun _ => rfl, fun _ given => .inl given⟩
  · rw [same]
    exact refl registry

theorem requestCancel (registry : Registry) (id : String) :
    registry.Retains settable (registry.requestCancel id) :=
  changeAny fun _ => ⟨rfl, rfl, fun settled => settled, fun _ given => .inl given⟩

theorem cancel (cancelled : registry.cancel id = .ok after) : registry.Retains settable after := by
  have requested : registry.Retains settable (registry.requestCancel id) :=
    requestCancel registry id
  obtain ⟨job, -, ⟨-, rfl⟩ | ⟨-, rfl⟩⟩ := cancel_cases cancelled
  · exact requested
  · exact requested.trans (fail _ id .cancelled)

theorem enter (registry : Registry) (id : String) :
    registry.Retains settable (registry.enter id).1 := by
  rcases enter_cases registry id with ⟨-, full⟩ | ⟨-, admitted, made, ⟨-, away⟩ | ⟨-, entered⟩⟩
  · rw [full]
    exact refl registry
  all_goals
    have kept : registry.Retains settable admitted := by
      rw [made]
      exact changeAny fun _ => ⟨rfl, rfl, fun settled => settled, fun _ given => .inl given⟩
  · rw [away]
    exact kept
  · rw [entered]
    exact kept.trans (of_jobs rfl rfl)

theorem leave (registry : Registry) (id : String) :
    registry.Retains settable (registry.leave id) := of_jobs rfl rfl

theorem prune (registry : Registry) : registry.Retains settable registry.prune := by
  refine ⟨fun job member _ => ?_, fun settled job member => ?_⟩
  · exact ⟨job, List.mem_of_mem_filter member, Job.Retains.refl job⟩
  · rcases List.mem_append.mp member with known | outdated
    · exact settled job known
    · exact ((outdated_spec registry).1 job outdated).2

theorem exists_unsettled {job : Job} (keeps : registry.Retains settable after)
    (member : job ∈ after.unsettled) :
    ∃ earlier ∈ registry.unsettled, earlier.Retains settable job := by
  obtain ⟨known, going⟩ := mem_unsettled.mp member
  obtain ⟨earlier, present, retains⟩ := keeps.jobs job known going
  exact ⟨earlier, mem_unsettled.mpr ⟨present, retains.unsettled going⟩, retains⟩

end Retains

section FilesInUse

variable {directory path : Path} {inUse : List (Path × String)} {job : Job}

theorem pathsInUse_eq_ok (directory : Path)
    (legal : ∀ job ∈ registry.unsettled, ∀ path ∈ job.files, path.holdsNull = false) :
    ∃ inUse, registry.pathsInUse directory = .ok inUse := by
  unfold pathsInUse
  dsimp only
  split
  next illegal =>
    obtain ⟨⟨path, user⟩, used, null⟩ := List.any_eq_true.mp illegal
    obtain ⟨job, member, listed⟩ := List.mem_flatMap.mp used
    obtain ⟨file, known, same⟩ := List.mem_map.mp listed
    obtain ⟨rfl, -⟩ := Prod.mk.inj same
    simp [legal job member file known] at null
  next => exact ⟨_, rfl⟩

/-- A file of an unsettled job is in use, by that job or by another one with the same file. -/
theorem exists_user_of_pathsInUse (told : registry.pathsInUse directory = .ok inUse)
    (member : job ∈ registry.unsettled) (used : path ∈ job.files) :
    ∃ user ∈ registry.unsettled, inUse.lookup (Path.resolve directory path) = some user.id ∧
      ∃ file ∈ user.files, Path.resolve directory file = Path.resolve directory path := by
  unfold pathsInUse at told
  dsimp only at told
  split at told
  next => simp at told
  next =>
    obtain rfl := Except.ok.inj told
    have listed : (path, job.id) ∈ registry.unsettled.flatMap fun job =>
        job.files.map fun path => (path, job.id) :=
      List.mem_flatMap.mpr ⟨job, member, List.mem_map_of_mem used⟩
    -- A later use replaces an earlier one of the same path, so the job that is told may be another.
    generalize uses : (registry.unsettled.flatMap fun job =>
      job.files.map fun path => (path, job.id)) = pairs at listed ⊢
    have found : ((pairs.map fun pair => (Path.resolve directory pair.1, pair.2)).reverse.lookup
        (Path.resolve directory path)).isSome = true := by
      refine List.lookup_isSome_iff.mpr ⟨(Path.resolve directory path, job.id), ?_, by simp⟩
      exact List.mem_reverse.mpr (List.mem_map_of_mem listed)
    obtain ⟨id, lookup⟩ := Option.isSome_iff_exists.mp found
    obtain ⟨before, behind, shape, -⟩ := List.lookup_eq_some_iff.mp lookup
    have present : (Path.resolve directory path, id) ∈
        pairs.map fun pair => (Path.resolve directory pair.1, pair.2) := by
      rw [← List.mem_reverse, shape]
      simp
    obtain ⟨⟨file, holder⟩, pair, same⟩ := List.mem_map.mp present
    obtain ⟨sameFile, rfl⟩ := Prod.mk.inj same
    rw [← uses] at pair
    obtain ⟨user, known, listed⟩ := List.mem_flatMap.mp pair
    obtain ⟨other, holds, same⟩ := List.mem_map.mp listed
    obtain ⟨rfl, rfl⟩ := Prod.mk.inj same
    exact ⟨user, known, lookup, other, holds, sameFile⟩

end FilesInUse

/-- The registry with one more job, before any is retired. -/
def accept (registry : Registry) (inputs : List Path) : Registry :=
  { registry with
    jobs := registry.jobs ++
      [Job.accepted (identifier (registry.accepted + 1)) registry.clock inputs]
    accepted := registry.accepted + 1 }

/-- A new job is added to the others, be they retired then. -/
theorem mem_all_create (sound : registry.Sound) (inputs : List Path) {job : Job} :
    job ∈ (registry.create inputs).1.all ↔
      job = Job.accepted (identifier (registry.accepted + 1)) registry.clock inputs ∨
        job ∈ registry.all := by
  have accepted : (registry.accept inputs).Sound := (evolves_accept registry inputs sound).1
  calc job ∈ (registry.create inputs).1.all
      ↔ job ∈ (registry.accept inputs).prune.all := Iff.rfl
    _ ↔ job ∈ (registry.accept inputs).all := (all_prune_perm accepted).mem_iff
    _ ↔ _ := by
      simp only [all, accept, List.mem_append, List.mem_singleton]
      tauto

/-- A new job goes behind those that are kept, and no job is dropped before it is settled. -/
theorem jobs_create (sound : registry.Sound) (inputs : List Path) :
    ∃ kept, (registry.create inputs).1.jobs =
        kept ++ [Job.accepted (registry.create inputs).2 registry.clock inputs] ∧
      kept.Sublist registry.jobs ∧
      ∀ job ∈ registry.jobs, job ∉ kept → job.settled = true := by
  let accepted := registry.accept inputs
  let job := Job.accepted (registry.create inputs).2 registry.clock inputs
  let stays : Job → Bool := fun known => decide (known.id ∉ accepted.outdated.map (·.id))
  have outdated : ∀ other ∈ accepted.outdated, other ∈ registry.jobs ∧ other.settled = true := by
    intro other member
    obtain ⟨known, settled⟩ := accepted.outdated_spec.1 other member
    rcases List.mem_append.mp known with old | new
    · exact ⟨old, settled⟩
    · obtain rfl := List.mem_singleton.mp new
      simp [Job.accepted] at settled
  have fresh : stays job = true := by
    simp only [stays, decide_eq_true_eq, List.mem_map, not_exists, not_and]
    intro other member same
    exact sound.fresh other (List.mem_append_left _ (outdated other member).1) same
  refine ⟨registry.jobs.filter stays, ?_, List.filter_sublist, fun known member dropped => ?_⟩
  · calc (registry.create inputs).1.jobs
        = (registry.jobs ++ [job]).filter stays := rfl
      _ = registry.jobs.filter stays ++ [job] := by
          rw [List.filter_append, List.filter_cons_of_pos fresh, List.filter_nil]
  · have gone : stays known = false := by simpa [List.mem_filter, member] using dropped
    simp only [stays, decide_eq_false_iff_not, not_not, List.mem_map] at gone
    obtain ⟨other, listed, same⟩ := gone
    obtain ⟨old, settled⟩ := outdated other listed
    rw [← sound.eq_of_id (List.mem_append_left _ old) (List.mem_append_left _ member) same]
    exact settled

/-- A new job reads the files that it was accepted with, and the others keep theirs. -/
theorem retains_create (registry : Registry) (inputs : List Path) :
    (registry.accept inputs).Retains settable (registry.create inputs).1 :=
  (Retains.prune _).trans (Retains.publish _ _)

end Registry

end Montage.Jobs
