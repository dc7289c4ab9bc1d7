import Montage.Proofs.Jobs.Step

/-!
# Jobs under way

A job that is looked up after a change is the changed job.  While its render is under way
a job stays open whatever is reported of it, and the slots stay as they are.
-/

namespace Montage.Jobs.Registry

variable {registry : Registry} {id : String} {job : Job}

section Lookup

/-- A job that is looked up among changed jobs is the changed job, as changes keep identifiers. -/
theorem find?_changeIn {change : Job → Job} (jobs : List Job) (other : String)
    (sameId : ∀ job, job.id = id → (change job).id = id) :
    (changeIn id change jobs).find? (·.id == other) =
      (jobs.find? (·.id == other)).map fun job => if job.id = id then change job else job := by
  have named : ∀ job : Job, (if job.id = id then change job else job).id = job.id := by
    intro job
    split
    next same => rw [sameId job same, same]
    next => rfl
  rw [changeIn, List.find?_map]
  congr 2
  funext job
  simp only [Function.comp_apply, named]

/-- A job that is changed is found as it is then, whether or not retired jobs are changed
along with it. -/
theorem find?_change (change : Job → Job) (found : registry.find? id = some job)
    (sameId : ∀ job, job.id = id → (change job).id = id) :
    (registry.change id change).find? id = some (change job) ∧
      (registry.changeAny id change).find? id = some (change job) := by
  have known : registry.jobs.find? (·.id == id) = some job := found
  have changed := find?_changeIn registry.jobs id sameId
  rw [known, Option.map_some, if_pos (find?_some found).2] at changed
  exact ⟨changed, changed⟩

/-- A job that is known is not looked for among those that are retired. -/
theorem findAny?_of_find? (found : registry.find? id = some job) :
    registry.findAny? id = some job := by
  have known : registry.jobs.find? (·.id == id) = some job := found
  rw [findAny?, List.find?_append, known, Option.some_or]

end Lookup

/-- What is kept by all that happens to a job in its slot. -/
structure KeptInSlot (id : String) (holds : Registry → Prop) : Prop where
  setTarget : ∀ registry path, holds registry → holds (registry.setTarget id path)
  updateProgress : ∀ registry percent, holds registry → holds (registry.updateProgress id percent)
  requestCancel : ∀ registry, holds registry → holds (registry.requestCancel id)

/-- A registry in which a job is open, without output or failure, while some slots are
taken. -/
structure Underway (registry : Registry) (id : String) (inside : List String) : Prop where
  job : ∃ job, registry.find? id = some job ∧ job.settled = false ∧ job.output = none ∧
    job.failure = none
  inside : registry.inside = inside

namespace Underway

variable {inside : List String}

section Change

variable {alter : Job → Job} (under : registry.Underway id inside)
  (sameId : ∀ job, job.id = id → (alter job).id = id)
  (opens : ∀ job, job.settled = false → job.output = none → job.failure = none →
    (alter job).settled = false ∧ (alter job).output = none ∧ (alter job).failure = none)

include under sameId opens

/-- A change to a job that leaves it open keeps it under way, be retired jobs changed or not. -/
theorem change_and_changeAny :
    (registry.change id alter).Underway id inside ∧
      (registry.changeAny id alter).Underway id inside := by
  obtain ⟨⟨job, found, settled, output, failure⟩, taken⟩ := under
  obtain ⟨changed, changedAny⟩ := find?_change alter found sameId
  have opens := opens job settled output failure
  exact ⟨⟨⟨alter job, changed, opens⟩, taken⟩, ⟨alter job, changedAny, opens⟩, taken⟩

theorem change : (registry.change id alter).Underway id inside :=
  (change_and_changeAny under sameId opens).1

theorem changeAny : (registry.changeAny id alter).Underway id inside :=
  (change_and_changeAny under sameId opens).2

end Change

theorem publish (under : registry.Underway id inside) (event : Event) :
    (registry.publish event).Underway id inside :=
  ⟨under.job, under.inside⟩

theorem setTarget (under : registry.Underway id inside) (path : Path) :
    (registry.setTarget id path).Underway id inside :=
  under.change (fun _ named => named) fun _ settled output failure =>
    ⟨settled, output, failure⟩

theorem requestCancel (under : registry.Underway id inside) :
    (registry.requestCancel id).Underway id inside :=
  under.changeAny (fun _ named => named) fun _ settled output failure =>
    ⟨settled, output, failure⟩

/-- Reports of progress leave a job open, also those that count it as finished. -/
theorem updateProgress (under : registry.Underway id inside) (percent : Int) :
    (registry.updateProgress id percent).Underway id inside := by
  rcases updateProgress_cases registry id percent with ⟨job, found, -, moved⟩ | ⟨-, same⟩
  · obtain ⟨known, known', stays⟩ := under.job
    obtain rfl := Option.some.inj (found.symm.trans known')
    have advanced : (registry.change id fun _ => job.advance percent).Underway id inside :=
      under.change (fun _ _ => (find?_some found).2) fun _ _ _ _ => stays
    rw [moved]
    exact advanced.publish _
  · rw [same]
    exact under

theorem keptInSlot (id : String) (inside : List String) :
    KeptInSlot id (·.Underway id inside) where
  setTarget := fun _ path under => under.setTarget path
  updateProgress := fun _ percent under => under.updateProgress percent
  requestCancel := fun _ under => under.requestCancel

/-- A job under way is not settled, wherever it is looked for. -/
theorem findAny?_settled (under : registry.Underway id inside) :
    (registry.findAny? id).any (·.settled) = false := by
  obtain ⟨job, found, settled, -, -⟩ := under.job
  rw [findAny?_of_find? found, Option.any_some, settled]

/-- A job that asks for a slot stays open, and learns whether it was cancelled before. -/
theorem enter (under : registry.Underway id inside) (free : registry.isFull = false)
    (found : registry.find? id = some job) :
    if job.cancelRequested then
      ∃ after, registry.enter id = (after, .turnedAway) ∧ after.Underway id inside
    else
      ∃ after, registry.enter id = (after, .entered) ∧ after.Underway id (inside ++ [id]) := by
  have admitted : (registry.changeAny id fun job => { job with admitted := true }).Underway
      id inside :=
    under.changeAny (fun _ named => named) fun _ settled output failure =>
      ⟨settled, output, failure⟩
  have asked : (registry.findAny? id).any (·.cancelRequested) = job.cancelRequested := by
    rw [findAny?_of_find? found, Option.any_some]
  rcases enter_cases registry id with
    ⟨full, -⟩ | ⟨-, _, rfl, ⟨requested, away⟩ | ⟨unasked, entered⟩⟩
  · simp [free] at full
  · rw [if_pos (asked ▸ requested)]
    exact ⟨_, away, admitted⟩
  · rw [if_neg (by simp [← asked, unasked])]
    exact ⟨_, entered, admitted.job, congrArg (· ++ [id]) admitted.inside⟩

theorem leave (under : registry.Underway id (inside ++ [id])) :
    ∃ others, (registry.leave id).Underway id others ∧ others.length = inside.length := by
  refine ⟨(inside ++ [id]).erase id, ⟨under.job, ?_⟩, ?_⟩
  · rw [← under.inside]
    rfl
  · rw [List.length_erase_of_mem (by simp), List.length_append, List.length_singleton,
      Nat.add_sub_cancel]

theorem finish (under : registry.Underway id inside) (output : Path) :
    ∃ job, (registry.finish id output).find? id = some job ∧ job.settled = true ∧
      job.state = .finished ∧ job.output = some output ∧ job.failure = none ∧
      (registry.finish id output).inside = inside := by
  obtain ⟨job, found, settled, -, failure⟩ := under.job
  have step : registry.finish id output =
      (registry.change id (·.finish registry.clock output)).publish
        (.finished id output.name) := by
    simp [Registry.finish, found, settled]
  have ends := (find?_change (·.finish registry.clock output) found fun _ named => named).1
  rw [step]
  exact ⟨job.finish registry.clock output, ends, rfl, rfl, rfl, failure, under.inside⟩

theorem fail (under : registry.Underway id inside) (failure : Failure) :
    ∃ job, (registry.fail id failure).find? id = some job ∧ job.settled = true ∧
      job.state = .failed ∧ job.output = none ∧ job.failure = some failure ∧
      (registry.fail id failure).inside = inside := by
  obtain ⟨job, found, settled, output, -⟩ := under.job
  have step : registry.fail id failure =
      (registry.change id (·.fail registry.clock failure)).publish (.failed id failure) := by
    simp [Registry.fail, found, settled]
  have ends := (find?_change (·.fail registry.clock failure) found fun _ named => named).1
  rw [step]
  exact ⟨job.fail registry.clock failure, ends, rfl, rfl, output, rfl, under.inside⟩

end Underway

/-- Retired jobs have settled, so one that has not is known, and under way. -/
theorem Sound.underway (sound : registry.Sound)
    (retired : ∀ job ∈ registry.retired, job.settled = true) (known : job ∈ registry.all)
    (unsettled : job.settled = false) :
    registry.find? job.id = some job ∧ registry.Underway job.id registry.inside := by
  have kept : job ∈ registry.jobs := by
    refine (List.mem_append.mp known).resolve_right fun gone => ?_
    simp [retired job gone] at unsettled
  have found := sound.find?_eq kept rfl
  obtain ⟨-, output, failure, -⟩ := (sound.jobs job known).open unsettled
  exact ⟨found, ⟨job, found, unsettled, output, failure⟩, rfl⟩

end Montage.Jobs.Registry
