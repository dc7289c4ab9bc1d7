import Montage.Proofs.Jobs.Touch

/-!
# Jobs in their slots

A job in its slot is admitted and not settled, whatever its encoder reports and whoever cancels it,
until its end is recorded.  The unsettled jobs that wait are those outside the slots.
-/

namespace Montage.Jobs

/-- A job whose render is under way. -/
structure Job.Going (job : Job) : Prop where
  admitted : job.admitted = true
  unsettled : job.settled = false

namespace Registry

open scoped List

variable {registry after last : Registry} {id other : String} {kind : Job → Prop}

def Knows (registry : Registry) (id : String) (kind : Job → Prop) : Prop :=
  ∃ job ∈ registry.all, job.id = id ∧ kind job

/-- What is about another job leaves a job as it is. -/
theorem Knows.of_touches (knows : registry.Knows other kind) (sound : registry.Sound)
    (evolves : registry.Evolves after) (touches : registry.Touches id after) (apart : other ≠ id) :
    after.Knows other kind := by
  obtain ⟨job, known, rfl, holds⟩ := knows
  obtain ⟨later, known', becomes⟩ := (evolves sound).2 job known
  have kept : later ∈ registry.all := touches.other known' (by rwa [becomes.id])
  obtain rfl := sound.eq_of_id kept known becomes.id
  exact ⟨later, known', rfl, holds⟩

section Going

theorem Knows.underway (going : registry.Knows id Job.Going) (sound : registry.Sound)
    (retired : ∀ job ∈ registry.retired, job.settled = true) :
    registry.Underway id registry.inside ∧
      ∃ job, registry.find? id = some job ∧ job.Going := by
  obtain ⟨job, known, rfl, going⟩ := going
  obtain ⟨found, under⟩ := sound.underway retired known going.unsettled
  exact ⟨under, job, found, going⟩

theorem Underway.knows {inside : List String} (under : registry.Underway id inside)
    (admitted : ∀ job ∈ registry.all, job.id = id → job.admitted = true) :
    registry.Knows id Job.Going := by
  obtain ⟨job, found, unsettled, -⟩ := under.job
  obtain ⟨kept, named⟩ := find?_some found
  have known := List.mem_append_left registry.retired kept
  exact ⟨job, known, named, admitted job known named, unsettled⟩

/-- What becomes of a registry while a job is in its slot: all is about that job, and leaves it
open. -/
structure Carries (id : String) (registry after : Registry) : Prop where
  evolves : registry.Evolves after
  touches : registry.Touches id after
  underway : ∀ inside, registry.Underway id inside → after.Underway id inside

theorem Carries.refl (registry : Registry) : registry.Carries id registry :=
  ⟨Evolves.refl registry, .refl registry, fun _ under => under⟩

theorem keptInSlot_carries (registry : Registry) (id : String) :
    KeptInSlot id (registry.Carries id) where
  setTarget := fun after path ⟨evolves, touches, underway⟩ =>
    ⟨evolves.trans (evolves_setTarget after id path), touches.trans (.setTarget after id path),
      fun inside under => (underway inside under).setTarget path⟩
  updateProgress := fun after percent ⟨evolves, touches, underway⟩ =>
    ⟨evolves.trans (evolves_updateProgress after id percent),
      touches.trans (.updateProgress after id percent),
      fun inside under => (underway inside under).updateProgress percent⟩
  requestCancel := fun after ⟨evolves, touches, underway⟩ =>
    ⟨evolves.trans (evolves_requestCancel after id), touches.trans (.requestCancel after id),
      fun inside under => (underway inside under).requestCancel⟩

/-- A job in its slot stays admitted and unsettled, and all slots stay as they were. -/
theorem Carries.knows (carries : registry.Carries id after) (sound : registry.Sound)
    (retired : ∀ job ∈ registry.retired, job.settled = true)
    (going : registry.Knows id Job.Going) :
    after.Knows id Job.Going ∧ after.inside = registry.inside := by
  obtain ⟨under, job, found, admitted, -⟩ := going.underway sound retired
  have under := carries.underway _ under
  refine ⟨under.knows fun later known named => ?_, under.inside⟩
  obtain ⟨earlier, known', attends⟩ := carries.touches.all known
  obtain ⟨kept, named'⟩ := find?_some found
  obtain rfl := sound.eq_of_id known' (List.mem_append_left _ kept)
    (attends.named.symm.trans (named.trans named'.symm))
  exact attends.admitted admitted

end Going

section Operations

/-- The registry after further actions of the encoder of a job, which has come so far in its
course.  A request to stop the encode is a request to stop the job. -/
def follow (id : String) (course : Encode.Course (Encode.Watch Registry))
    (actions : List Encode.Action) : Registry :=
  let reached := (Encode.follow
    (Encode.Watch.listen fun registry percent => registry.updateProgress id percent)
    course actions).1
  if reached.cancelled then reached.listener.receiver.requestCancel id
  else reached.listener.receiver

theorem carries_follow (id : String) (course : Encode.Course (Encode.Watch Registry))
    (actions : List Encode.Action) :
    course.listener.receiver.Carries id (follow id course actions) := by
  have kept := keptInSlot_carries course.listener.receiver id
  have followed := Encode.follow_invariant
    (fun watch : Encode.Watch Registry => course.listener.receiver.Carries id watch.receiver)
    (Encode.Watch.listen_invariant _ kept.updateProgress) course actions (Carries.refl _)
  unfold follow
  dsimp only
  split
  · exact kept.requestCancel _ followed
  · exact followed

/-- A job whose render is under way is only asked to stop, and one that waits ends at once. -/
theorem knows_cancel (cancelled : registry.cancel id = .ok after) (sound : registry.Sound) :
    after.inside = registry.inside ∧
      (∀ other, registry.Knows other Job.Going → after.Knows other Job.Going) ∧
      ∀ other, registry.Knows other Job.Unstarted → after.Knows other Job.Unstarted := by
  have evolves := evolves_cancel cancelled
  have touches := Touches.cancel cancelled
  obtain ⟨job, found, -⟩ := cancel_cases cancelled
  obtain ⟨same, cancelled', inside, later⟩ := exists_cancel found
  obtain rfl := Except.ok.inj (cancelled.symm.trans cancelled')
  obtain ⟨kept, named⟩ := find?_some found
  obtain ⟨kept', named'⟩ := find?_some later
  have known := List.mem_append_left registry.retired kept
  -- Only the job itself has to be looked at: what is known of any other stays.
  have carry : ∀ kind : Job → Prop, (kind job → kind (job.cancel registry.clock)) →
      ∀ other, registry.Knows other kind → after.Knows other kind := by
    intro kind stays other knows
    by_cases about : other = id
    · obtain ⟨same, known', rfl, holds⟩ := knows
      obtain rfl := sound.eq_of_id known' known (about.trans named.symm)
      exact ⟨_, List.mem_append_left _ kept', named'.trans about.symm, stays holds⟩
    · exact knows.of_touches sound evolves touches about
  refine ⟨inside, carry Job.Going fun going => ?_, carry Job.Unstarted fun unstarted => ?_⟩
  · exact ⟨by simp [Job.cancel, going.admitted],
      (Job.settled_cancel going.admitted _).trans going.unsettled⟩
  · exact (unstarted.cancel (sound.jobs job known) _).1

/-- A new job waits under an identifier of its own, and what is known of the others stays. -/
theorem knows_create (sound : registry.Sound) (inputs : List Path) :
    (registry.create inputs).1.Knows (registry.create inputs).2 Job.Unstarted ∧
      ∀ other kind, registry.Knows other kind →
        (registry.create inputs).1.Knows other kind ∧ other ≠ (registry.create inputs).2 := by
  constructor
  · exact ⟨_, (mem_all_create sound inputs).mpr (.inl rfl), rfl, Job.unstarted_accepted _ _ _⟩
  · rintro other kind ⟨job, known, rfl, holds⟩
    exact ⟨⟨job, (mem_all_create sound inputs).mpr (.inr known), rfl, holds⟩,
      sound.fresh job known⟩

/-- A job that waits and was not cancelled gets the next free slot. -/
theorem exists_enter (under : registry.Underway id registry.inside)
    (free : registry.isFull = false) (unstarted : registry.Knows id Job.Unstarted)
    (sound : registry.Sound) : ∃ after, registry.enter id = (after, .entered) := by
  obtain ⟨job, found, unsettled, -⟩ := under.job
  obtain ⟨kept, named⟩ := find?_some found
  have waits : job.Unstarted := by
    obtain ⟨same, known, named', unstarted⟩ := unstarted
    rwa [sound.eq_of_id (List.mem_append_left _ kept) known (named.trans named'.symm)]
  have unasked : ¬ job.cancelRequested = true := fun requested => by
    simp [waits.settled.mpr requested] at unsettled
  have entered := under.enter free found
  rw [if_neg unasked] at entered
  obtain ⟨after, entered, -⟩ := entered
  exact ⟨after, entered⟩

/-- A job that gets a slot is admitted then, and the slot was free. -/
theorem knows_enter (under : registry.Underway id registry.inside)
    (entered : registry.enter id = (after, .entered)) :
    registry.isFull = false ∧ after.inside = registry.inside ++ [id] ∧
      after.Knows id Job.Going := by
  have free : registry.isFull = false := by
    cases full : registry.isFull with
    | false => rfl
    | true => simp [enter, full] at entered
  have same : after = (registry.enter id).1 := by rw [entered]
  obtain ⟨job, found, -⟩ := under.job
  have asked := under.enter free found
  split at asked
  next =>
    obtain ⟨_, turnedAway, -⟩ := asked
    simp [entered] at turnedAway
  next =>
    obtain ⟨reached, entered', holds⟩ := asked
    obtain ⟨rfl, -⟩ := Prod.mk.inj (entered.symm.trans entered')
    refine ⟨free, holds.inside, holds.knows ?_⟩
    rw [same]
    exact admitted_of_enter free

end Operations

/-- The unsettled jobs outside the slots are those that wait. -/
theorem waiting_eq (sound : registry.Sound) (apart : registry.inside.Nodup)
    (unsettled : ∀ id ∈ registry.inside, ∃ job ∈ registry.unsettled, job.id = id) :
    registry.occupancy.waiting =
      ((registry.unsettled.filter fun job => job.id ∉ registry.inside).length : Int) := by
  let within : Job → Bool := fun job => decide (job.id ∈ registry.inside)
  have ids : (registry.unsettled.map (·.id)).Nodup :=
    sound.apart_jobs.sublist (List.filter_sublist.map _)
  have taken : (registry.unsettled.filter within).map (·.id) ~ registry.inside := by
    rw [List.perm_ext_iff_of_nodup (ids.sublist (List.filter_sublist.map _)) apart]
    intro id
    constructor
    · intro member
      obtain ⟨job, known, rfl⟩ := List.mem_map.mp member
      simpa [within] using (List.mem_filter.mp known).2
    · intro member
      obtain ⟨job, known, rfl⟩ := unsettled id member
      exact List.mem_map_of_mem (List.mem_filter.mpr ⟨known, by simpa [within] using member⟩)
  have parts : registry.unsettled.length = registry.inside.length +
      (registry.unsettled.filter fun job => job.id ∉ registry.inside).length := by
    have count := List.length_eq_length_filter_add (l := registry.unsettled) within
    have slots := taken.length_eq
    rw [List.length_map] at slots
    simpa [within, slots] using count
  simp only [occupancy, parts]
  omega

end Registry

end Montage.Jobs
