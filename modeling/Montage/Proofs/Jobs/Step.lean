import Montage.Jobs.Registry
import Montage.Proofs.Jobs.Life
import Montage.Proofs.Numeric.Digits
import Mathlib.Data.List.Forall2
import Mathlib.Data.List.Nodup
import Mathlib.Logic.Relation

/-!
# Runs of the registry

The operations on the registry, one after the other and in any order.  Jobs are told apart
by their identifiers, and every operation leaves each job in place, be it at a later point
of its life or retired.
-/

namespace Montage.Jobs.Registry

open scoped List

section Lists

variable {α β : Type} {related : α → β → Prop} {first : List α} {second : List β}

theorem exists_of_forall₂_left (pairs : List.Forall₂ related first second) {left : α}
    (member : left ∈ first) : ∃ right ∈ second, related left right := by
  induction pairs with
  | nil => simp at member
  | cons head _ ih =>
      rcases List.mem_cons.mp member with rfl | later
      · exact ⟨_, List.mem_cons_self, head⟩
      · obtain ⟨right, known, pair⟩ := ih later
        exact ⟨right, List.mem_cons_of_mem _ known, pair⟩

theorem exists_of_forall₂_right (pairs : List.Forall₂ related first second) {right : β}
    (member : right ∈ second) : ∃ left ∈ first, related left right :=
  exists_of_forall₂_left pairs.flip member

end Lists

/-- One operation on the registry, or time that passes. -/
inductive Step : Registry → Registry → Prop where
  | create (registry : Registry) (inputs : List Path) :
      Step registry (registry.create inputs).1
  | updateProgress (registry : Registry) (id : String) (percent : Int) :
      Step registry (registry.updateProgress id percent)
  | setTarget (registry : Registry) (id : String) (path : Path) :
      Step registry (registry.setTarget id path)
  | finish (registry : Registry) (id : String) (output : Path) :
      Step registry (registry.finish id output)
  | fail (registry : Registry) (id : String) (failure : Failure) :
      Step registry (registry.fail id failure)
  | requestCancel (registry : Registry) (id : String) :
      Step registry (registry.requestCancel id)
  | cancel {registry after : Registry} {id : String}
      (cancelled : registry.cancel id = .ok after) : Step registry after
  | cancelAll (registry : Registry) : Step registry registry.cancelAll.1
  | clear (registry : Registry) : Step registry registry.clear
  | enter (registry : Registry) (id : String) : Step registry (registry.enter id).1
  | leave (registry : Registry) (id : String) : Step registry (registry.leave id)
  | pass {registry : Registry} {time : Binary64} (later : registry.clock ≤ time) :
      Step registry { registry with clock := time }

def Run : Registry → Registry → Prop :=
  Relation.ReflTransGen Step

def all (registry : Registry) : List Job :=
  registry.jobs ++ registry.retired

/-- What holds of every registry: time is positive, every job is sound, and the jobs are
numbered apart. -/
structure Sound (registry : Registry) : Prop where
  clock : 0 < registry.clock
  jobs : ∀ job ∈ registry.all, job.Sound
  apart : (registry.all.map (·.id)).Nodup
  numbered : ∀ job ∈ registry.all, ∃ number,
    0 < number ∧ number ≤ registry.accepted ∧ job.id = identifier number

/-- A sound registry that becomes another sound one, in which all its jobs are found again
at the same or a later point of their lives. -/
def Evolves (registry after : Registry) : Prop :=
  registry.Sound → after.Sound ∧ ∀ job ∈ registry.all, ∃ later ∈ after.all, job.Later later

variable {registry after last : Registry} {id : String}

theorem Evolves.refl (registry : Registry) : registry.Evolves registry := fun sound =>
  ⟨sound, fun job member => ⟨job, member, Job.Later.refl (sound.jobs job member)⟩⟩

theorem Evolves.trans (first : registry.Evolves after) (second : after.Evolves last) :
    registry.Evolves last := by
  intro sound
  obtain ⟨middle, moved⟩ := first sound
  obtain ⟨final, movedOn⟩ := second middle
  refine ⟨final, fun job member => ?_⟩
  obtain ⟨later, member, becomes⟩ := moved job member
  obtain ⟨latest, member, becomesThen⟩ := movedOn later member
  exact ⟨latest, member, becomes.trans becomesThen⟩

theorem Sound.eq_of_id (sound : registry.Sound) {first second : Job}
    (member : first ∈ registry.all) (member' : second ∈ registry.all)
    (same : first.id = second.id) : first = second :=
  List.inj_on_of_nodup_map sound.apart member member' same

theorem Sound.apart_jobs (sound : registry.Sound) : (registry.jobs.map (·.id)).Nodup := by
  have ids := sound.apart
  rw [all, List.map_append] at ids
  exact (List.nodup_append.mp ids).1

theorem Sound.forall_of_id (sound : registry.Sound) {holds : Job → Prop} {job : Job}
    (known : job ∈ registry.all) (named : job.id = id) (held : holds job) :
    ∀ other ∈ registry.all, other.id = id → holds other := by
  intro other member named'
  rwa [sound.eq_of_id member known (named'.trans named.symm)]

section Identifiers

theorem identifier_injective : Function.Injective identifier := by
  intro first second same
  apply Decimal.ofInt_natCast_injective
  simpa [identifier] using same

theorem Sound.fresh (sound : registry.Sound) :
    ∀ job ∈ registry.all, job.id ≠ identifier (registry.accepted + 1) := by
  intro job member named
  obtain ⟨number, -, bound, identified⟩ := sound.numbered job member
  have equal : number = registry.accepted + 1 :=
    identifier_injective (identified.symm.trans named)
  omega

end Identifiers

section Change

/-- Registries with the same jobs, each perhaps at a later point of its life. -/
theorem evolves_of_forall₂ (clock : 0 < registry.clock → 0 < after.clock)
    (accepted : after.accepted = registry.accepted)
    (moved : registry.Sound → List.Forall₂ Job.Later registry.all after.all) :
    registry.Evolves after := by
  intro sound
  have jobs := moved sound
  have ids : ∀ {before behind : List Job}, List.Forall₂ Job.Later before behind →
      before.map (·.id) = behind.map (·.id) := by
    intro before behind moved
    induction moved with
    | nil => rfl
    | cons later _ ih => simp [later.id, ih]
  have numbered : ∀ id ∈ after.all.map (·.id), ∃ number,
      0 < number ∧ number ≤ after.accepted ∧ id = identifier number := by
    intro id member
    rw [← ids jobs, List.mem_map] at member
    obtain ⟨job, known, rfl⟩ := member
    rw [accepted]
    exact sound.numbered job known
  refine ⟨⟨clock sound.clock, ?_, ids jobs ▸ sound.apart, ?_⟩, ?_⟩
  · intro job member
    obtain ⟨earlier, -, later⟩ := exists_of_forall₂_right jobs member
    exact later.sound
  · exact fun job member => numbered job.id (List.mem_map_of_mem member)
  · exact fun job member => exists_of_forall₂_left jobs member

theorem forall₂_changeIn {change : Job → Job} {jobs : List Job}
    (sound : ∀ job ∈ jobs, job.Sound)
    (later : ∀ job ∈ jobs, job.id = id → job.Later (change job)) :
    List.Forall₂ Job.Later jobs (changeIn id change jobs) := by
  rw [changeIn, List.forall₂_map_right_iff, List.forall₂_same]
  intro job member
  split
  next named => exact later job member named
  next => exact Job.Later.refl (sound job member)

theorem forall₂_same (jobs : List Job) (sound : ∀ job ∈ jobs, job.Sound) :
    List.Forall₂ Job.Later jobs jobs :=
  List.forall₂_same.mpr fun job member => Job.Later.refl (sound job member)

/-- A change to the jobs with an identifier that only moves them on in their lives. -/
theorem evolves_change {change : Job → Job}
    (later : registry.Sound → ∀ job ∈ registry.jobs, job.id = id → job.Later (change job)) :
    registry.Evolves (registry.change id change) := by
  refine evolves_of_forall₂ (fun clock => clock) rfl fun sound => ?_
  refine List.rel_append (forall₂_changeIn ?_ (later sound)) (forall₂_same _ ?_)
  · exact fun job member => sound.jobs job (List.mem_append_left _ member)
  · exact fun job member => sound.jobs job (List.mem_append_right _ member)

/-- A change that leaves the ends of jobs alone, also of those that are retired. -/
theorem evolves_changeAny {change : Job → Job} (sameId : ∀ job, (change job).id = job.id)
    (sameStart : ∀ job, (change job).startedAt = job.startedAt)
    (sameEnd : ∀ job : Job, job.SameEnd (change job)) :
    registry.Evolves (registry.changeAny id change) := by
  refine evolves_of_forall₂ (fun clock => clock) rfl fun sound => ?_
  have soundJobs : ∀ job ∈ registry.jobs, job.Sound := fun job member =>
    sound.jobs job (List.mem_append_left _ member)
  have soundRetired : ∀ job ∈ registry.retired, job.Sound := fun job member =>
    sound.jobs job (List.mem_append_right _ member)
  have moved : ∀ job : Job, job.Sound → job.Later (change job) := fun job sound =>
    Job.Later.of_sameEnd sound (sameId job) (sameStart job) (sameEnd job)
  exact List.rel_append
    (forall₂_changeIn soundJobs fun job member _ => moved job (soundJobs job member))
    (forall₂_changeIn soundRetired fun job member _ => moved job (soundRetired job member))

theorem evolves_of_jobs (clock : 0 < registry.clock → 0 < after.clock)
    (jobs : after.jobs = registry.jobs) (retired : after.retired = registry.retired)
    (accepted : after.accepted = registry.accepted) : registry.Evolves after := by
  refine evolves_of_forall₂ clock accepted fun sound => ?_
  have same : after.all = registry.all := by rw [all, all, jobs, retired]
  rw [same]
  exact forall₂_same _ sound.jobs

end Change

section Operations

theorem find?_some {job : Job} (found : registry.find? id = some job) :
    job ∈ registry.jobs ∧ job.id = id := by
  have named := List.find?_some found
  exact ⟨List.mem_of_find?_eq_some found, by simpa using named⟩

theorem Sound.eq_of_find? (sound : registry.Sound) {job other : Job}
    (found : registry.find? id = some job) (member : other ∈ registry.jobs)
    (named : other.id = id) : other = job := by
  obtain ⟨known, name⟩ := find?_some found
  exact sound.eq_of_id (List.mem_append_left _ member) (List.mem_append_left _ known)
    (named.trans name.symm)

theorem findAny?_some {job : Job} (found : registry.findAny? id = some job) :
    job ∈ registry.all ∧ job.id = id :=
  ⟨List.mem_of_find?_eq_some found, by simpa using List.find?_some found⟩

theorem Sound.findAny?_eq_some_iff (sound : registry.Sound) {job : Job} :
    registry.findAny? id = some job ↔ job ∈ registry.all ∧ job.id = id := by
  refine ⟨findAny?_some, fun ⟨member, named⟩ => ?_⟩
  cases found : registry.findAny? id with
  | none =>
      have absent := List.find?_eq_none.mp found job member
      simp [named] at absent
  | some same =>
      obtain ⟨known, named'⟩ := findAny?_some found
      rw [sound.eq_of_id known member (named'.trans named.symm)]

theorem Sound.find?_eq (sound : registry.Sound) {job : Job} (known : job ∈ registry.jobs)
    (named : job.id = id) : registry.find? id = some job := by
  cases found : registry.find? id with
  | none =>
      have absent := List.find?_eq_none.mp found job known
      simp [named] at absent
  | some other => rw [sound.eq_of_find? found known named]

theorem evolves_change_of_find? {job : Job} {change : Job → Job}
    (found : registry.find? id = some job)
    (later : registry.Sound → job.Sound → job.Later (change job)) :
    registry.Evolves (registry.change id change) := by
  refine evolves_change fun sound other member named => ?_
  obtain rfl := sound.eq_of_find? found member named
  exact later sound (sound.jobs other (List.mem_append_left _ member))

theorem evolves_publish (registry : Registry) (event : Event) :
    registry.Evolves (registry.publish event) :=
  evolves_of_jobs (fun clock => clock) rfl rfl rfl

/-- A percentage that counts moves its job on and is published; any other changes nothing. -/
theorem updateProgress_cases (registry : Registry) (id : String) (percent : Int) :
    (∃ job, registry.find? id = some job ∧ (job.settled = false ∧ job.progress < percent) ∧
      registry.updateProgress id percent =
        (registry.change id fun _ => job.advance percent).publish
          (.progress id (job.advance percent).state percent)) ∨
    (∀ job, registry.find? id = some job →
        ¬ (job.settled = false ∧ job.progress < percent)) ∧
      registry.updateProgress id percent = registry := by
  unfold updateProgress
  cases registry.find? id with
  | none => exact .inr ⟨by simp, rfl⟩
  | some job =>
      by_cases counts : job.settled = false ∧ job.progress < percent
      · have moves : ¬ (job.settled || decide (percent ≤ job.progress)) = true := by
          simp [counts]
        exact .inl ⟨job, rfl, counts, if_neg moves⟩
      · have rests : (job.settled || decide (percent ≤ job.progress)) = true := by
          cases settled : job.settled with
          | false => simpa [settled] using counts
          | true => rfl
        exact .inr ⟨by rintro _ ⟨⟩; exact counts, if_pos rests⟩

/-- A known job that has not settled is finished and this is published; otherwise nothing
changes. -/
theorem finish_cases (registry : Registry) (id : String) (output : Path) :
    (∃ job, registry.find? id = some job ∧ job.settled = false ∧
      registry.finish id output =
        (registry.change id (·.finish registry.clock output)).publish
          (.finished id output.name)) ∨
    (∀ job, registry.find? id = some job → job.settled = true) ∧
      registry.finish id output = registry := by
  unfold finish
  cases registry.find? id with
  | none => exact .inr ⟨by simp, rfl⟩
  | some job =>
      cases settled : job.settled with
      | false => exact .inl ⟨job, rfl, settled, by simp [settled]⟩
      | true => exact .inr ⟨by simpa using settled, by simp [settled]⟩

/-- A known job that has not settled fails and this is published; otherwise nothing changes. -/
theorem fail_cases (registry : Registry) (id : String) (failure : Failure) :
    (∃ job, registry.find? id = some job ∧ job.settled = false ∧
      registry.fail id failure =
        (registry.change id (·.fail registry.clock failure)).publish (.failed id failure)) ∨
    (∀ job, registry.find? id = some job → job.settled = true) ∧
      registry.fail id failure = registry := by
  unfold fail
  cases registry.find? id with
  | none => exact .inr ⟨by simp, rfl⟩
  | some job =>
      cases settled : job.settled with
      | false => exact .inl ⟨job, rfl, settled, by simp [settled]⟩
      | true => exact .inr ⟨by simpa using settled, by simp [settled]⟩

/-- A known job that is cancelled is asked to stop, and fails unless it ever got a slot. -/
theorem cancel_cases (cancelled : registry.cancel id = .ok after) :
    ∃ job, registry.find? id = some job ∧
      (job.admitted = true ∧ after = registry.requestCancel id ∨
        job.admitted = false ∧ after = (registry.requestCancel id).fail id .cancelled) := by
  unfold cancel get at cancelled
  cases found : registry.find? id with
  | none => simp [found] at cancelled
  | some job =>
      simp only [found, Except.ok.injEq] at cancelled
      cases admitted : job.admitted with
      | false => exact ⟨job, rfl, .inr ⟨admitted, by simp [← cancelled, admitted]⟩⟩
      | true => exact ⟨job, rfl, .inl ⟨admitted, by simp [← cancelled, admitted]⟩⟩

/-- A job that finds a free slot is admitted, and gets the slot unless it was cancelled. -/
theorem enter_cases (registry : Registry) (id : String) :
    registry.isFull = true ∧ registry.enter id = (registry, .full) ∨
    registry.isFull = false ∧ ∃ admitted,
      admitted = registry.changeAny id (fun job => { job with admitted := true }) ∧
      ((registry.findAny? id).any (·.cancelRequested) = true ∧
          registry.enter id = (admitted, .turnedAway) ∨
        (registry.findAny? id).any (·.cancelRequested) = false ∧
          registry.enter id =
            ({ admitted with inside := admitted.inside ++ [id] }, .entered)) := by
  unfold enter
  cases registry.isFull with
  | true => exact .inl ⟨rfl, rfl⟩
  | false =>
      refine .inr ⟨rfl, _, rfl, ?_⟩
      cases (registry.findAny? id).any (·.cancelRequested) with
      | false => exact .inr ⟨rfl, rfl⟩
      | true => exact .inl ⟨rfl, rfl⟩

/-- What is kept when one job is cancelled is kept when many are. -/
theorem cancelEach_induction {motive : Registry → Prop}
    (step : ∀ {registry after : Registry} {id : String}, registry.cancel id = .ok after →
      motive registry → motive after)
    (jobs : List Job) (start : motive registry) : motive (registry.cancelEach jobs) := by
  unfold cancelEach
  induction jobs generalizing registry with
  | nil => exact start
  | cons job jobs ih =>
      rw [List.foldl_cons]
      cases cancelled : registry.cancel job.id with
      | error reason => exact ih start
      | ok after => exact ih (step cancelled start)

theorem evolves_updateProgress (registry : Registry) (id : String) (percent : Int) :
    registry.Evolves (registry.updateProgress id percent) := by
  rcases updateProgress_cases registry id percent with
    ⟨job, found, ⟨unsettled, above⟩, moved⟩ | ⟨-, same⟩
  · rw [moved]
    refine (evolves_change_of_find? found fun _ sound => ?_).trans (evolves_publish _ _)
    exact sound.later_advance unsettled above
  · rw [same]
    exact Evolves.refl registry

theorem evolves_setTarget (registry : Registry) (id : String) (path : Path) :
    registry.Evolves (registry.setTarget id path) :=
  evolves_change fun sound job member _ =>
    Job.Later.of_sameEnd (sound.jobs job (List.mem_append_left _ member)) rfl rfl
      ⟨rfl, rfl, rfl, rfl, rfl, rfl⟩

theorem evolves_finish (registry : Registry) (id : String) (output : Path) :
    registry.Evolves (registry.finish id output) := by
  rcases finish_cases registry id output with ⟨job, found, unsettled, ended⟩ | ⟨-, same⟩
  · rw [ended]
    refine (evolves_change_of_find? found fun registered sound => ?_).trans
      (evolves_publish _ _)
    exact sound.later_finish unsettled registered.clock output
  · rw [same]
    exact Evolves.refl registry

theorem evolves_fail (registry : Registry) (id : String) (failure : Failure) :
    registry.Evolves (registry.fail id failure) := by
  rcases fail_cases registry id failure with ⟨job, found, unsettled, ended⟩ | ⟨-, same⟩
  · rw [ended]
    refine (evolves_change_of_find? found fun registered sound => ?_).trans
      (evolves_publish _ _)
    exact sound.later_fail unsettled registered.clock failure
  · rw [same]
    exact Evolves.refl registry

theorem evolves_requestCancel (registry : Registry) (id : String) :
    registry.Evolves (registry.requestCancel id) :=
  evolves_changeAny (fun _ => rfl) (fun _ => rfl) fun _ => ⟨rfl, rfl, rfl, rfl, rfl, rfl⟩

theorem evolves_cancel (cancelled : registry.cancel id = .ok after) :
    registry.Evolves after := by
  have requested := evolves_requestCancel registry id
  obtain ⟨job, -, ⟨-, rfl⟩ | ⟨-, rfl⟩⟩ := cancel_cases cancelled
  · exact requested
  · exact requested.trans (evolves_fail _ id .cancelled)

theorem evolves_cancelEach (registry : Registry) (jobs : List Job) :
    registry.Evolves (registry.cancelEach jobs) :=
  cancelEach_induction (fun cancelled evolves => evolves.trans (evolves_cancel cancelled)) jobs
    (Evolves.refl registry)

theorem evolves_enter (registry : Registry) (id : String) :
    registry.Evolves (registry.enter id).1 := by
  rcases enter_cases registry id with ⟨-, full⟩ | ⟨-, admitted, made, ⟨-, away⟩ | ⟨-, entered⟩⟩
  · rw [full]
    exact Evolves.refl registry
  all_goals
    have moved : registry.Evolves admitted := by
      rw [made]
      exact evolves_changeAny (fun _ => rfl) (fun _ => rfl) fun _ =>
        ⟨rfl, rfl, rfl, rfl, rfl, rfl⟩
  · rw [away]
    exact moved
  · rw [entered]
    exact moved.trans (evolves_of_jobs (fun clock => clock) rfl rfl rfl)

theorem evolves_leave (registry : Registry) (id : String) :
    registry.Evolves (registry.leave id) :=
  evolves_of_jobs (fun clock => clock) rfl rfl rfl

/-- The clock may be set back, though not to zero. -/
theorem evolves_pass {time : Binary64} (positive : 0 < registry.clock → 0 < time) :
    registry.Evolves { registry with clock := time } :=
  evolves_of_jobs positive rfl rfl rfl

theorem evolves_of_perm (clock : 0 < registry.clock → 0 < after.clock)
    (accepted : after.accepted = registry.accepted)
    (moved : registry.Sound → after.all ~ registry.all) : registry.Evolves after := by
  intro sound
  have moved := moved sound
  refine ⟨⟨clock sound.clock, ?_, ?_, ?_⟩, ?_⟩
  · exact fun job member => sound.jobs job (moved.mem_iff.mp member)
  · exact (moved.map (·.id)).nodup_iff.mpr sound.apart
  · intro job member
    rw [accepted]
    exact sound.numbered job (moved.mem_iff.mp member)
  · exact fun job member =>
      ⟨job, moved.mem_iff.mpr member, Job.Later.refl (sound.jobs job member)⟩

theorem evolves_clear (registry : Registry) : registry.Evolves registry.clear := by
  refine evolves_of_perm (fun clock => clock) rfl fun _ => ?_
  simpa [all, clear] using List.perm_append_comm

theorem outdated_spec (registry : Registry) :
    (∀ job ∈ registry.outdated, job ∈ registry.jobs ∧ job.settled = true) ∧
      (registry.jobs.Nodup → registry.outdated.Nodup) := by
  have sorted := List.mergeSort_perm (registry.jobs.filter (·.settled))
    fun first second => decide (first.settledAt ≤ second.settledAt)
  refine ⟨fun job member => ?_, fun nodup => ?_⟩
  · have settled := sorted.mem_iff.mp (List.mem_of_mem_take member)
    simpa using settled
  · exact (sorted.nodup_iff.mpr (nodup.filter _)).sublist (List.take_sublist _ _)

/-- Outdated jobs are retired, and no job is lost. -/
theorem all_prune_perm (sound : registry.Sound) :
    registry.prune.all ~ registry.all := by
  obtain ⟨known, once⟩ := outdated_spec registry
  have nodup : registry.jobs.Nodup := sound.apart_jobs.of_map
  let gone : Job → Bool := fun job => decide (job.id ∈ registry.outdated.map (·.id))
  have chosen : registry.jobs.filter gone ~ registry.outdated := by
    rw [List.perm_ext_iff_of_nodup (nodup.filter _) (once nodup)]
    intro job
    simp only [gone, List.mem_filter, decide_eq_true_eq, List.mem_map]
    constructor
    · rintro ⟨member, other, outdated, same⟩
      have equal := sound.eq_of_id (List.mem_append_left _ (known other outdated).1)
        (List.mem_append_left _ member) same
      rwa [← equal]
    · exact fun outdated => ⟨(known job outdated).1, job, outdated, rfl⟩
  have kept : registry.prune.jobs = registry.jobs.filter fun job => !gone job := by
    simp only [prune, gone, decide_not]
  calc registry.prune.all
      = (registry.jobs.filter fun job => !gone job) ++
          (registry.retired ++ registry.outdated) := by rw [all, kept]; rfl
    _ ~ ((registry.jobs.filter fun job => !gone job) ++
          (registry.outdated ++ registry.retired)) :=
        List.perm_append_comm.append_left _
    _ = ((registry.jobs.filter fun job => !gone job) ++ registry.outdated) ++
          registry.retired := by rw [List.append_assoc]
    _ ~ ((registry.outdated ++ (registry.jobs.filter fun job => !gone job)) ++
          registry.retired) := List.perm_append_comm.append_right _
    _ ~ ((registry.jobs.filter gone ++ (registry.jobs.filter fun job => !gone job)) ++
          registry.retired) := (chosen.symm.append_right _).append_right _
    _ ~ registry.all := (List.filter_append_perm gone _).append_right _

theorem evolves_prune (registry : Registry) : registry.Evolves registry.prune :=
  evolves_of_perm (fun clock => clock) rfl all_prune_perm

theorem evolves_accept (registry : Registry) (inputs : List Path) :
    registry.Evolves { registry with
      jobs := registry.jobs ++
        [Job.accepted (identifier (registry.accepted + 1)) registry.clock inputs]
      accepted := registry.accepted + 1 } := by
  intro sound
  let job := Job.accepted (identifier (registry.accepted + 1)) registry.clock inputs
  have perm : (registry.jobs ++ [job]) ++ registry.retired ~ job :: registry.all := by
    rw [List.append_assoc, List.singleton_append]
    exact List.perm_middle
  have members : ∀ other, other ∈ (registry.jobs ++ [job]) ++ registry.retired ↔
      other = job ∨ other ∈ registry.all := fun other => by
    rw [perm.mem_iff, List.mem_cons]
  have fresh : job.id ∉ registry.all.map (·.id) := by
    intro member
    obtain ⟨other, known, same⟩ := List.mem_map.mp member
    exact sound.fresh other known same
  refine ⟨⟨sound.clock, ?_, ?_, ?_⟩, ?_⟩
  · intro other member
    rcases (members other).mp member with rfl | known
    · exact Job.sound_accepted _ _ _
    · exact sound.jobs other known
  · have distinct : ((job :: registry.all).map (·.id)).Nodup := by
      rw [List.map_cons, List.nodup_cons]
      exact ⟨fresh, sound.apart⟩
    exact (perm.map (·.id)).nodup_iff.mpr distinct
  · intro other member
    rcases (members other).mp member with rfl | known
    · exact ⟨registry.accepted + 1, Nat.succ_pos _, le_refl _, rfl⟩
    · obtain ⟨number, positive, bound, name⟩ := sound.numbered other known
      exact ⟨number, positive, Nat.le_succ_of_le bound, name⟩
  · exact fun other known =>
      ⟨other, (members other).mpr (.inr known), Job.Later.refl (sound.jobs other known)⟩

theorem evolves_create (registry : Registry) (inputs : List Path) :
    registry.Evolves (registry.create inputs).1 :=
  ((evolves_accept registry inputs).trans (evolves_prune _)).trans (evolves_publish _ _)

end Operations

theorem Step.evolves (step : Step registry after) : registry.Evolves after := by
  cases step with
  | create inputs => exact evolves_create registry inputs
  | updateProgress id percent => exact evolves_updateProgress registry id percent
  | setTarget id path => exact evolves_setTarget registry id path
  | finish id output => exact evolves_finish registry id output
  | fail id failure => exact evolves_fail registry id failure
  | requestCancel id => exact evolves_requestCancel registry id
  | cancel cancelled => exact evolves_cancel cancelled
  | cancelAll => exact evolves_cancelEach registry registry.unsettled
  | clear => exact evolves_clear registry
  | enter id => exact evolves_enter registry id
  | leave id => exact evolves_leave registry id
  | pass later => exact evolves_pass fun clock => Binary64.zero_lt_of_le clock later

theorem Run.evolves (run : Run registry after) : registry.Evolves after := by
  induction run with
  | refl => exact Evolves.refl registry
  | tail _ step ih => exact ih.trans step.evolves

theorem sound_start (maxConcurrent maxFinished : Int) {clock : Binary64}
    (positive : 0 < clock) : (start maxConcurrent maxFinished clock).Sound :=
  ⟨positive, by simp [all, start], by simp [all, start], by simp [all, start]⟩

end Montage.Jobs.Registry
