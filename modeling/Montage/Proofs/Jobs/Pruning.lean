import Montage.Proofs.Jobs.Retention
import Mathlib.Data.List.Perm.Subperm

/-!
# Pruning

A new job makes room for itself among the settled ones.  Those that ended last stay, of jobs that
ended at the same time those that were created last, and no job that is not settled has to go.
-/

namespace Montage.Jobs

open scoped List

section Pairs

variable {α : Type} {first second : α} {items before behind : List α}

theorem pair_sublist_or (member : first ∈ items) (member' : second ∈ items)
    (apart : first ≠ second) : [first, second] <+ items ∨ [second, first] <+ items := by
  induction items with
  | nil => simp at member
  | cons item items ih =>
      rcases List.mem_cons.mp member with rfl | later
      · have later' : second ∈ items := (List.mem_cons.mp member').resolve_left apart.symm
        exact .inl ((List.singleton_sublist.mpr later').cons_cons first)
      · rcases List.mem_cons.mp member' with rfl | later'
        · exact .inr ((List.singleton_sublist.mpr later).cons_cons second)
        · exact (ih later later').imp (.cons item) (.cons item)

theorem not_pair_sublist_of_nodup (once : items.Nodup) (inOrder : [first, second] <+ items) :
    ¬ [second, first] <+ items := by
  induction items with
  | nil => simp at inOrder
  | cons item items ih =>
      obtain ⟨new, once⟩ := List.nodup_cons.mp once
      intro reversed
      cases inOrder with
      | cons _ inOrder =>
          cases reversed with
          | cons _ reversed => exact ih once inOrder reversed
          | cons_cons _ _ => exact new (inOrder.subset (by simp))
      | cons_cons _ later =>
          cases reversed with
          | cons _ reversed => exact new (reversed.subset (by simp))
          | cons_cons _ _ => exact new (List.singleton_sublist.mp later)

/-- Parts of a list without repetitions are told from their members. -/
theorem eq_of_sublist_of_mem_iff (once : items.Nodup) (part : before <+ items)
    (part' : behind <+ items) (same : ∀ item, item ∈ before ↔ item ∈ behind) :
    before = behind := by
  induction items generalizing before behind with
  | nil => rw [List.sublist_nil.mp part, List.sublist_nil.mp part']
  | cons item items ih =>
      obtain ⟨new, once⟩ := List.nodup_cons.mp once
      cases part with
      | cons _ part =>
          cases part' with
          | cons _ part' => exact ih once part part' same
          | cons_cons _ _ => exact absurd (part.subset ((same item).mpr (by simp))) new
      | @cons_cons before _ _ part =>
          cases part' with
          | cons _ part' => exact absurd (part'.subset ((same item).mp (by simp))) new
          | @cons_cons behind _ _ part' =>
              congr 1
              refine ih once part part' fun other => ?_
              by_cases here : other = item
              · subst here
                exact iff_of_false (fun member => new (part.subset member))
                  fun member => new (part'.subset member)
              · simpa [here] using same other

end Pairs

/-- Whether a settled job ended later than another, or at the same time and was created later. -/
def Outlasts (jobs : List Job) (job other : Job) : Prop :=
  other.settledAt < job.settledAt ∨ other.settledAt = job.settledAt ∧ [other, job] <+ jobs

/-- What is kept of jobs when so many settled ones stay. -/
structure KeepsLatest (limit : Nat) (jobs kept : List Job) : Prop where
  inOrder : kept <+ jobs
  unsettled : ∀ job ∈ jobs, job.settled = false → job ∈ kept
  count : (kept.filter (·.settled)).length = min limit (jobs.filter (·.settled)).length
  latest : ∀ job ∈ kept, job.settled = true → ∀ other ∈ jobs, other ∉ kept →
    Outlasts jobs job other

theorem Job.Sound.zero_lt_settledAt {job : Job} (sound : job.Sound)
    (settled : job.settled = true) : 0 < job.settledAt := by
  obtain ⟨time, ended⟩ := Option.isSome_iff_exists.mp (sound.ended.mp settled)
  rw [Job.settledAt, ended]
  exact sound.time time ended

theorem Job.Sound.settledAt_ne_nan {job : Job} (sound : job.Sound)
    (settled : job.settled = true) : job.settledAt ≠ .nan :=
  (Binary64.ne_nan_of_le (Binary64.le_of_lt (sound.zero_lt_settledAt settled))).2

theorem Outlasts.asymm {jobs : List Job} {job other : Job} (once : jobs.Nodup)
    (outlasts : Outlasts jobs job other) : ¬ Outlasts jobs other job := by
  intro outlasts'
  rcases outlasts with later | ⟨same, inOrder⟩
  · rcases outlasts' with earlier | ⟨same, -⟩
    · exact Binary64.lt_asymm later earlier
    · exact Binary64.lt_asymm later (same ▸ later)
  · rcases outlasts' with earlier | ⟨-, reversed⟩
    · exact Binary64.lt_asymm earlier (same ▸ earlier)
    · exact not_pair_sublist_of_nodup once inOrder reversed

namespace KeepsLatest

variable {limit : Nat} {jobs kept kept' : List Job}

theorem settled_of_dropped (keeps : KeepsLatest limit jobs kept) {job : Job} (member : job ∈ jobs)
    (dropped : job ∉ kept) : job.settled = true := by
  cases settled : job.settled with
  | true => rfl
  | false => exact absurd (keeps.unsettled job member settled) dropped

theorem subset (once : jobs.Nodup) (keeps : KeepsLatest limit jobs kept)
    (keeps' : KeepsLatest limit jobs kept') : kept ⊆ kept' := by
  intro job member
  by_contra dropped
  have settled := keeps'.settled_of_dropped (keeps.inOrder.subset member) dropped
  -- Whatever settled job is kept in its stead is kept as well, since one of the two outlasts.
  have others : kept'.filter (·.settled) ⊆ kept.filter (·.settled) := by
    intro other member'
    obtain ⟨stays, ended⟩ := List.mem_filter.mp member'
    refine List.mem_filter.mpr ⟨?_, ended⟩
    by_contra dropped'
    have outlasts := keeps.latest job member settled other (keeps'.inOrder.subset stays) dropped'
    exact outlasts.asymm once
      (keeps'.latest other stays ended job (keeps.inOrder.subset member) dropped)
  have all : kept'.filter (·.settled) ~ kept.filter (·.settled) :=
    ((keeps'.inOrder.nodup once).filter _).subperm others |>.perm_of_length_le
      (keeps.count.trans keeps'.count.symm).le
  have present := all.symm.subset (List.mem_filter.mpr ⟨member, settled⟩)
  exact dropped (List.mem_of_mem_filter present)

/-- A job that is not settled has no part in what is kept of the jobs before it. -/
theorem of_append {new : Job} (fresh : new ∉ jobs) (unsettled : new.settled = false)
    (part : kept <+ jobs) (keeps : KeepsLatest limit (jobs ++ [new]) (kept ++ [new])) :
    KeepsLatest limit jobs kept where
  inOrder := part
  unsettled := fun job member going => by
    have stays := keeps.unsettled job (List.mem_append_left _ member) going
    refine (List.mem_append.mp stays).resolve_right fun last => fresh ?_
    rwa [← List.mem_singleton.mp last]
  count := by simpa [List.filter_append, unsettled] using keeps.count
  latest := fun job stays settled other member dropped => by
    have known := List.mem_append_left [new] member
    have gone : other ∉ kept ++ [new] := fun listed =>
      (List.mem_append.mp listed).elim dropped fun last =>
        fresh (List.mem_singleton.mp last ▸ member)
    have settled' := keeps.settled_of_dropped known gone
    refine (keeps.latest job (List.mem_append_left _ stays) settled other known gone).imp_right
      (And.imp_right fun inOrder => ?_)
    have pair : [other, job] <+ jobs.filter (·.settled) := by
      simpa [List.filter_append, settled, settled', unsettled] using inOrder.filter (·.settled)
    exact pair.trans List.filter_sublist

theorem unique (once : jobs.Nodup) (keeps : KeepsLatest limit jobs kept)
    (keeps' : KeepsLatest limit jobs kept') : kept = kept' :=
  eq_of_sublist_of_mem_iff once keeps.inOrder keeps'.inOrder fun _ =>
    ⟨fun member => keeps.subset once keeps' member, fun member => keeps'.subset once keeps member⟩

end KeepsLatest

namespace Registry

variable {registry : Registry} {job other : Job}

def byEnd (registry : Registry) : List Job :=
  (registry.jobs.filter (·.settled)).mergeSort fun first second =>
    first.settledAt ≤ second.settledAt

theorem byEnd_perm (registry : Registry) :
    registry.byEnd ~ registry.jobs.filter (·.settled) :=
  List.mergeSort_perm _ _

theorem mem_byEnd : job ∈ registry.byEnd ↔ job ∈ registry.jobs ∧ job.settled = true := by
  rw [registry.byEnd_perm.mem_iff, List.mem_filter]

theorem outdated_eq (limited : 0 ≤ registry.maxFinished) :
    registry.outdated =
      registry.byEnd.take (registry.byEnd.length - registry.maxFinished.toNat) := by
  rw [outdated, surplus, if_neg (by omega), registry.byEnd_perm.length_eq]
  rfl

theorem Sound.nodup_jobs (sound : registry.Sound) : registry.jobs.Nodup :=
  sound.apart_jobs.of_map

theorem Sound.nodup_byEnd (sound : registry.Sound) : registry.byEnd.Nodup :=
  registry.byEnd_perm.nodup_iff.mpr (sound.nodup_jobs.filter _)

theorem Sound.settledAt_ne_nan (sound : registry.Sound) (member : job ∈ registry.jobs)
    (settled : job.settled = true) : job.settledAt ≠ .nan :=
  (sound.jobs job (List.mem_append_left _ member)).settledAt_ne_nan settled

/-- Since all ends are numbers, sorting by them is sorting by a total order. -/
theorem Sound.byEnd_eq (sound : registry.Sound) :
    registry.byEnd = (registry.jobs.filter (·.settled)).mergeSort fun first second =>
      decide (first.settledAt.rank ≤ second.settledAt.rank) := by
  have ranked := List.map_mergeSort (l := registry.jobs.filter (·.settled)) (f := id)
    (r := fun first second => decide (first.settledAt ≤ second.settledAt))
    (s := fun first second => decide (first.settledAt.rank ≤ second.settledAt.rank))
    fun first member second member' => ?_
  · simpa [byEnd] using ranked
  · obtain ⟨known, settled⟩ := List.mem_filter.mp member
    obtain ⟨known', settled'⟩ := List.mem_filter.mp member'
    exact decide_eq_decide.mpr (Binary64.le_iff_rank (sound.settledAt_ne_nan known settled)
      (sound.settledAt_ne_nan known' settled'))

/-- Of two settled jobs the one that outlasts the other comes last in the order of ends. -/
theorem Sound.outlasts_of_byEnd (sound : registry.Sound)
    (inOrder : [other, job] <+ registry.byEnd) : Outlasts registry.jobs job other := by
  have trans : ∀ first second third : Job,
      decide (first.settledAt.rank ≤ second.settledAt.rank) = true →
      decide (second.settledAt.rank ≤ third.settledAt.rank) = true →
      decide (first.settledAt.rank ≤ third.settledAt.rank) = true := by
    simp only [decide_eq_true_eq]
    exact fun _ _ _ => le_trans
  have total : ∀ first second : Job, (decide (first.settledAt.rank ≤ second.settledAt.rank) ||
      decide (second.settledAt.rank ≤ first.settledAt.rank)) = true := by
    simp only [Bool.or_eq_true, decide_eq_true_eq]
    exact fun _ _ => le_total _ _
  obtain ⟨known, settled⟩ := mem_byEnd.mp (inOrder.subset (a := other) (by simp))
  obtain ⟨known', settled'⟩ := mem_byEnd.mp (inOrder.subset (a := job) (by simp))
  have sorted := List.pairwise_mergeSort trans total (registry.jobs.filter (·.settled))
  rw [← sound.byEnd_eq] at sorted
  have atMost : other.settledAt.rank ≤ job.settledAt.rank := by
    simpa using sorted.sublist inOrder
  have number := sound.settledAt_ne_nan known settled
  have number' := sound.settledAt_ne_nan known' settled'
  rcases atMost.lt_or_eq with earlier | same
  · exact .inl ((Binary64.lt_iff_rank number number').mpr earlier)
  · refine .inr ⟨?_, ?_⟩
    · exact Binary64.eq_of_le_of_le
        ((sound.jobs other (List.mem_append_left _ known)).zero_lt_settledAt settled)
        ((Binary64.le_iff_rank number number').mpr same.le)
        ((Binary64.le_iff_rank number' number).mpr same.ge)
    · have apart : other ≠ job := by
        rintro rfl
        simpa using sound.nodup_byEnd.sublist inOrder
      refine (pair_sublist_or known known' apart).resolve_right fun reversed => ?_
      -- Sorting is stable: the job that was created first would come first in the order of ends.
      have pair : [job, other] <+ registry.jobs.filter (·.settled) := by
        simpa [settled, settled'] using reversed.filter (·.settled)
      have pair' := List.pair_sublist_mergeSort trans total (decide_eq_true same.ge) pair
      rw [← sound.byEnd_eq] at pair'
      exact not_pair_sublist_of_nodup sound.nodup_byEnd inOrder pair'

theorem Sound.prune_perm (sound : registry.Sound) :
    registry.prune.jobs ++ registry.outdated ~ registry.jobs := by
  refine (List.perm_append_right_iff registry.retired).mp ?_
  calc (registry.prune.jobs ++ registry.outdated) ++ registry.retired
      = registry.prune.jobs ++ (registry.outdated ++ registry.retired) := List.append_assoc _ _ _
    _ ~ registry.prune.all := List.perm_append_comm.append_left _
    _ ~ registry.jobs ++ registry.retired := all_prune_perm sound

theorem Sound.mem_outdated_iff (sound : registry.Sound) (member : job ∈ registry.jobs) :
    job ∈ registry.outdated ↔ job ∉ registry.prune.jobs := by
  have parts := sound.prune_perm
  obtain ⟨-, -, apart⟩ := List.nodup_append.mp (parts.nodup_iff.mpr sound.nodup_jobs)
  constructor
  · exact fun gone stays => apart job stays job gone rfl
  · exact (List.mem_append.mp (parts.mem_iff.mpr member)).resolve_left

/-- Pruning keeps the jobs that are not settled and the settled ones that ended last. -/
theorem Sound.keepsLatest_prune (sound : registry.Sound) (limited : 0 ≤ registry.maxFinished) :
    KeepsLatest registry.maxFinished.toNat registry.jobs registry.prune.jobs where
  inOrder := List.filter_sublist
  unsettled := fun job member unsettled => by
    by_contra dropped
    have settled := (registry.outdated_spec.1 job ((sound.mem_outdated_iff member).mpr dropped)).2
    simp [unsettled] at settled
  count := by
    have parts := (sound.prune_perm.filter (·.settled)).length_eq
    have gone : registry.outdated.filter (·.settled) = registry.outdated :=
      List.filter_eq_self.mpr fun job outdated => (registry.outdated_spec.1 job outdated).2
    have ended := registry.byEnd_perm.length_eq
    rw [List.filter_append, List.length_append, gone, outdated_eq limited,
      List.length_take] at parts
    omega
  latest := fun job stays settled other member dropped => by
    refine sound.outlasts_of_byEnd ?_
    have parted := List.take_append_drop (registry.byEnd.length - registry.maxFinished.toNat)
      registry.byEnd
    rw [← outdated_eq limited] at parted
    have known := List.mem_of_mem_filter stays
    have earlier : other ∈ registry.outdated := (sound.mem_outdated_iff member).mpr dropped
    have later : job ∈ registry.byEnd.drop
        (registry.byEnd.length - registry.maxFinished.toNat) := by
      have listed : job ∈ registry.byEnd := mem_byEnd.mpr ⟨known, settled⟩
      rw [← parted] at listed
      exact (List.mem_append.mp listed).resolve_left fun gone =>
        (sound.mem_outdated_iff known).mp gone stays
    rw [← parted]
    exact (List.singleton_sublist.mpr earlier).append (List.singleton_sublist.mpr later)

/-- After a new job there are that job, behind the others in their order, the jobs that were not
settled, and of the settled ones so many that ended last. -/
theorem create_keeps_latest {maxConcurrent maxFinished : Int} {clock : Binary64}
    (positive : 0 < clock) (run : Run (start maxConcurrent maxFinished clock) registry)
    (limited : 0 ≤ registry.maxFinished) (inputs : List Path) :
    ∃ kept, (registry.create inputs).1.jobs =
        kept ++ [Job.accepted (registry.create inputs).2 registry.clock inputs] ∧
      (∀ job ∈ registry.jobs, job.id ≠ (registry.create inputs).2) ∧
      KeepsLatest registry.maxFinished.toNat registry.jobs kept ∧
      ∀ other, KeepsLatest registry.maxFinished.toNat registry.jobs other → other = kept := by
  obtain ⟨sound, -⟩ := run.evolves (sound_start maxConcurrent maxFinished positive)
  have accepted : (registry.accept inputs).Sound := (evolves_accept registry inputs sound).1
  obtain ⟨kept, jobs, part, -⟩ := jobs_create sound inputs
  have fresh : ∀ job ∈ registry.jobs, job.id ≠ (registry.create inputs).2 := fun job member =>
    sound.fresh job (List.mem_append_left _ member)
  have keeps : KeepsLatest registry.maxFinished.toNat (registry.accept inputs).jobs
      (registry.create inputs).1.jobs := accepted.keepsLatest_prune limited
  rw [jobs] at keeps
  have keeps : KeepsLatest registry.maxFinished.toNat registry.jobs kept :=
    keeps.of_append (fun member => fresh _ member rfl) rfl part
  exact ⟨kept, jobs, fresh, keeps, fun other keeps' => keeps'.unique sound.nodup_jobs keeps⟩

/-- Three jobs, the first and the last of which failed at the same time, where one settled job is
kept. -/
def twoFailed : Registry :=
  let three := (((((start 1 1 1000).create []).1.create []).1).create []).1
  (three.fail "job-1" ⟨.encode, "no output"⟩).fail "job-3" ⟨.encode, "no output"⟩

theorem run_twoFailed : Run (start 1 1 1000) twoFailed :=
  ((((Relation.ReflTransGen.single (.create _ [])).tail (.create _ [])).tail
    (.create _ [])).tail (.fail _ "job-1" ⟨.encode, "no output"⟩)).tail
      (.fail _ "job-3" ⟨.encode, "no output"⟩)

theorem keepsLatest_twoFailed : KeepsLatest 1 twoFailed.jobs (twoFailed.jobs.drop 1) := by
  have ends : twoFailed.jobs.map (fun job => (job.settled, job.settledAt)) =
      [(true, 1000), (false, 0), (true, 1000)] := by decide +kernel
  generalize twoFailed.jobs = jobs at ends ⊢
  obtain ⟨first, others, rfl, ended, ends⟩ := List.map_eq_cons_iff.mp ends
  obtain ⟨second, others, rfl, goesOn, ends⟩ := List.map_eq_cons_iff.mp ends
  obtain ⟨third, others, rfl, ended', ends⟩ := List.map_eq_cons_iff.mp ends
  obtain rfl := List.map_eq_nil_iff.mp ends
  simp only [Prod.mk.injEq] at ended goesOn ended'
  have inOrder : [first, third] <+ [first, second, third] := by simp
  constructor
  · simp
  · simp [ended]
  · simp [ended, goesOn, ended']
  · intro job stays settled other member dropped
    obtain rfl : job = third := by
      rcases List.mem_pair.mp stays with rfl | rfl
      · simp [goesOn] at settled
      · rfl
    obtain rfl : other = first :=
      (List.mem_cons.mp member).resolve_right fun later => dropped later
    exact .inr ⟨ended.2.trans ended'.2.symm, inOrder⟩

/-- A fourth job takes the place of the first, which was created before the third. -/
theorem create_keeps_latest_twoFailed :
    Run (start 1 1 1000) twoFailed ∧ 0 ≤ twoFailed.maxFinished ∧
      (twoFailed.create []).1.jobs.map (·.id) = ["job-2", "job-3", "job-4"] := by
  have positive : 0 < (1000 : Binary64) := by decide +kernel
  have limited : 0 ≤ twoFailed.maxFinished := by decide
  obtain ⟨kept, jobs, -, -, only⟩ := create_keeps_latest positive run_twoFailed limited []
  refine ⟨run_twoFailed, limited, ?_⟩
  rw [jobs, ← only _ keepsLatest_twoFailed]
  decide

end Registry

end Montage.Jobs
