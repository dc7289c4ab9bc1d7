import Montage.Proofs.Jobs.Shift
import Mathlib.Data.List.Range

/-!
# Order in a shift

Whatever is done in a shift, every render is taken from the queue once and in the order of
submission, and no encoder is started for a job that was cancelled before it got a slot.  A job
whose render was taken is settled unless its run was broken off by a fault.
-/

namespace Montage.Jobs.Shift

variable {shift after last : Shift} {id : String} {job : Job} {entry : Entry}
  {command : List String} {fault : Option Fault}

def Waits (shift : Shift) (id : String) : Prop :=
  id ∈ shift.waiting.map (·.job)

instance (shift : Shift) (id : String) : Decidable (shift.Waits id) :=
  inferInstanceAs (Decidable (id ∈ shift.waiting.map (·.job)))

/-- What holds in every shift. -/
structure Orderly (shift : Shift) : Prop where
  sound : shift.queue.registry.Sound
  slots : 0 < shift.queue.registry.maxConcurrent
  vacant : shift.queue.registry.inside = []
  retired : ∀ job ∈ shift.queue.registry.retired, job.settled = true
  numbered : shift.submitted =
    (List.range shift.queue.registry.accepted).map fun number => Registry.identifier (number + 1)
  known : ∀ id ∈ shift.submitted, ∃ job ∈ shift.queue.registry.all, job.id = id
  inTurn : shift.ran ++ shift.waiting.map (·.job) = shift.submitted
  unstarted : ∀ job ∈ shift.queue.registry.all, shift.Waits job.id → job.Unstarted
  taken : ∀ job ∈ shift.queue.registry.all, ¬ shift.Waits job.id →
    (job.settled = false ↔ job.id ∈ shift.brokenOff) ∧
      (job.settled = false → job.admitted = true)

/-- How a shift goes on: jobs move on in their lives, and for those that have settled no encoder is
started any more. -/
structure Continues (shift after : Shift) : Prop where
  evolves : shift.queue.registry.Evolves after.queue.registry
  started : ∀ job ∈ shift.queue.registry.all, job.settled = true → job.id ∈ after.started →
    job.id ∈ shift.started

def Proceeds (shift after : Shift) : Prop :=
  shift.Orderly → after.Orderly ∧ shift.Continues after

theorem Proceeds.refl (shift : Shift) : shift.Proceeds shift := fun orderly =>
  ⟨orderly, Registry.Evolves.refl _, fun _ _ _ started => started⟩

theorem Proceeds.trans (first : shift.Proceeds after) (second : after.Proceeds last) :
    shift.Proceeds last := by
  intro orderly
  obtain ⟨middle, continues⟩ := first orderly
  obtain ⟨final, continues'⟩ := second middle
  refine ⟨final, continues.evolves.trans continues'.evolves, fun job known settled started => ?_⟩
  obtain ⟨-, moved⟩ := continues.evolves orderly.sound
  obtain ⟨later, known', becomes⟩ := moved job known
  have same : later.id ∈ after.started := by
    refine continues'.started later known' ((becomes.ended settled).settled.trans settled) ?_
    rwa [becomes.id]
  exact continues.started job known settled (becomes.id ▸ same)

section Parts

theorem ran_append {attempts : List Attempt}
    (more : after.attempts = shift.attempts ++ attempts) :
    after.ran = shift.ran ++ attempts.filterMap (·.job?) := by
  simp [ran, more]

theorem started_append {attempts : List Attempt}
    (more : after.attempts = shift.attempts ++ attempts) :
    after.started = shift.started ++ (attempts.filter (·.starts)).filterMap (·.job?) := by
  simp [started, more]

theorem brokenOff_append {attempts : List Attempt}
    (more : after.attempts = shift.attempts ++ attempts) :
    after.brokenOff = shift.brokenOff ++ (attempts.filter (·.breaksOff)).filterMap (·.job?) := by
  simp [brokenOff, more]

theorem started_sublist_ran (shift : Shift) : shift.started.Sublist shift.ran :=
  List.filter_sublist.filterMap _

theorem brokenOff_sublist_ran (shift : Shift) : shift.brokenOff.Sublist shift.ran :=
  List.filter_sublist.filterMap _

end Parts

namespace Orderly

theorem nodup (orderly : shift.Orderly) : shift.submitted.Nodup := by
  rw [orderly.numbered]
  refine List.nodup_range.map fun first second same => ?_
  have equal := Registry.identifier_injective same
  omega

theorem not_mem_ran (orderly : shift.Orderly) (waits : shift.Waits id) : id ∉ shift.ran := by
  have apart := orderly.nodup
  rw [← orderly.inTurn] at apart
  exact fun ran => (List.disjoint_of_nodup_append apart) ran waits

theorem not_mem_started (orderly : shift.Orderly) (waits : shift.Waits id) :
    id ∉ shift.started := fun started =>
  orderly.not_mem_ran waits (shift.started_sublist_ran.subset started)

theorem not_mem_brokenOff (orderly : shift.Orderly) (waits : shift.Waits id) :
    id ∉ shift.brokenOff := fun broken =>
  orderly.not_mem_ran waits (shift.brokenOff_sublist_ran.subset broken)

theorem exists_job (orderly : shift.Orderly) (waits : shift.Waits id) :
    ∃ job ∈ shift.queue.registry.all, job.id = id ∧ job.Unstarted := by
  have submitted : id ∈ shift.submitted := by
    rw [← orderly.inTurn]
    exact List.mem_append_right _ waits
  obtain ⟨job, known, rfl⟩ := orderly.known id submitted
  exact ⟨job, known, rfl, orderly.unstarted job known waits⟩

theorem known_of_evolves (orderly : shift.Orderly)
    (evolves : shift.queue.registry.Evolves after.queue.registry) :
    ∀ id ∈ shift.submitted, ∃ job ∈ after.queue.registry.all, job.id = id := by
  intro id submitted
  obtain ⟨job, known, rfl⟩ := orderly.known id submitted
  obtain ⟨later, known', becomes⟩ := (evolves orderly.sound).2 job known
  exact ⟨later, known', becomes.id⟩

end Orderly

/-- Whether the same renders wait, and the same was done before. -/
structure Keeps (shift after : Shift) : Prop where
  waiting : after.waiting = shift.waiting
  submitted : after.submitted = shift.submitted
  ran : after.ran = shift.ran
  started : after.started = shift.started
  brokenOff : after.brokenOff = shift.brokenOff

theorem keeps_alter (shift : Shift) (change : Registry → Registry) :
    shift.Keeps (shift.alter change) := ⟨rfl, rfl, rfl, rfl, rfl⟩

theorem keeps_idle (shift : Shift) :
    shift.Keeps { shift with attempts := shift.attempts ++ [.idle] } := by
  constructor
  · rfl
  · rfl
  · simp [ran, Attempt.job?]
  · simp [started, Attempt.starts]
  · simp [brokenOff, Attempt.breaksOff]

/-- A change of the registry that is about one job: if that waits it may only be cancelled, and if
it has a slot it does not end. -/
theorem Keeps.proceeds (keeps : shift.Keeps after) (id : String)
    (inside : after.queue.registry.inside = shift.queue.registry.inside)
    (evolves : shift.queue.registry.Evolves after.queue.registry)
    (touches : shift.queue.registry.Touches id after.queue.registry)
    (moved : shift.queue.registry.Sound → ∀ earlier ∈ shift.queue.registry.all,
      ∀ job ∈ after.queue.registry.all, earlier.id = id → job.id = id →
        (earlier.Unstarted → job.Unstarted) ∧
          (earlier.admitted = true → job.settled = earlier.settled)) :
    shift.Proceeds after := by
  intro orderly
  obtain ⟨waiting, submitted, ran, started, broken⟩ := keeps
  have waits : ∀ id, after.Waits id ↔ shift.Waits id := fun id => by rw [Waits, waiting, Waits]
  have earlier : ∀ job ∈ after.queue.registry.all, job.id = id →
      ∃ earlier ∈ shift.queue.registry.all, earlier.Attends id job ∧ earlier.id = id ∧
        (earlier.Unstarted → job.Unstarted) ∧
          (earlier.admitted = true → job.settled = earlier.settled) := by
    intro job member named
    obtain ⟨earlier, known, attends⟩ := touches.all member
    have named' := attends.named.symm.trans named
    exact ⟨earlier, known, attends, named',
      moved orderly.sound earlier known job member named' named⟩
  refine ⟨{
      sound := (evolves orderly.sound).1
      slots := touches.maxConcurrent ▸ orderly.slots
      vacant := inside.trans orderly.vacant
      retired := touches.settled_retired orderly.retired
      numbered := by rw [submitted, touches.accepted]; exact orderly.numbered
      known := submitted ▸ orderly.known_of_evolves evolves
      inTurn := by rw [ran, waiting, submitted]; exact orderly.inTurn
      unstarted := ?unstarted
      taken := ?taken }, evolves, fun job _ _ started' => started ▸ started'⟩
  case unstarted =>
    intro job member waits'
    rw [waits] at waits'
    by_cases named : job.id = id
    · obtain ⟨earlier, known, attends, -, stays, -⟩ := earlier job member named
      exact stays (orderly.unstarted earlier known (attends.named ▸ waits'))
    · exact orderly.unstarted job (touches.other member named) waits'
  case taken =>
    intro job member leaves
    rw [waits] at leaves
    rw [broken]
    by_cases named : job.id = id
    · obtain ⟨earlier, known, attends, -, -, stays⟩ := earlier job member named
      have taken := orderly.taken earlier known (attends.named ▸ leaves)
      rw [attends.named]
      cases settled : earlier.settled with
      | true => simpa [attends.settled settled, settled] using taken
      | false =>
          have admitted := taken.2 settled
          rw [stays admitted]
          exact ⟨taken.1, fun _ => attends.admitted admitted⟩
    · exact orderly.taken job (touches.other member named) leaves

theorem Keeps.proceeds_of_jobs (keeps : shift.Keeps after)
    (inside : after.queue.registry.inside = shift.queue.registry.inside)
    (evolves : shift.queue.registry.Evolves after.queue.registry)
    (jobs : after.queue.registry.jobs = shift.queue.registry.jobs)
    (retired : after.queue.registry.retired = shift.queue.registry.retired)
    (accepted : after.queue.registry.accepted = shift.queue.registry.accepted)
    (maxConcurrent : after.queue.registry.maxConcurrent = shift.queue.registry.maxConcurrent) :
    shift.Proceeds after := by
  refine keeps.proceeds "" inside evolves (.of_jobs jobs retired accepted maxConcurrent) ?_
  intro sound earlier known job member named named'
  rw [Registry.all, jobs, retired] at member
  obtain rfl := sound.eq_of_id known member (named.trans named'.symm)
  exact ⟨fun unstarted => unstarted, fun _ => rfl⟩

/-- The render that waits longest is taken from the queue. -/
structure Takes (entry : Entry) (command : List String) (fault : Option Fault)
    (shift after : Shift) : Prop where
  waiting : shift.waiting = entry :: after.waiting
  submitted : after.submitted = shift.submitted
  attempts : after.attempts = shift.attempts ++ [.ran entry.job command fault]
  handles : shift.queue.registry.Handles entry.job command fault after.queue.registry

theorem Takes.waits (takes : shift.Takes entry command fault after) (id : String) :
    shift.Waits id ↔ id = entry.job ∨ after.Waits id := by
  simp [Waits, takes.waiting]

theorem Takes.ne (takes : shift.Takes entry command fault after) (orderly : shift.Orderly)
    (waits : after.Waits id) : id ≠ entry.job := by
  rintro rfl
  have apart := orderly.nodup
  rw [← orderly.inTurn, takes.waiting, List.map_cons] at apart
  exact (List.nodup_cons.mp (List.nodup_append.mp apart).2.1).1 waits

theorem Takes.proceeds (takes : shift.Takes entry command fault after) : shift.Proceeds after := by
  intro orderly
  have waits := takes.waits
  have apart : ∀ id, after.Waits id → id ≠ entry.job := fun _ => takes.ne orderly
  obtain ⟨waiting, submitted, attempts, handles⟩ := takes
  have first : shift.Waits entry.job := (waits _).mpr (.inl rfl)
  have inTurn : after.ran ++ after.waiting.map (·.job) = after.submitted := by
    rw [ran_append attempts, submitted, ← orderly.inTurn, waiting]
    simp [Attempt.job?]
  have broken : ∀ id, id ∈ after.brokenOff ↔
      id ∈ shift.brokenOff ∨ id = entry.job ∧ fault.isSome = true := by
    intro id
    rw [brokenOff_append attempts]
    cases fault <;> simp [Attempt.breaksOff, Attempt.job?]
  have touches := handles.touches
  refine ⟨{
      sound := (handles.evolves orderly.sound).1
      slots := touches.maxConcurrent ▸ orderly.slots
      vacant := handles.vacant
      retired := touches.settled_retired orderly.retired
      numbered := by rw [submitted, touches.accepted]; exact orderly.numbered
      known := submitted ▸ orderly.known_of_evolves handles.evolves
      inTurn
      unstarted := ?unstarted
      taken := ?taken }, handles.evolves, ?started⟩
  case unstarted =>
    intro job member waits'
    have member := touches.other member (apart _ waits')
    exact orderly.unstarted job member ((waits _).mpr (.inr waits'))
  case taken =>
    intro job member leaves
    rw [broken]
    by_cases named : job.id = entry.job
    · have unbroken := orderly.not_mem_brokenOff first
      obtain ⟨ended, admitted⟩ := handles.ended job member named
      refine ⟨?_, admitted⟩
      rw [ended, named]
      simp [unbroken]
    · have leaves : ¬ shift.Waits job.id := fun waits' =>
        ((waits _).mp waits').elim named leaves
      have taken := orderly.taken job (touches.other member named) leaves
      simpa [named] using taken
  case started =>
    intro job known settled started'
    rw [started_append attempts] at started'
    rcases List.mem_append.mp started' with earlier | here
    · exact earlier
    · -- A settled job that is taken is left alone.
      have named : job.id = entry.job := by
        obtain ⟨attempt, member, given⟩ := List.mem_filterMap.mp here
        obtain rfl := List.mem_singleton.mp (List.mem_of_mem_filter member)
        exact (Option.some.inj given).symm
      have idle := (handles.settled (orderly.sound.forall_of_id known named settled)).1
      simp [idle, Attempt.starts] at here

section Acts

variable {equipment : Equipment} {encoder : Except Fault Encode.Behavior}

theorem proceeds_submit (shift : Shift) (spec : RenderSpec) (timeline : ResolvedTimeline) :
    shift.Proceeds (shift.submit spec timeline) := by
  intro orderly
  let registry := shift.queue.registry
  let inputs := timeline.items.filterMap (·.path)
  let id := Registry.identifier (registry.accepted + 1)
  let after := shift.submit spec timeline
  have sound : registry.Sound := orderly.sound
  have evolves : registry.Evolves after.queue.registry := registry.evolves_create inputs
  have members : ∀ job, job ∈ after.queue.registry.all ↔
      job = .accepted id registry.clock inputs ∨ job ∈ registry.all := fun _ =>
    Registry.mem_all_create sound inputs
  have waiting : after.waiting = shift.waiting ++ [⟨id, spec, timeline⟩] := by
    simp [after, Shift.waiting, submit, Queue.submit, Registry.create, id, registry]
  have waits : ∀ other, after.Waits other ↔ shift.Waits other ∨ other = id := fun other => by
    simp [Waits, waiting]
  have kept : (registry.accept inputs).Retains (fun _ => False) (registry.create inputs).1 :=
    Registry.retains_create registry inputs
  refine ⟨{
      sound := (evolves sound).1
      slots := orderly.slots
      vacant := orderly.vacant
      retired := kept.retired orderly.retired
      numbered := ?numbered
      known := ?known
      inTurn := ?inTurn
      unstarted := ?unstarted
      taken := ?taken }, evolves, fun job _ _ started => started⟩
  case numbered =>
    change shift.submitted ++ [id] = (List.range (registry.accepted + 1)).map _
    rw [List.range_succ, List.map_append, orderly.numbered]
    rfl
  case known =>
    intro other submitted
    rcases List.mem_append.mp submitted with earlier | new
    · exact orderly.known_of_evolves evolves other earlier
    · exact ⟨_, (members _).mpr (.inl rfl), (List.mem_singleton.mp new).symm⟩
  case inTurn =>
    change shift.ran ++ after.waiting.map (·.job) = shift.submitted ++ [id]
    rw [waiting, List.map_append, ← List.append_assoc, orderly.inTurn]
    rfl
  case unstarted =>
    intro job member waits'
    rcases (members job).mp member with rfl | known
    · exact Job.unstarted_accepted _ _ _
    · exact orderly.unstarted job known
        (((waits _).mp waits').resolve_right (sound.fresh job known))
  case taken =>
    intro job member leaves
    rcases (members job).mp member with rfl | known
    · exact absurd ((waits _).mpr (.inr rfl)) leaves
    · exact orderly.taken job known fun waits' => leaves ((waits _).mpr (.inl waits'))

theorem proceeds_cancel (shift : Shift) (id : String) : shift.Proceeds (shift.cancel id) := by
  cases found : shift.queue.registry.find? id with
  | none =>
      have refused : shift.cancel id = shift := by
        simp [cancel, alter, Queue.alter, Registry.cancel, Registry.get, found, Except.toOption]
      rw [refused]
      exact .refl shift
  | some job =>
      obtain ⟨registry, cancelled, inside, later⟩ := Registry.exists_cancel found
      have after : (shift.cancel id).queue.registry = registry := by
        simp [cancel, alter, Queue.alter, cancelled, Except.toOption]
      have evolves := Registry.evolves_cancel cancelled
      have keeps : shift.Keeps (shift.cancel id) := shift.keeps_alter _
      refine keeps.proceeds id (by rw [after, inside]) (by rwa [after])
        (by rw [after]; exact .cancel cancelled) ?_
      rw [after]
      intro sound earlier known other member named named'
      obtain ⟨known', name⟩ := Registry.find?_some found
      obtain ⟨member', name'⟩ := Registry.find?_some later
      obtain rfl := sound.eq_of_id known (List.mem_append_left _ known') (named.trans name.symm)
      obtain rfl := (evolves sound).1.eq_of_id member (List.mem_append_left _ member')
        (named'.trans name'.symm)
      exact ⟨fun unstarted => (unstarted.cancel (sound.jobs _ known) _).1,
        fun admitted => Job.settled_cancel admitted _⟩

theorem proceeds_pass (shift : Shift) {time : Binary64} (positive : 0 < time) :
    shift.Proceeds (shift.alter fun registry => { registry with clock := time }) :=
  (shift.keeps_alter _).proceeds_of_jobs rfl (Registry.evolves_pass fun _ => positive)
    rfl rfl rfl rfl

/-- A run of the render that waits longest works on its job alone. -/
theorem Orderly.exists_resume (orderly : shift.Orderly) (waits : shift.Waits entry.job)
    (equipment : Equipment) (encoder : Except Fault Encode.Behavior) (queue : Queue)
    (same : queue.registry = shift.queue.registry) :
    ∃ after premises command fault,
      queue.resume equipment encoder shift.premises entry =
        (after, premises, .ran entry.job command fault) ∧
      after.entries = queue.entries ∧
      shift.queue.registry.Handles entry.job command fault after.registry := by
  obtain ⟨job, known, named, unstarted⟩ := orderly.exists_job waits
  rw [← same] at known ⊢
  exact Queue.resume_handles equipment encoder shift.premises (same ▸ orderly.sound)
    (same ▸ orderly.slots) (same ▸ orderly.vacant) (same ▸ orderly.retired) known named unstarted

theorem Orderly.exists_findAny? (orderly : shift.Orderly) (waits : shift.Waits id) :
    ∃ job, shift.queue.registry.findAny? id = some job ∧
      (job.settled = true → ∀ other ∈ shift.queue.registry.all, other.id = id →
        other.settled = true) := by
  obtain ⟨job, known, named, -⟩ := orderly.exists_job waits
  exact ⟨job, orderly.sound.findAny?_eq_some_iff.mpr ⟨known, named⟩,
    fun settled => orderly.sound.forall_of_id known named settled⟩

theorem run_of_entries {entries : List Entry} {queue : Queue} {premises : Premises}
    {attempt : Attempt} (began : shift.begun = none)
    (listed : shift.queue.entries = entry :: entries)
    (free : shift.queue.registry.isFull = false)
    (ran : Queue.run equipment encoder { shift.queue with entries } shift.premises entry =
      (queue, premises, attempt)) :
    shift.run equipment encoder =
      { shift with queue, premises, begun := none, attempts := shift.attempts ++ [attempt] } := by
  simp only [run, began, Queue.runNext, listed, free, Bool.false_eq_true, if_false, ran]

/-- A run takes the render that waits longest, if there is one. -/
theorem Orderly.run_cases (orderly : shift.Orderly) (equipment : Equipment)
    (encoder : Except Fault Encode.Behavior) :
    (shift.waiting = [] ∧
        shift.run equipment encoder = { shift with attempts := shift.attempts ++ [.idle] }) ∨
      ∃ entry command fault, shift.Takes entry command fault (shift.run equipment encoder) := by
  cases began : shift.begun with
  | some entry =>
      have waiting : shift.waiting = entry :: shift.queue.entries := by simp [Shift.waiting, began]
      have waits : shift.Waits entry.job := by simp [Waits, waiting]
      obtain ⟨after, premises, command, fault, resumed, same, handles⟩ :=
        orderly.exists_resume waits equipment encoder shift.queue rfl
      refine .inr ⟨entry, command, fault, ?_⟩
      simp only [run, began, resumed, reduceCtorEq, if_false]
      exact ⟨by rw [waiting, ← same]; rfl, rfl, rfl, handles⟩
  | none =>
      cases listed : shift.queue.entries with
      | nil =>
          refine .inl ⟨by simp [Shift.waiting, began, listed], ?_⟩
          simp only [run, began, Queue.runNext, listed]
      | cons entry entries =>
          have waiting : shift.waiting = entry :: entries := by simp [Shift.waiting, began, listed]
          have waits : shift.Waits entry.job := by simp [Waits, waiting]
          have free : shift.queue.registry.isFull = false := by
            simpa [Registry.isFull, orderly.vacant] using orderly.slots.ne'
          let queue : Queue := { shift.queue with entries }
          obtain ⟨job, found, only⟩ := orderly.exists_findAny? waits
          -- The render of a job that was cancelled while it waited is taken without a slot; the
          -- others go on as if they had begun before.
          cases settled : job.settled with
          | true =>
              have alone : queue.run equipment encoder shift.premises entry =
                  (queue, shift.premises, .ran entry.job [] none) := by
                simp only [Queue.run, queue, found, Option.any_some, settled, if_true]
              refine .inr ⟨entry, [], none, ?_⟩
              rw [run_of_entries began listed free alone]
              exact ⟨by rw [waiting]; rfl, rfl, rfl,
                Registry.handles_of_settled orderly.vacant (only settled)⟩
          | false =>
              obtain ⟨after, premises, command, fault, resumed, same, handles⟩ :=
                orderly.exists_resume waits equipment encoder queue rfl
              have unsettled : (queue.registry.findAny? entry.job).any (·.settled) = false := by
                simp only [queue, found, Option.any_some, settled]
              refine .inr ⟨entry, command, fault, ?_⟩
              rw [← Queue.run_eq_resume unsettled] at resumed
              rw [run_of_entries began listed free resumed]
              have left : entries = after.entries := same.symm
              exact ⟨by rw [waiting, left]; rfl, rfl, rfl, handles⟩

/-- A run that begins leaves the registry as it is, and takes the render if its job has settled. -/
theorem Orderly.begin_cases (orderly : shift.Orderly) :
    (shift.Keeps shift.begin ∧ shift.begin.queue.registry = shift.queue.registry) ∨
      ∃ entry, shift.Takes entry [] none shift.begin := by
  unfold begin
  split
  next entry entries began listed =>
    have waiting : shift.waiting = entry :: entries := by simp [Shift.waiting, began, listed]
    have waits : shift.Waits entry.job := by simp [Waits, waiting]
    obtain ⟨job, found, only⟩ := orderly.exists_findAny? waits
    dsimp only
    rw [found, Option.any_some]
    split
    next settled =>
      exact .inr ⟨entry, by rw [waiting]; simp [Shift.waiting, began], rfl, rfl,
        Registry.handles_of_settled orderly.vacant (only settled)⟩
    next => exact .inl ⟨⟨by rw [waiting]; rfl, rfl, rfl, rfl, rfl⟩, rfl⟩
  next => exact .inl ⟨⟨rfl, rfl, rfl, rfl, rfl⟩, rfl⟩

theorem proceeds_run (shift : Shift) (equipment : Equipment)
    (encoder : Except Fault Encode.Behavior) : shift.Proceeds (shift.run equipment encoder) := by
  intro orderly
  rcases orderly.run_cases equipment encoder with ⟨-, idle⟩ | ⟨entry, command, fault, takes⟩
  · rw [idle]
    exact shift.keeps_idle.proceeds_of_jobs rfl (Registry.Evolves.refl _) rfl rfl rfl rfl orderly
  · exact takes.proceeds orderly

theorem proceeds_begin (shift : Shift) : shift.Proceeds shift.begin := by
  intro orderly
  rcases orderly.begin_cases with ⟨keeps, same⟩ | ⟨entry, takes⟩
  · exact keeps.proceeds_of_jobs (by rw [same]) (by rw [same]; exact Registry.Evolves.refl _)
      (by rw [same]) (by rw [same]) (by rw [same]) (by rw [same]) orderly
  · exact takes.proceeds orderly

theorem alter_cancelAll (shift : Shift) :
    shift.alter (·.cancelAll.1) =
      (shift.queue.registry.unsettled.map (·.id)).foldl cancel shift := by
  -- The jobs are those of the start, though each cancellation changes the registry.
  have each : ∀ (jobs : List Job) (shift : Shift),
      shift.alter (·.cancelEach jobs) = (jobs.map (·.id)).foldl cancel shift := by
    intro jobs
    induction jobs with
    | nil => exact fun _ => rfl
    | cons job jobs ih => exact fun shift => ih (shift.cancel job.id)
  exact each _ shift

theorem proceeds_cancels (shift : Shift) (ids : List String) :
    shift.Proceeds (ids.foldl cancel shift) := by
  induction ids generalizing shift with
  | nil => exact .refl shift
  | cons id ids ih => exact (proceeds_cancel shift id).trans (ih _)

theorem proceeds_cancelAll (shift : Shift) : shift.Proceeds (shift.alter (·.cancelAll.1)) := by
  rw [alter_cancelAll]
  exact proceeds_cancels shift _

theorem proceeds_runMany (equipment : Equipment) (shift : Shift) (count : Nat) :
    shift.Proceeds (shift.runMany equipment count) := by
  induction count generalizing shift with
  | zero => exact .refl shift
  | succ count ih => exact (proceeds_run shift equipment _).trans (ih _)

theorem proceeds_shutdown (shift : Shift) (equipment : Equipment) (cancel : Bool) :
    shift.Proceeds (shift.shutdown equipment cancel) := by
  unfold shutdown
  cases cancel with
  | false => exact proceeds_runMany equipment shift _
  | true => exact (proceeds_cancelAll shift).trans (proceeds_runMany equipment _ _)

theorem proceeds_perform (shift : Shift) (act : Act) : shift.Proceeds (shift.perform act) := by
  cases act with
  | submit spec timeline => exact proceeds_submit shift spec timeline
  | cancel id => exact proceeds_cancel shift id
  | cancelAll => exact proceeds_cancelAll shift
  | start => exact proceeds_begin shift
  | run equipment encoder => exact proceeds_run shift equipment encoder
  | shutdown equipment cancel => exact proceeds_shutdown shift equipment cancel
  | pass time positive => exact proceeds_pass shift positive

theorem proceeds_performAll (shift : Shift) (acts : List Act) :
    shift.Proceeds (shift.performAll acts) := by
  induction acts generalizing shift with
  | nil => exact .refl shift
  | cons act acts ih => exact (proceeds_perform shift act).trans (ih _)

theorem orderly_start (config : Config) (maxConcurrent maxFinished : Int) {clock : Binary64}
    (positive : 0 < clock) (directory : Path) (premises : Premises) :
    (start config (.start maxConcurrent maxFinished clock) directory premises).Orderly where
  sound := Registry.sound_start _ _ positive
  slots := by simp [start, Queue.start, Registry.start]
  vacant := rfl
  retired := by simp [start, Queue.start, Registry.start]
  numbered := rfl
  known := by simp [start]
  inTurn := rfl
  unstarted := by simp [start, Queue.start, Registry.start, Registry.all]
  taken := by simp [start, Queue.start, Registry.start, Registry.all]

end Acts

end Montage.Jobs.Shift
