import Montage.Proofs.Jobs.Shift
import Montage.Proofs.Jobs.Slots

/-!
# The floor of a queue

Several renders may be in their slots at a time, and renders are submitted and jobs cancelled while
their scripts run.  Whatever moment it is, the registry tells how many jobs are in their slots, and
how many wait.
-/

namespace Montage.Jobs

/-- The queue inside the script of a render that has its slot, when its encoder has done so much. -/
def Queue.inScript (queue : Queue) (entry : Entry) (plan : RenderPlan) (before : Option String)
    (actions : List Encode.Action) : Queue :=
  ((queue.plan entry).1.alter (·.setTarget entry.job plan.output)).alter fun registry =>
    Registry.follow entry.job
      ⟨⟨.start plan.timeline.totalDuration, some .started, registry⟩, before, false⟩ actions

/-- A queue at work. -/
structure Floor where
  queue : Queue
  inSlot : List Entry := []
  /-- The renders that have left their slots, and whose ends are not recorded yet. -/
  leaving : List Entry := []

namespace Floor

/-- A floor before the first render. -/
def start (config : Config) (registry : Registry) (directory : Path) : Floor :=
  { queue := .start config registry directory }

def registry (floor : Floor) : Registry :=
  floor.queue.registry

/-- What happens next on a floor.  A run looks whether its job has settled and takes a slot for it
in one move, so that no cancellation comes in between. -/
inductive Move (floor : Floor) : Floor → Prop where
  | submit (spec : RenderSpec) (timeline : ResolvedTimeline) :
      Move floor { floor with queue := (floor.queue.submit spec timeline).1 }
  | cancel {id : String} {registry : Registry}
      (cancelled : floor.queue.registry.cancel id = .ok registry) :
      Move floor { floor with queue := floor.queue.alter fun _ => registry }
  | pass {time : Binary64} (positive : 0 < time) :
      Move floor { floor with queue := floor.queue.alter ({ · with clock := time }) }
  | skip {entry : Entry} {entries : List Entry} (waiting : floor.queue.entries = entry :: entries)
      (settled : (floor.queue.registry.findAny? entry.job).any (·.settled) = true) :
      Move floor { floor with queue := { floor.queue with entries } }
  | begin {entry : Entry} {entries : List Entry} {registry : Registry}
      (waiting : floor.queue.entries = entry :: entries)
      (unsettled : (floor.queue.registry.findAny? entry.job).any (·.settled) = false)
      (entered : floor.queue.registry.enter entry.job = (registry, .entered)) :
      Move floor { floor with
        queue := { floor.queue with registry, entries }, inSlot := floor.inSlot ++ [entry] }
  | plan {entry : Entry} (member : entry ∈ floor.inSlot) :
      Move floor { floor with queue := (floor.queue.plan entry).1 }
  | target {entry : Entry} (member : entry ∈ floor.inSlot) (path : Path) :
      Move floor { floor with queue := floor.queue.alter (·.setTarget entry.job path) }
  | script {entry : Entry} (member : entry ∈ floor.inSlot)
      {course : Encode.Course (Encode.Watch Registry)}
      (listens : course.listener.receiver = floor.queue.registry) (actions : List Encode.Action) :
      Move floor { floor with
        queue := floor.queue.alter fun _ => Registry.follow entry.job course actions }
  | leave {entry : Entry} {before behind : List Entry}
      (inSlot : floor.inSlot = before ++ entry :: behind) :
      Move floor
        { queue := floor.queue.alter (·.leave entry.job), inSlot := before ++ behind,
          leaving := entry :: floor.leaving }
  | record {entry : Entry} {before behind : List Entry}
      (leaving : floor.leaving = before ++ entry :: behind)
      (verbosity : Console.Verbosity) (result : Except Setback Path) :
      Move floor { floor with
        queue := (floor.queue.record verbosity entry.job result).1, leaving := before ++ behind }

def Works : Floor → Floor → Prop :=
  Relation.ReflTransGen Move

variable {slots : Nat} {floor after : Floor} {entry : Entry} {queue : Queue}

def underWay (floor : Floor) : List Entry :=
  floor.inSlot ++ floor.leaving

/-- What holds on every floor with so many slots. -/
structure Valid (slots : Nat) (floor : Floor) : Prop where
  sound : floor.registry.Sound
  retired : ∀ job ∈ floor.registry.retired, job.settled = true
  limit : floor.registry.maxConcurrent = slots
  inside : floor.registry.inside = floor.inSlot.map (·.job)
  room : floor.inSlot.length ≤ slots
  apart : ((floor.underWay ++ floor.queue.entries).map (·.job)).Nodup
  going : ∀ entry ∈ floor.underWay, floor.registry.Knows entry.job Job.Going
  waiting : ∀ entry ∈ floor.queue.entries, floor.registry.Knows entry.job Job.Unstarted

namespace Valid

theorem underway (valid : floor.Valid slots) (member : entry ∈ floor.underWay) :
    floor.registry.Underway entry.job floor.registry.inside :=
  ((valid.going entry member).underway valid.sound valid.retired).1

/-- The job of a render that waits is under way once it is found not to have settled. -/
theorem underway_of_waiting (valid : floor.Valid slots) (member : entry ∈ floor.queue.entries)
    (unsettled : (floor.registry.findAny? entry.job).any (·.settled) = false) :
    floor.registry.Underway entry.job floor.registry.inside := by
  obtain ⟨job, known, named, -⟩ := valid.waiting entry member
  rw [valid.sound.findAny?_eq_some_iff.mpr ⟨known, named⟩, Option.any_some] at unsettled
  exact named ▸ (valid.sound.underway valid.retired known unsettled).2

theorem apart_inSlot (valid : floor.Valid slots) : (floor.inSlot.map (·.job)).Nodup :=
  valid.apart.sublist (((List.sublist_append_left _ _).trans (List.sublist_append_left _ _)).map _)

theorem job_ne (valid : floor.Valid slots) {others : List Entry}
    (perm : (floor.underWay ++ floor.queue.entries).Perm (entry :: others)) :
    ∀ other ∈ others, other.job ≠ entry.job := by
  intro other member same
  have apart := (perm.map (·.job)).nodup_iff.mp valid.apart
  rw [List.map_cons, List.nodup_cons] at apart
  exact apart.1 (same ▸ List.mem_map_of_mem member)

theorem submit (valid : floor.Valid slots) (spec : RenderSpec) (timeline : ResolvedTimeline) :
    Valid slots { floor with queue := (floor.queue.submit spec timeline).1 } := by
  let inputs := timeline.items.filterMap (·.path)
  obtain ⟨new, old⟩ := Registry.knows_create valid.sound inputs
  have kept : (floor.registry.accept inputs).Retains (fun _ => False)
      (floor.registry.create inputs).1 := Registry.retains_create _ inputs
  refine ⟨(Registry.evolves_create _ inputs valid.sound).1, kept.retired valid.retired, valid.limit,
    valid.inside, valid.room, ?_, fun entry member => (old _ _ (valid.going entry member)).1,
    fun entry member => ?_⟩
  · change ((floor.underWay ++ (floor.queue.entries ++ [(_ : Entry)])).map (·.job)).Nodup
    rw [← List.append_assoc, List.map_append]
    refine List.Nodup.append valid.apart (List.nodup_singleton _) ?_
    intro id listed fresh
    obtain rfl := List.mem_singleton.mp fresh
    obtain ⟨entry, member, same⟩ := List.mem_map.mp listed
    rcases List.mem_append.mp member with going | waiting
    · exact (old _ _ (valid.going entry going)).2 same
    · exact (old _ _ (valid.waiting entry waiting)).2 same
  · rcases List.mem_append.mp member with earlier | last
    · exact (old _ _ (valid.waiting entry earlier)).1
    · obtain rfl := List.mem_singleton.mp last
      exact new

theorem cancel (valid : floor.Valid slots) {id : String} {registry : Registry}
    (cancelled : floor.registry.cancel id = .ok registry) :
    Valid slots { floor with queue := floor.queue.alter fun _ => registry } := by
  obtain ⟨inside, going, waiting⟩ := Registry.knows_cancel cancelled valid.sound
  have touches := Registry.Touches.cancel cancelled
  exact ⟨(Registry.evolves_cancel cancelled valid.sound).1,
    touches.settled_retired valid.retired, touches.maxConcurrent.trans valid.limit,
    inside.trans valid.inside, valid.room, valid.apart,
    fun entry member => going _ (valid.going entry member),
    fun entry member => waiting _ (valid.waiting entry member)⟩

theorem pass (valid : floor.Valid slots) {time : Binary64} (positive : 0 < time) :
    Valid slots { floor with queue := floor.queue.alter ({ · with clock := time }) } :=
  ⟨(Registry.evolves_pass (fun _ => positive) valid.sound).1, valid.retired, valid.limit,
    valid.inside, valid.room, valid.apart, valid.going, valid.waiting⟩

theorem skip (valid : floor.Valid slots) {entries : List Entry}
    (waiting : floor.queue.entries = entry :: entries) :
    Valid slots { floor with queue := { floor.queue with entries } } := by
  have fewer : entries.Sublist floor.queue.entries := by
    rw [waiting]
    exact List.sublist_cons_self entry entries
  exact ⟨valid.sound, valid.retired, valid.limit, valid.inside, valid.room,
    valid.apart.sublist ((fewer.append_left _).map _), valid.going,
    fun other member => valid.waiting other (fewer.subset member)⟩

theorem begin (valid : floor.Valid slots) {entries : List Entry} {registry : Registry}
    (waiting : floor.queue.entries = entry :: entries)
    (unsettled : (floor.registry.findAny? entry.job).any (·.settled) = false)
    (entered : floor.registry.enter entry.job = (registry, .entered)) :
    Valid slots { floor with
      queue := { floor.queue with registry, entries }, inSlot := floor.inSlot ++ [entry] } := by
  have first : entry ∈ floor.queue.entries := by simp [waiting]
  obtain ⟨free, inside, going⟩ :=
    Registry.knows_enter (valid.underway_of_waiting first unsettled) entered
  have evolves := floor.registry.evolves_enter entry.job
  have touches := Registry.Touches.enter floor.registry entry.job
  rw [entered] at evolves touches
  have perm : (floor.underWay ++ floor.queue.entries).Perm
      (entry :: (floor.underWay ++ entries)) := by
    rw [waiting]
    exact List.perm_middle
  have moved : (floor.inSlot ++ [entry] ++ floor.leaving ++ entries).Perm
      (entry :: (floor.underWay ++ entries)) := by
    simp [underWay]
  refine ⟨(evolves valid.sound).1, touches.settled_retired valid.retired,
    touches.maxConcurrent.trans valid.limit, ?_, ?_, ?_, fun other member => ?_,
    fun other member => ?_⟩
  · change registry.inside = (floor.inSlot ++ [entry]).map (·.job)
    rw [inside, valid.inside, List.map_append]
    rfl
  · have room : floor.registry.inside.length < floor.registry.maxConcurrent := by
      simpa [Registry.isFull] using free
    rw [valid.inside, valid.limit, List.length_map] at room
    rw [List.length_append, List.length_singleton]
    exact room
  · exact ((moved.trans perm.symm).map _).nodup_iff.mpr valid.apart
  · -- The job that gets the slot is another one than before, and all others are as they were.
    by_cases same : other.job = entry.job
    · exact same ▸ going
    · have member : other ∈ floor.underWay := by
        have distinct : other ≠ entry := fun equal => same (congrArg _ equal)
        simpa [underWay, distinct] using member
      exact (valid.going other member).of_touches valid.sound evolves touches same
  · have distinct := valid.job_ne perm other (List.mem_append_right _ member)
    have member : other ∈ floor.queue.entries := waiting ▸ List.mem_cons_of_mem entry member
    exact (valid.waiting other member).of_touches valid.sound evolves touches distinct

theorem carried (valid : floor.Valid slots) (member : entry ∈ floor.inSlot)
    (carries : floor.registry.Carries entry.job queue.registry)
    (entries : queue.entries = floor.queue.entries) : Valid slots { floor with queue } := by
  have inSlot : entry ∈ floor.underWay := List.mem_append_left _ member
  obtain ⟨going, inside⟩ :=
    carries.knows valid.sound valid.retired (valid.going entry inSlot)
  refine ⟨(carries.evolves valid.sound).1, carries.touches.settled_retired valid.retired,
    carries.touches.maxConcurrent.trans valid.limit, inside.trans valid.inside, valid.room, ?_,
    fun other listed => ?_, fun other listed => ?_⟩
  · change ((floor.underWay ++ queue.entries).map (·.job)).Nodup
    rw [entries]
    exact valid.apart
  · by_cases same : other.job = entry.job
    · exact same ▸ going
    · exact (valid.going other listed).of_touches valid.sound carries.evolves carries.touches same
  · -- A render that waits is of another job than one in a slot.
    have listed : other ∈ floor.queue.entries := entries ▸ listed
    obtain ⟨before, behind, parts⟩ := List.append_of_mem inSlot
    have perm : (floor.underWay ++ floor.queue.entries).Perm
        (entry :: (before ++ behind ++ floor.queue.entries)) := by
      simp [parts]
    exact (valid.waiting other listed).of_touches valid.sound carries.evolves carries.touches
      (valid.job_ne perm other (List.mem_append_right _ listed))

theorem leave (valid : floor.Valid slots) {before behind : List Entry}
    (inSlot : floor.inSlot = before ++ entry :: behind) :
    Valid slots
      { queue := floor.queue.alter (·.leave entry.job), inSlot := before ++ behind,
        leaving := entry :: floor.leaving } := by
  have moved : (before ++ behind ++ entry :: floor.leaving).Perm floor.underWay := by
    simp only [underWay, inSlot, List.append_assoc, List.cons_append]
    exact List.perm_middle.append_left before
  have apart := valid.apart_inSlot
  have room := valid.room
  rw [inSlot, List.map_append, List.map_cons, List.nodup_append] at apart
  rw [inSlot, List.length_append, List.length_cons] at room
  refine ⟨(Registry.evolves_leave _ _ valid.sound).1, valid.retired, valid.limit, ?_, ?_, ?_,
    fun other member => valid.going other (moved.mem_iff.mp member), valid.waiting⟩
  · change floor.registry.inside.erase entry.job = (before ++ behind).map (·.job)
    have absent : entry.job ∉ before.map (·.job) := fun member =>
      apart.2.2 _ member _ List.mem_cons_self rfl
    rw [valid.inside, inSlot, List.map_append, List.map_cons, List.erase_append_right _ absent,
      List.erase_cons_head, List.map_append]
  · rw [List.length_append]
    omega
  · exact ((moved.append_right _).map _).nodup_iff.mpr valid.apart

/-- A render whose end is recorded, or is not because a fault is met, is under way no more. -/
theorem record (valid : floor.Valid slots) {before behind : List Entry}
    (leaving : floor.leaving = before ++ entry :: behind) (verbosity : Console.Verbosity)
    (result : Except Setback Path) :
    Valid slots { floor with
      queue := (floor.queue.record verbosity entry.job result).1
      leaving := before ++ behind } := by
  have member : entry ∈ floor.underWay := by simp [underWay, leaving]
  obtain ⟨evolves, touches, inside, -⟩ :=
    Queue.record_settles verbosity valid.sound (valid.underway member) result
  have entries := Queue.entries_record verbosity floor.queue entry.job result
  have perm : (floor.underWay ++ floor.queue.entries).Perm
      (entry :: (floor.inSlot ++ (before ++ behind) ++ floor.queue.entries)) := by
    simp only [underWay, leaving, List.append_assoc, List.cons_append]
    exact (List.perm_middle.append_left floor.inSlot).trans List.perm_middle
  have stays : ∀ kind, ∀ other ∈ floor.inSlot ++ (before ++ behind) ++ floor.queue.entries,
      floor.registry.Knows other.job kind →
        (floor.queue.record verbosity entry.job result).1.registry.Knows other.job kind :=
    fun _ other listed knows =>
      knows.of_touches valid.sound evolves touches (valid.job_ne perm other listed)
  refine ⟨(evolves valid.sound).1, touches.settled_retired valid.retired,
    touches.maxConcurrent.trans valid.limit, inside.trans valid.inside, valid.room, ?_,
    fun other listed => ?_, fun other listed => ?_⟩
  · have apart := ((perm.map (·.job)).nodup_iff.mp valid.apart)
    rw [List.map_cons, List.nodup_cons, ← entries] at apart
    exact apart.2
  · refine stays _ other (List.mem_append_left _ listed) (valid.going other ?_)
    have fewer : (before ++ behind).Sublist floor.leaving := by
      rw [leaving]
      exact (List.sublist_cons_self entry behind).append_left before
    exact (fewer.append_left floor.inSlot).subset listed
  · have listed : other ∈ floor.queue.entries := entries ▸ listed
    exact stays _ other (List.mem_append_right _ listed) (valid.waiting other listed)

end Valid

theorem Move.valid (move : floor.Move after) (valid : floor.Valid slots) : after.Valid slots := by
  cases move with
  | submit spec timeline => exact valid.submit spec timeline
  | cancel cancelled => exact valid.cancel cancelled
  | pass positive => exact valid.pass positive
  | skip waiting settled => exact valid.skip waiting
  | begin waiting unsettled entered => exact valid.begin waiting unsettled entered
  | plan member =>
      refine valid.carried member ?_ (Queue.entries_plan _ _)
      rw [Queue.registry_plan]
      exact .refl _
  | target member path =>
      exact valid.carried member ((Registry.keptInSlot_carries _ _).setTarget _ path (.refl _)) rfl
  | @script entry member course listens actions =>
      have carries := Registry.carries_follow entry.job course actions
      rw [listens] at carries
      exact valid.carried member carries rfl
  | leave inSlot => exact valid.leave inSlot
  | record leaving verbosity result => exact valid.record leaving verbosity result

theorem Works.valid (works : floor.Works after) (valid : floor.Valid slots) :
    after.Valid slots := by
  induction works with
  | refl => exact valid
  | tail _ move ih => exact move.valid ih

theorem valid_start (config : Config) (directory : Path) (maxConcurrent maxFinished : Int)
    {clock : Binary64} (positive : 0 < clock) :
    (start config (.start maxConcurrent maxFinished clock) directory).Valid
      (max 1 maxConcurrent.toNat) where
  sound := Registry.sound_start maxConcurrent maxFinished positive
  retired := by simp [start, registry, Queue.start, Registry.start]
  limit := rfl
  inside := rfl
  room := Nat.zero_le _
  apart := List.nodup_nil
  going := by simp [start, underWay]
  waiting := by simp [start, Queue.start]

section Runs

theorem works_target (member : entry ∈ floor.inSlot) (path : Path) :
    floor.Works { floor with
      queue := (floor.queue.plan entry).1.alter (·.setTarget entry.job path) } := by
  let planned : Floor := { floor with queue := (floor.queue.plan entry).1 }
  exact (Relation.ReflTransGen.single (.plan member)).tail (@Move.target planned entry member path)

theorem works_inScript (member : entry ∈ floor.inSlot) (plan : RenderPlan)
    (before : Option String) (actions : List Encode.Action) :
    floor.Works { floor with queue := floor.queue.inScript entry plan before actions } := by
  let told : Floor := { floor with
    queue := (floor.queue.plan entry).1.alter (·.setTarget entry.job plan.output) }
  let course : Encode.Course (Encode.Watch Registry) :=
    ⟨⟨.start plan.timeline.totalDuration, some .started, told.queue.registry⟩, before, false⟩
  exact (works_target member plan.output).tail (@Move.script told entry member course rfl actions)

/-- A render works through its plan and its script, as far as these go. -/
theorem works_render (equipment : Equipment) (encoder : Except Fault Encode.Behavior)
    (premises : Premises) (member : entry ∈ floor.inSlot) :
    let rendered := floor.queue.render equipment encoder premises entry
    floor.Works { floor with queue := rendered.1 } := by
  unfold Queue.render
  split
  next after setback equal =>
    have planned : floor.Works { floor with queue := (floor.queue.plan entry).1 } :=
      .single (.plan member)
    rw [equal] at planned
    exact planned
  next after plan equal =>
    have told := works_target member plan.output
    rw [equal] at told
    dsimp only
    split
    next => exact told
    next => exact told
    next behavior tree makes =>
      unfold Queue.encode
      dsimp only
      rcases Encode.execute_course
        (fun registry percent => registry.updateProgress entry.job percent)
        plan.timeline.totalDuration equipment.workplace
        (Queue.invocation equipment.verbosity entry.job plan) behavior
        (after.alter (·.setTarget entry.job plan.output)).registry
        (tree.content? plan.output) premises.processes with
        ⟨listener, cancelled⟩ | ⟨actions, errors, code, -, listener, cancelled⟩
      · rw [listener, cancelled]
        exact told
      · rw [listener, cancelled]
        have scripted := works_inScript member plan (tree.content? plan.output) actions
        rw [Queue.inScript, equal] at scripted
        exact scripted

/-- A run takes a slot, works through its script, gives up the slot and records how its job ended,
and in the end the same renders are in their slots as before. -/
theorem works_runNext (valid : floor.Valid slots) (equipment : Equipment)
    (encoder : Except Fault Encode.Behavior) (premises : Premises) :
    floor.Works { floor with queue := (floor.queue.runNext equipment encoder premises).1 } := by
  unfold Queue.runNext
  split
  next => exact .refl
  next entry entries waiting =>
    split
    next => exact .refl
    next free =>
      have first : entry ∈ floor.queue.entries := by simp [waiting]
      cases settled : (floor.queue.registry.findAny? entry.job).any (·.settled) with
      | true =>
          simp only [Queue.run, settled, if_true]
          exact .single (.skip waiting settled)
      | false =>
          -- A job that was cancelled while it waited has settled, so this one is not turned away.
          obtain ⟨registry, entered⟩ : ∃ registry,
              floor.queue.registry.enter entry.job = (registry, .entered) :=
            Registry.exists_enter (valid.underway_of_waiting first settled)
              (Bool.eq_false_iff.mpr free) (valid.waiting entry first) valid.sound
          let begun : Floor := { floor with
            queue := { floor.queue with registry, entries }, inSlot := floor.inSlot ++ [entry] }
          have member : entry ∈ begun.inSlot := List.mem_append_right _ List.mem_cons_self
          let rendered := begun.queue.render equipment encoder premises entry
          let reached : Floor := { begun with queue := rendered.1 }
          have works : floor.Works reached :=
            (Relation.ReflTransGen.single (.begin waiting settled entered)).trans
              (works_render equipment encoder premises member)
          have left := works.tail (@Move.leave reached entry floor.inSlot [] rfl)
          have recorded := left.tail
            (@Move.record _ entry [] floor.leaving rfl equipment.verbosity rendered.2.2.2)
          simp only [Queue.run, settled, entered, Bool.false_eq_true, if_false]
          simp only [reached, List.append_nil, List.nil_append] at recorded
          exact recorded

end Runs

/-- What a registry tells of so many slots is what goes on in them. -/
structure Counted (slots : Nat) (floor : Floor) : Prop where
  limit : floor.registry.occupancy.maxConcurrent = slots
  running : floor.registry.occupancy.running = floor.inSlot.length
  room : floor.registry.occupancy.running ≤ slots
  apart : (floor.inSlot.map (·.job)).Nodup
  going : ∀ entry ∈ floor.inSlot, ∃ job, floor.registry.find? entry.job = some job ∧ job.Going
  waiting : floor.registry.occupancy.waiting = ((floor.registry.unsettled.filter fun job =>
    job.id ∉ floor.inSlot.map (·.job)).length : Int)
  jobs : floor.registry.occupancy.jobs = floor.registry.jobs.length

theorem Valid.counted (valid : floor.Valid slots) : floor.Counted slots := by
  have apart := valid.apart_inSlot
  have going : ∀ entry ∈ floor.inSlot,
      ∃ job, floor.registry.find? entry.job = some job ∧ job.Going := fun entry member =>
    ((valid.going entry (List.mem_append_left _ member)).underway valid.sound valid.retired).2
  have running : floor.registry.occupancy.running = floor.inSlot.length := by
    rw [Registry.occupancy, valid.inside, List.length_map]
  refine ⟨valid.limit, running, running ▸ valid.room, apart, going, ?_, rfl⟩
  rw [← valid.inside] at apart ⊢
  refine Registry.waiting_eq valid.sound apart fun id taken => ?_
  rw [valid.inside] at taken
  obtain ⟨entry, member, rfl⟩ := List.mem_map.mp taken
  obtain ⟨job, found, holds⟩ := going entry member
  obtain ⟨known, named⟩ := Registry.find?_some found
  exact ⟨job, Registry.mem_unsettled.mpr ⟨known, holds.unsettled⟩, named⟩

/-- At every moment the registry tells how many jobs are in their slots, each of them admitted and
not settled, and how many unsettled jobs are outside.  Such moments come before and after a run,
however it ends, and inside the script of a run, after any of its actions. -/
theorem occupancy_counts_slots (config : Config) (directory : Path)
    (maxConcurrent maxFinished : Int) {clock : Binary64} (positive : 0 < clock)
    (works : (start config (.start maxConcurrent maxFinished clock) directory).Works floor) :
    floor.Counted (max 1 maxConcurrent.toNat) ∧
    0 ≤ floor.registry.occupancy.waiting ∧
    (floor.inSlot = [] → floor.registry.occupancy.running = 0) ∧
    (∀ equipment encoder premises, floor.Works
      { floor with queue := (floor.queue.runNext equipment encoder premises).1 }) ∧
    ∀ (entry : Entry) (entries : List Entry) (registry : Registry) (plan : RenderPlan),
      floor.queue.entries = entry :: entries →
      (floor.registry.findAny? entry.job).any (·.settled) = false →
      floor.registry.enter entry.job = (registry, .entered) →
      ∀ before actions, floor.Works { floor with
        queue := Queue.inScript { floor.queue with registry, entries } entry plan before actions
        inSlot := floor.inSlot ++ [entry] } := by
  have valid := works.valid (valid_start config directory maxConcurrent maxFinished positive)
  have counted := valid.counted
  refine ⟨counted, ?_, fun none => ?_, works_runNext valid, ?_⟩
  · rw [counted.waiting]
    exact Int.natCast_nonneg _
  · rw [counted.running, none, List.length_nil]
  · intro entry entries registry plan waiting unsettled entered before actions
    let begun : Floor := { floor with
      queue := { floor.queue with registry, entries }, inSlot := floor.inSlot ++ [entry] }
    have member : entry ∈ begun.inSlot := List.mem_append_right _ List.mem_cons_self
    exact (Relation.ReflTransGen.single (.begin waiting unsettled entered)).trans
      (works_inScript member plan before actions)

def twoWaiting : Floor :=
  let queue : Queue := .start {} (.start 1 200 1000) (.ofString "/outputs")
  { queue := ((queue.submit Queue.stillEntry.spec Queue.stillTimeline).1.submit
      Queue.stillEntry.spec Queue.stillTimeline).1 }

/-- The first of two renders was reported complete, and is in its slot all the same while the other
one waits. -/
theorem occupancy_counts_slots_twoWaiting :
    ∃ floor, (start {} (.start 1 200 1000) (.ofString "/outputs")).Works floor ∧
      floor.Counted 1 ∧ floor.inSlot.map (·.job) = ["job-1"] ∧
      floor.registry.occupancy = ⟨1, 1, 1, 2⟩ ∧
      ∃ job, floor.registry.find? "job-1" = some job ∧ job.state = .finished ∧
        job.progress = 100 := by
  have positive : (0 : Binary64) < 1000 := by decide +kernel
  have works : (start {} (.start 1 200 1000) (.ofString "/outputs")).Works twoWaiting :=
    (Relation.ReflTransGen.single (.submit _ _)).tail (.submit _ _)
  obtain ⟨-, -, -, -, inScript⟩ := occupancy_counts_slots {} _ 1 200 positive works
  have reached := inScript _ _ _ { (default : RenderPlan) with timeline := Queue.stillTimeline }
    rfl rfl rfl none [.line "out_time=00:00:05.000"]
  refine ⟨_, works.trans reached,
    (occupancy_counts_slots {} _ 1 200 positive (works.trans reached)).1, rfl, ?_, ?_⟩
  · decide +kernel
  · decide +kernel

end Floor

end Montage.Jobs
