import Montage.Proofs.Jobs.Announcement
import Montage.Proofs.Jobs.Touch

/-!
# Shifts of the queue

A queue is worked off while renders are submitted and jobs are cancelled in any order.  A run may
begin, and be overtaken by a cancellation before its job asks for a slot.
-/

namespace Montage.Jobs

namespace Attempt

def job? : Attempt → Option String
  | .idle => none
  | .blocked => none
  | .ran job _ _ => some job

def starts : Attempt → Bool
  | .idle => false
  | .blocked => false
  | .ran _ command _ => command ≠ []

/-- Whether a fault was met while a setback was announced. -/
def breaksOff : Attempt → Bool
  | .idle => false
  | .blocked => false
  | .ran _ _ fault => fault.isSome

end Attempt

/-- What becomes of a registry when the render of a job is taken from the queue: the job is settled
unless a fault is met, and if it had settled before then nothing was started for it. -/
structure Registry.Handles (id : String) (command : List String) (fault : Option Fault)
    (registry after : Registry) : Prop where
  evolves : registry.Evolves after
  touches : registry.Touches id after
  vacant : after.inside = []
  ended : ∀ job ∈ after.all, job.id = id →
    (job.settled = false ↔ fault.isSome = true) ∧ (job.settled = false → job.admitted = true)
  settled : (∀ job ∈ registry.all, job.id = id → job.settled = true) →
    command = [] ∧ fault = none

theorem Registry.handles_of_settled {registry : Registry} {id : String}
    (vacant : registry.inside = [])
    (settled : ∀ job ∈ registry.all, job.id = id → job.settled = true) :
    registry.Handles id [] none registry where
  evolves := Evolves.refl registry
  touches := .refl registry
  vacant := vacant
  ended := fun job known named => by simp [settled job known named]
  settled := fun _ => ⟨rfl, rfl⟩

namespace Queue

/-- The rest of a run, once it was seen that the job has not settled. -/
def resume (equipment : Equipment) (encoder : Except Fault Encode.Behavior) (queue : Queue)
    (premises : Premises) (entry : Entry) : Queue × Premises × Attempt :=
  match queue.registry.enter entry.job with
  | (_, .full) => (queue, premises, .blocked)
  | (registry, .turnedAway) =>
      let (queue, fault) := record equipment.verbosity { queue with registry }
        entry.job (.error (.stopped .cancelled))
      (queue, premises, .ran entry.job [] fault)
  | (registry, .entered) =>
      let (queue, premises, command, result) :=
        render equipment encoder { queue with registry } premises entry
      let (queue, fault) := record equipment.verbosity
        (queue.alter (·.leave entry.job)) entry.job result
      (queue, premises, .ran entry.job command fault)

variable {equipment : Equipment} {encoder : Except Fault Encode.Behavior} {queue : Queue}
  {premises : Premises} {entry : Entry} {job : Job}

theorem run_eq_resume
    (unsettled : (queue.registry.findAny? entry.job).any (·.settled) = false) :
    queue.run equipment encoder premises entry =
      queue.resume equipment encoder premises entry := by
  have going : ¬ (queue.registry.findAny? entry.job).any (·.settled) = true := by simp [unsettled]
  unfold run resume
  exact if_neg going

theorem entries_plan (queue : Queue) (entry : Entry) :
    (queue.plan entry).1.entries = queue.entries := by
  unfold plan
  dsimp only
  split <;> rfl

theorem entries_render (equipment : Equipment) (encoder : Except Fault Encode.Behavior)
    (queue : Queue) (premises : Premises) (entry : Entry) :
    (queue.render equipment encoder premises entry).1.entries = queue.entries := by
  have planned := entries_plan queue entry
  unfold render
  split
  next after setback equal =>
    rw [equal] at planned
    exact planned
  next after plan equal =>
    rw [equal] at planned
    dsimp only
    split
    next => exact planned
    next => exact planned
    next => exact planned

theorem entries_record (verbosity : Console.Verbosity) (queue : Queue) (id : String)
    (result : Except Setback Path) :
    (queue.record verbosity id result).1.entries = queue.entries := by
  unfold record
  split
  next => rfl
  next =>
    split
    next => rfl
    next => rfl

/-- A job of which it is recorded how its render ended is settled, unless a fault is met. -/
theorem record_settles (verbosity : Console.Verbosity) {queue : Queue} {id : String}
    {inside : List String} (sound : queue.registry.Sound)
    (under : queue.registry.Underway id inside) (result : Except Setback Path) :
    let recorded := queue.record verbosity id result
    queue.registry.Evolves recorded.1.registry ∧ queue.registry.Touches id recorded.1.registry ∧
      recorded.1.registry.inside = inside ∧
      ∀ job ∈ recorded.1.registry.all, job.id = id →
        (job.settled = false ↔ recorded.2.isSome = true) := by
  cases result with
  | ok output =>
      obtain ⟨later, found, settled, -, -, -, slots⟩ := under.finish output
      have evolves := queue.registry.evolves_finish id output
      obtain ⟨known, named⟩ := Registry.find?_some found
      exact ⟨evolves, .finish _ id output, slots, (evolves sound).1.forall_of_id
        (List.mem_append_left _ known) named (by simp [record, settled])⟩
  | error setback =>
      unfold record
      dsimp only
      split
      next cause said =>
        obtain ⟨later, found, unsettled, -⟩ := under.job
        obtain ⟨known, named⟩ := Registry.find?_some found
        exact ⟨Registry.Evolves.refl _, .refl _, under.inside, sound.forall_of_id
          (List.mem_append_left _ known) named (by simp [unsettled])⟩
      next said =>
        obtain ⟨later, found, settled, -, -, -, slots⟩ := under.fail setback.failure
        have evolves := queue.registry.evolves_fail id setback.failure
        obtain ⟨known, named⟩ := Registry.find?_some found
        exact ⟨evolves, .fail _ id setback.failure, slots, (evolves sound).1.forall_of_id
          (List.mem_append_left _ known) named (by simp [settled])⟩

/-- A job that was cancelled before has failed already, so nothing is recorded when it is turned
away. -/
theorem resume_handles_of_settled (equipment : Equipment) (encoder : Except Fault Encode.Behavior)
    (premises : Premises) (sound : queue.registry.Sound) (free : queue.registry.isFull = false)
    (vacant : queue.registry.inside = []) (known : job ∈ queue.registry.all)
    (named : job.id = entry.job) (requested : job.cancelRequested = true)
    (settled : job.settled = true) :
    ∃ after, queue.resume equipment encoder premises entry =
        (after, premises, .ran entry.job [] none) ∧
      after.entries = queue.entries ∧ queue.registry.Handles entry.job [] none after.registry := by
  have found : queue.registry.findAny? entry.job = some job :=
    sound.findAny?_eq_some_iff.mpr ⟨known, named⟩
  have plain : '[' ∉ entry.job.toList := by
    obtain ⟨number, -, -, identified⟩ := sound.numbered job known
    rw [← named, identified]
    exact not_mem_identifier number
  let admitted := queue.registry.changeAny entry.job fun job => { job with admitted := true }
  have entered : queue.registry.enter entry.job = (admitted, .turnedAway) := by
    simp [Registry.enter, free, found, requested, admitted]
  have evolves := queue.registry.evolves_enter entry.job
  have touches := Registry.Touches.enter queue.registry entry.job
  rw [entered] at evolves touches
  -- To be admitted late unsettles nothing, so the failure that is recorded next finds no open job.
  have stays : ∀ job ∈ admitted.all, job.id = entry.job → job.settled = true := by
    intro later member named'
    obtain ⟨earlier, known', attends⟩ := touches.all member
    obtain rfl := sound.eq_of_id known' known
      (attends.named.symm.trans (named'.trans named.symm))
    exact attends.settled settled
  have recorded : record equipment.verbosity { queue with registry := admitted } entry.job
      (.error (.stopped .cancelled)) = ({ queue with registry := admitted }, none) := by
    simp only [record, announce_stopped plain, alter]
    rw [Registry.fail_of_settled _ fun job member => stays job (List.mem_append_left _ member)]
  refine ⟨{ queue with registry := admitted }, ?_, rfl, evolves, touches, vacant, ?_, ?_⟩
  · simp only [resume, entered, recorded]
  · exact fun job member named => by simp [stays job member named]
  · exact fun _ => ⟨rfl, rfl⟩

/-- A job that was not cancelled is rendered in its slot, and its end is recorded. -/
theorem run_handles_of_unasked (equipment : Equipment) (encoder : Except Fault Encode.Behavior)
    (premises : Premises) (sound : queue.registry.Sound) (free : queue.registry.isFull = false)
    (vacant : queue.registry.inside = []) (found : queue.registry.find? entry.job = some job)
    (unsettled : job.settled = false) (unasked : ¬ job.cancelRequested = true) :
    ∃ after left command fault,
      queue.run equipment encoder premises entry = (after, left, .ran entry.job command fault) ∧
      after.entries = queue.entries ∧
      queue.registry.Handles entry.job command fault after.registry := by
  obtain ⟨known, named⟩ := Registry.find?_some found
  have known := List.mem_append_left queue.registry.retired known
  obtain ⟨-, output, failure, -⟩ := (sound.jobs job known).open unsettled
  have under : queue.registry.Underway entry.job [] :=
    ⟨⟨job, found, unsettled, output, failure⟩, vacant⟩
  obtain ⟨reached, left, command, result, others, rendered, leaves, count, ran⟩ :=
    run_of_unasked equipment encoder premises free found under unasked
  obtain rfl : others = [] := List.length_eq_zero_iff.mp count
  let entering := (queue.registry.enter entry.job).1
  let rendering := render equipment encoder { queue with registry := entering } premises entry
  have kept : entering.Evolves rendering.1.registry ∧
      entering.Touches entry.job rendering.1.registry :=
    render_invariant (Registry.keptInSlot_touches entering entry.job)
      ⟨Registry.Evolves.refl _, .refl _⟩
  have entries : rendering.1.entries = queue.entries := entries_render _ _ _ _ _
  simp only [rendering, entering, rendered] at kept entries
  have evolves : queue.registry.Evolves (reached.alter (·.leave entry.job)).registry :=
    ((queue.registry.evolves_enter entry.job).trans kept.1).trans (Registry.evolves_leave _ _)
  have touches : entering.Touches entry.job (reached.alter (·.leave entry.job)).registry :=
    kept.2.trans (.leave _ _)
  obtain ⟨evolves', touches', slots, ends⟩ :=
    record_settles equipment.verbosity (evolves sound).1 leaves result
  have touches := touches.trans touches'
  refine ⟨_, left, command, _, ran, ?_, evolves.trans evolves',
    (Registry.Touches.enter _ _).trans touches, slots, fun later member named' => ?_, ?_⟩
  · rw [entries_record]
    exact entries
  · obtain ⟨earlier, member', attends⟩ := touches.all member
    refine ⟨ends later member named', fun _ => attends.admitted ?_⟩
    exact Registry.admitted_of_enter free earlier member' (attends.named.symm.trans named')
  · exact fun settled => absurd (settled job known named) (by simp [unsettled])

theorem resume_handles (equipment : Equipment) (encoder : Except Fault Encode.Behavior)
    (premises : Premises) (sound : queue.registry.Sound) (slots : 0 < queue.registry.maxConcurrent)
    (vacant : queue.registry.inside = [])
    (retired : ∀ job ∈ queue.registry.retired, job.settled = true)
    (known : job ∈ queue.registry.all) (named : job.id = entry.job) (unstarted : job.Unstarted) :
    ∃ after left command fault,
      queue.resume equipment encoder premises entry =
        (after, left, .ran entry.job command fault) ∧
      after.entries = queue.entries ∧
      queue.registry.Handles entry.job command fault after.registry := by
  have free : queue.registry.isFull = false := by simpa [Registry.isFull, vacant] using slots.ne'
  cases settled : job.settled with
  | true =>
      obtain ⟨after, resumed, entries, handles⟩ := resume_handles_of_settled equipment encoder
        premises sound free vacant known named (unstarted.settled.mp settled) settled
      exact ⟨after, premises, [], none, resumed, entries, handles⟩
  | false =>
      have unasked : ¬ job.cancelRequested = true := fun requested => by
        simp [unstarted.settled.mpr requested] at settled
      have found : queue.registry.find? entry.job = some job :=
        named ▸ (sound.underway retired known settled).1
      have handled := run_handles_of_unasked equipment encoder premises sound free vacant found
        settled unasked
      rwa [run_eq_resume (by rw [Registry.findAny?_of_find? found, Option.any_some, settled])]
        at handled

end Queue

/-- A queue that is worked off, and what was done so far. -/
structure Shift where
  queue : Queue
  premises : Premises
  begun : Option Entry := none
  submitted : List String := []
  attempts : List Attempt := []

/-- What is done in a shift. -/
inductive Act where
  | submit (spec : RenderSpec) (timeline : ResolvedTimeline)
  | cancel (id : String)
  | cancelAll
  | start
  | run (equipment : Equipment) (encoder : Except Fault Encode.Behavior)
  | shutdown (equipment : Equipment) (cancel : Bool)
  | pass (time : Binary64) (positive : 0 < time)

namespace Shift

/-- A shift before the first render. -/
def start (config : Config) (registry : Registry) (directory : Path) (premises : Premises) : Shift :=
  { queue := .start config registry directory, premises }

def waiting (shift : Shift) : List Entry :=
  shift.begun.toList ++ shift.queue.entries

def ran (shift : Shift) : List String :=
  shift.attempts.filterMap (·.job?)

def started (shift : Shift) : List String :=
  (shift.attempts.filter (·.starts)).filterMap (·.job?)

def brokenOff (shift : Shift) : List String :=
  (shift.attempts.filter (·.breaksOff)).filterMap (·.job?)

def alter (shift : Shift) (change : Registry → Registry) : Shift :=
  { shift with queue := shift.queue.alter change }

def submit (shift : Shift) (spec : RenderSpec) (timeline : ResolvedTimeline) : Shift :=
  let (queue, id) := shift.queue.submit spec timeline
  { shift with queue, submitted := shift.submitted ++ [id] }

/-- The shift after a job was cancelled, unless it is unknown. -/
def cancel (shift : Shift) (id : String) : Shift :=
  shift.alter fun registry => (registry.cancel id).toOption.getD registry

def begin (shift : Shift) : Shift :=
  match shift.begun, shift.queue.entries with
  | none, entry :: entries =>
      let queue := { shift.queue with entries }
      if (queue.registry.findAny? entry.job).any (·.settled) then
        { shift with queue, attempts := shift.attempts ++ [.ran entry.job [] none] }
      else { shift with queue, begun := some entry }
  | _, _ => shift

def run (equipment : Equipment) (encoder : Except Fault Encode.Behavior) (shift : Shift) : Shift :=
  match shift.begun with
  | none =>
      let (queue, premises, attempt) := shift.queue.runNext equipment encoder shift.premises
      { shift with queue, premises, attempts := shift.attempts ++ [attempt] }
  | some entry =>
      let (queue, premises, attempt) :=
        shift.queue.resume equipment encoder shift.premises entry
      { shift with
        queue, premises
        begun := if attempt = .blocked then some entry else none
        attempts := shift.attempts ++ [attempt] }

def runMany (equipment : Equipment) (shift : Shift) : Nat → Shift
  | 0 => shift
  | count + 1 => (shift.run equipment (.ok Queue.idleEncoder)).runMany equipment count

/-- The shift after all renders that wait were run, and cancelled before that if it is asked for. -/
def shutdown (equipment : Equipment) (cancel : Bool) (shift : Shift) : Shift :=
  let shift := if cancel then shift.alter (·.cancelAll.1) else shift
  shift.runMany equipment shift.waiting.length

def perform (shift : Shift) : Act → Shift
  | .submit spec timeline => shift.submit spec timeline
  | .cancel id => shift.cancel id
  | .cancelAll => shift.alter (·.cancelAll.1)
  | .start => shift.begin
  | .run equipment encoder => shift.run equipment encoder
  | .shutdown equipment cancel => shift.shutdown equipment cancel
  | .pass time _ => shift.alter fun registry => { registry with clock := time }

def performAll (shift : Shift) (acts : List Act) : Shift :=
  acts.foldl perform shift

/-- A shift whose run has not begun is shut down as its queue is. -/
theorem queue_shutdown (equipment : Equipment) (cancel : Bool) {shift : Shift}
    (idle : shift.begun = none) :
    ((shift.shutdown equipment cancel).queue, (shift.shutdown equipment cancel).premises) =
      shift.queue.shutdown equipment cancel shift.premises := by
  have many : ∀ (count : Nat) (shift : Shift), shift.begun = none →
      ((shift.runMany equipment count).queue, (shift.runMany equipment count).premises) =
        Queue.runMany equipment shift.queue shift.premises count := by
    intro count
    induction count with
    | zero => exact fun _ _ => rfl
    | succ count ih =>
        intro shift idle
        have next : shift.run equipment (.ok Queue.idleEncoder) =
            let ran := shift.queue.runNext equipment (.ok Queue.idleEncoder) shift.premises
            { shift with
              queue := ran.1, premises := ran.2.1, attempts := shift.attempts ++ [ran.2.2] } := by
          unfold run
          rw [idle]
        rw [runMany, ih _ (by rw [next]; exact idle), next]
        rfl
  unfold shutdown Queue.shutdown
  dsimp only
  cases cancel with
  | false =>
      have length : shift.waiting.length = shift.queue.entries.length := by simp [waiting, idle]
      rw [if_neg Bool.false_ne_true, if_neg Bool.false_ne_true, length]
      exact many _ shift idle
  | true =>
      have length : (shift.alter (·.cancelAll.1)).waiting.length =
          (shift.queue.alter (·.cancelAll.1)).entries.length := by simp [waiting, alter, idle]
      rw [if_pos rfl, if_pos rfl, length]
      exact many _ (shift.alter (·.cancelAll.1)) idle

end Shift

end Montage.Jobs
