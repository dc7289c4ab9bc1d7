import Montage.Jobs.Queue
import Montage.Proofs.Encode.Execution
import Montage.Proofs.Jobs.Underway
import Montage.Proofs.Storage.Files

/-!
# Outcomes of renders

How the job of a render ends, told from what the render meets: a cancellation, a plan that
cannot be made, and what the process of the encoder does.
-/

namespace Montage.Jobs

def Job.EndedWith (job : Job) : Except FailureKind Path → Prop
  | .ok output => job.state = .finished ∧ job.output = some output ∧ job.failure = none
  | .error kind =>
      job.state = .failed ∧ job.output = none ∧ job.failure.map (·.kind) = some kind

theorem Job.EndedWith.unique {job : Job} {first second : Except FailureKind Path}
    (ended : job.EndedWith first) (ended' : job.EndedWith second) : first = second := by
  cases first with
  | ok output =>
      cases second with
      | ok other =>
          have same := ended.2.1.symm.trans ended'.2.1
          rw [Option.some.inj same]
      | error kind => simpa using ended.1.symm.trans ended'.1
  | error kind =>
      cases second with
      | ok output => simpa using ended.1.symm.trans ended'.1
      | error other =>
          have same := ended.2.2.symm.trans ended'.2.2
          rw [Option.some.inj same]

theorem Job.EndedWith.iff_eq {job : Job} {ended : Except FailureKind Path}
    (recorded : job.EndedWith ended) (other : Except FailureKind Path) :
    job.EndedWith other ↔ other = ended := by
  constructor
  · exact fun ends => ends.unique recorded
  · rintro rfl
    exact recorded

namespace Queue

def ofVerdict (output : Path) : Encode.Verdict → Except FailureKind Path
  | .finished => .ok output
  | .stopped reason => .error (.stopped reason)
  | .failed => .error .encode
  | .broken => .error .internal

/-- How a render ends that has a slot.  A timeline without graph is a failure of its own
kind; all else that goes wrong before the process starts is internal. -/
def renderFate (encoder : Except Fault Encode.Behavior) (queue : Queue)
    (premises : Premises) (entry : Entry) : Except FailureKind Path :=
  match (queue.plan entry).2 with
  | .error (.graph _) => .error .graph
  | .error _ => .error .internal
  | .ok plan =>
      match encoder, premises.tree.makeDirectory plan.output.parent with
      | .ok behavior, .ok _ =>
          ofVerdict plan.output (Encode.verdict plan.timeline.totalDuration
            (premises.tree.content? plan.output) behavior)
      | _, _ => .error .internal

/-- How the render of a job ends.  One that was cancelled before is turned away. -/
def fate (encoder : Except Fault Encode.Behavior) (queue : Queue) (premises : Premises)
    (entry : Entry) (job : Job) : Except FailureKind Path :=
  if job.cancelRequested then .error (.stopped .cancelled)
  else renderFate encoder queue premises entry

/-- The console takes what is said in a render that has a slot. -/
structure Heard (equipment : Equipment) (encoder : Except Fault Encode.Behavior)
    (queue : Queue) (premises : Premises) (entry : Entry) : Prop where
  encode : ∀ plan behavior, (queue.plan entry).2 = .ok plan → encoder = .ok behavior →
    Encode.Heard (invocation equipment.verbosity entry.job plan) behavior
  cancelled : Setback.announce equipment.verbosity entry.job (.stopped .cancelled) = .ok ()
  setback : ∀ setback, (render equipment encoder
      { queue with registry := (queue.registry.enter entry.job).1 } premises
      entry).2.2.2 = .error setback →
    setback.announce equipment.verbosity entry.job = .ok ()

section Encode

variable {equipment : Equipment} {behavior : Encode.Behavior} {queue : Queue}
  {premises : Premises} {job : String} {plan : RenderPlan}

/-- What holds of the registry before an encode holds of it afterwards, if reports and requests
keep it. -/
theorem encode_invariant {holds : Registry → Prop} (kept : Registry.KeptInSlot job holds)
    (start : holds queue.registry) :
    holds (queue.encode equipment behavior premises job plan).1.registry := by
  have followed := Encode.execute_invariant holds
    (fun registry percent held => kept.updateProgress registry percent held)
    plan.timeline.totalDuration equipment.workplace (invocation equipment.verbosity job plan)
    behavior ⟨queue.registry, premises.tree.content? plan.output, false⟩ premises.processes start
  unfold encode
  dsimp only
  split
  · exact kept.requestCancel _ followed
  · exact followed

theorem isFile_update (tree : FileTree) (path : Path) (content : String) :
    (tree.update path (some content)).isFile path := by
  unfold FileTree.update
  split
  next same => simp [FileTree.isFile, same]
  next => rw [FileTree.isFile, FileTree.content?_write_self, Option.isSome_some]

/-- An encode gives what its process comes to, and its output file is there. -/
theorem encode_fate (queue : Queue) (premises : Premises)
    (heard : Encode.Heard (invocation equipment.verbosity job plan) behavior) :
    let encoded := queue.encode equipment behavior premises job plan
    encoded.2.2.2.mapError (·.failure.kind) =
        ofVerdict plan.output (Encode.verdict plan.timeline.totalDuration
          (premises.tree.content? plan.output) behavior) ∧
      ∀ output, encoded.2.2.2 = .ok output → encoded.2.1.tree.isFile output := by
  have gives := Encode.execute_gives
    (fun registry percent => registry.updateProgress job percent)
    plan.timeline.totalDuration equipment.workplace queue.registry
    (premises.tree.content? plan.output) premises.processes heard
  unfold encode
  dsimp only at gives ⊢
  generalize Encode.execute _ plan.timeline.totalDuration equipment.workplace
    (invocation equipment.verbosity job plan) behavior _ premises.processes = executed at gives ⊢
  obtain ⟨aftermath, result⟩ := executed
  cases verdict : Encode.verdict plan.timeline.totalDuration
      (premises.tree.content? plan.output) behavior with
  | finished =>
      simp only [verdict, Encode.Gives] at gives
      obtain ⟨rfl, some⟩ := gives
      obtain ⟨content, output⟩ := Option.isSome_iff_exists.mp some
      refine ⟨rfl, fun path given => ?_⟩
      obtain rfl := Except.ok.inj given
      simp only [output]
      exact isFile_update _ _ _
  | stopped reason =>
      simp only [verdict, Encode.Gives] at gives
      obtain ⟨rfl, -⟩ := gives
      exact ⟨rfl, by simp⟩
  | failed =>
      simp only [verdict, Encode.Gives] at gives
      obtain ⟨message, rfl⟩ := gives
      exact ⟨rfl, by simp⟩
  | broken =>
      simp only [verdict, Encode.Gives] at gives
      obtain ⟨fault, rfl⟩ := gives
      exact ⟨rfl, by simp⟩

end Encode

section Render

variable {equipment : Equipment} {encoder : Except Fault Encode.Behavior} {queue : Queue}
  {premises : Premises} {entry : Entry}

/-- A plan that cannot be made is a graph error or a fault. -/
theorem setback_of_plan {setback : Setback} (failed : (queue.plan entry).2 = .error setback) :
    (∃ reason, setback = .graph reason) ∨ ∃ cause, setback = .fault cause := by
  unfold plan at failed
  dsimp only at failed
  split at failed
  next reason planned =>
    simp only [Except.error.injEq] at failed
    subst failed
    cases reason with
    | rejected reason => exact .inr ⟨_, rfl⟩
    | graph reason => exact .inl ⟨reason, rfl⟩
    | fault cause => exact .inr ⟨cause, rfl⟩
  next plan planned => simp at failed

theorem plan_withRegistry (queue : Queue) (registry : Registry) (entry : Entry) :
    (Queue.plan { queue with registry } entry).2 = (queue.plan entry).2 := by
  unfold plan
  dsimp only
  split <;> rfl

theorem registry_plan (queue : Queue) (entry : Entry) :
    (queue.plan entry).1.registry = queue.registry := by
  unfold plan
  dsimp only
  split <;> rfl

/-- What holds of the registry before a render holds of it afterwards, if all that happens to its
job in its slot keeps it. -/
theorem render_invariant {holds : Registry → Prop} (kept : Registry.KeptInSlot entry.job holds)
    (start : holds queue.registry) :
    holds (queue.render equipment encoder premises entry).1.registry := by
  have planned : holds (queue.plan entry).1.registry := by
    rw [registry_plan]
    exact start
  unfold render
  split
  next after setback equal =>
    rw [equal] at planned
    exact planned
  next after plan equal =>
    rw [equal] at planned
    have targeted : holds (after.alter (·.setTarget entry.job plan.output)).registry :=
      kept.setTarget _ plan.output planned
    dsimp only
    split
    next => exact targeted
    next => exact targeted
    next => exact encode_invariant kept targeted

/-- A render ends as it is told from what it meets.  Its output file is there, and if the
timeline has no graph nothing was started or written. -/
theorem render_fate (premises : Premises)
    (heard : ∀ plan behavior, (queue.plan entry).2 = .ok plan → encoder = .ok behavior →
      Encode.Heard (invocation equipment.verbosity entry.job plan) behavior) :
    let rendered := queue.render equipment encoder premises entry
    rendered.2.2.2.mapError (·.failure.kind) = renderFate encoder queue premises entry ∧
      (∀ output, rendered.2.2.2 = .ok output → rendered.2.1.tree.isFile output) ∧
      (renderFate encoder queue premises entry = .error .graph →
        rendered.2.1 = premises ∧ rendered.2.2.1 = []) := by
  unfold render renderFate
  split
  next after setback equal =>
    have failed : (queue.plan entry).2 = .error setback := by rw [equal]
    rcases setback_of_plan failed with ⟨reason, rfl⟩ | ⟨cause, rfl⟩
    · simp [equal, Except.mapError, Setback.failure]
    · simp [equal, Except.mapError, Setback.failure]
  next after plan equal =>
    have planned : (queue.plan entry).2 = .ok plan := by rw [equal]
    dsimp only
    split
    next cause obstacle => simp [equal, Except.mapError, Setback.failure]
    next behavior cause failed =>
      simp [equal, failed, Except.mapError, Setback.failure]
    next behavior tree makes =>
      obtain ⟨fate, written⟩ := encode_fate (after.alter (·.setTarget entry.job plan.output))
        { premises with tree } (heard plan behavior planned rfl)
      simp only [FileTree.content?_makeDirectory makes] at fate
      simp only [planned, makes]
      refine ⟨fate, written, fun graph => absurd graph ?_⟩
      cases Encode.verdict plan.timeline.totalDuration
        (premises.tree.content? plan.output) behavior <;> simp [ofVerdict]

end Render

section Run

variable {equipment : Equipment} {encoder : Except Fault Encode.Behavior} {queue : Queue}
  {premises : Premises} {entry : Entry} {job : Job} {inside : List String}

theorem record_ends (queue : Queue) {verbosity : Console.Verbosity} {id : String}
    (under : queue.registry.Underway id inside) (result : Except Setback Path)
    (announced : ∀ setback, result = .error setback →
      setback.announce verbosity id = .ok ()) :
    ∃ after later, queue.record verbosity id result = (after, none) ∧
      after.registry.find? id = some later ∧ later.settled = true ∧
      later.EndedWith (result.mapError (·.failure.kind)) ∧
      after.registry.inside = inside := by
  cases result with
  | ok output =>
      obtain ⟨later, found, settled, state, given, failure, slots⟩ := under.finish output
      exact ⟨_, later, rfl, found, settled, ⟨state, given, failure⟩, slots⟩
  | error setback =>
      obtain ⟨later, found, settled, state, output, given, slots⟩ :=
        under.fail setback.failure
      refine ⟨queue.alter (·.fail id setback.failure), later, ?_, found, settled, ?_, slots⟩
      · simp only [record, announced setback rfl]
      · refine ⟨state, output, ?_⟩
        rw [given, Option.map_some]

/-- What a run does that takes a render from the queue and records how its job ended. -/
structure Settles (queue : Queue) (premises : Premises) (id : String)
    (ended : Except FailureKind Path) (attempted : Queue × Premises × Attempt) : Prop where
  /-- There is no fault, and where there is no graph nothing was started or written. -/
  returned : ∃ command, attempted.2.2 = .ran id command none ∧
    (ended = .error .graph → command = [] ∧ attempted.2.1 = premises)
  recorded : ∃ job, attempted.1.registry.find? id = some job ∧ job.settled = true ∧
    ∀ other, job.EndedWith other ↔ other = ended
  slots : attempted.1.registry.occupancy.running = queue.registry.occupancy.running
  written : ∀ output, ended = .ok output → attempted.2.1.tree.isFile output

/-- A job that was cancelled while it waited is stopped before it begins. -/
theorem run_cancelled (free : queue.registry.isFull = false)
    (registered : queue.registry.find? entry.job = some job)
    (under : queue.registry.Underway entry.job inside) (requested : job.cancelRequested)
    (heard : Setback.announce equipment.verbosity entry.job (.stopped .cancelled) = .ok ()) :
    Settles queue premises entry.job (.error (.stopped .cancelled))
      (queue.run equipment encoder premises entry) := by
  have asked := under.enter free registered
  rw [if_pos requested] at asked
  obtain ⟨registry, entered, turnedAway⟩ := asked
  obtain ⟨after, later, recorded, found, settled, ended, slots⟩ :=
    record_ends { queue with registry } turnedAway
      (.error (.stopped .cancelled)) fun setback given => by
        rw [← Except.error.inj given]
        exact heard
  have ran : queue.run equipment encoder premises entry =
      (after, premises, .ran entry.job [] none) := by
    simp only [run, under.findAny?_settled, entered, recorded, Bool.false_eq_true, if_false]
  rw [ran]
  refine ⟨⟨[], rfl, fun _ => ⟨rfl, rfl⟩⟩, ⟨later, found, settled, ?_⟩, ?_, ?_⟩
  · exact Job.EndedWith.iff_eq ended
  · exact congrArg List.length (slots.trans under.inside.symm)
  · simp

/-- A job that gets a slot is rendered in it, gives it up, and has its end recorded. -/
theorem run_of_unasked (equipment : Equipment) (encoder : Except Fault Encode.Behavior)
    (premises : Premises) (free : queue.registry.isFull = false)
    (registered : queue.registry.find? entry.job = some job)
    (under : queue.registry.Underway entry.job inside) (unasked : ¬ job.cancelRequested) :
    ∃ reached left command result others,
      render equipment encoder { queue with registry := (queue.registry.enter entry.job).1 }
        premises entry = (reached, left, command, result) ∧
      (reached.alter (·.leave entry.job)).registry.Underway entry.job others ∧
      others.length = inside.length ∧
      queue.run equipment encoder premises entry =
        let recorded := record equipment.verbosity (reached.alter (·.leave entry.job))
          entry.job result
        (recorded.1, left, .ran entry.job command recorded.2) := by
  have asked := under.enter free registered
  rw [if_neg unasked] at asked
  obtain ⟨registry, entered, holds⟩ := asked
  have follows : (render equipment encoder { queue with registry } premises
      entry).1.registry.Underway entry.job (inside ++ [entry.job]) :=
    render_invariant (Registry.Underway.keptInSlot entry.job _) holds
  cases rendered : render equipment encoder { queue with registry } premises entry with
  | mk reached rest =>
      obtain ⟨left, command, result⟩ := rest
      rw [rendered] at follows
      obtain ⟨others, leaves, slots⟩ := follows.leave
      refine ⟨reached, left, command, result, others, by rw [entered, rendered], leaves, slots, ?_⟩
      simp only [run, under.findAny?_settled, entered, rendered, Bool.false_eq_true, if_false]

/-- A job that gets a slot ends as its render does. -/
theorem run_entered (free : queue.registry.isFull = false)
    (registered : queue.registry.find? entry.job = some job)
    (under : queue.registry.Underway entry.job inside) (unasked : ¬ job.cancelRequested)
    (heard : Heard equipment encoder queue premises entry) :
    Settles queue premises entry.job (renderFate encoder queue premises entry)
      (queue.run equipment encoder premises entry) := by
  obtain ⟨reached, left, command, result, others, rendered, leaves, slots, ran⟩ :=
    run_of_unasked equipment encoder premises free registered under unasked
  have samePlan := plan_withRegistry queue (queue.registry.enter entry.job).1 entry
  have sameFate : renderFate encoder
      { queue with registry := (queue.registry.enter entry.job).1 } premises entry =
      renderFate encoder queue premises entry := by
    simp only [renderFate, samePlan]
  have setback := heard.setback
  have tells := heard.encode
  rw [← samePlan] at tells
  obtain ⟨fate, written, untouched⟩ := render_fate premises tells
  rw [sameFate] at fate untouched
  rw [rendered] at setback fate written untouched
  obtain ⟨after, later, recorded, found, settled, ended, kept⟩ :=
    record_ends (reached.alter (·.leave entry.job)) leaves result setback
  simp only [recorded] at ran
  rw [ran]
  refine ⟨⟨command, rfl, fun graph => ?_⟩, ⟨later, found, settled, ?_⟩, ?_, ?_⟩
  · exact (untouched graph).symm
  · rw [← fate]
    exact Job.EndedWith.iff_eq ended
  · rw [Registry.occupancy, Registry.occupancy, kept, slots, under.inside]
  · exact fun output given => written output (mapError_eq_ok_iff.mp (fate.trans given))

end Run

/-- The run of a known job raises nothing.  A settled job is left alone, and one that finds
no slot waits.  Every other job is settled with the one end that is told from what its
render meets, whatever was reported of it before, and the slots are as they were. -/
theorem run_settles_job {equipment : Equipment} {encoder : Except Fault Encode.Behavior}
    {queue : Queue} {premises : Premises} {entry : Entry} {job : Job}
    {maxConcurrent maxFinished : Int} {clock : Binary64} (positive : 0 < clock)
    (reached : Registry.Run (Registry.start maxConcurrent maxFinished clock) queue.registry)
    (registered : queue.registry.find? entry.job = some job)
    (heard : Heard equipment encoder queue premises entry) :
    let attempted := queue.run equipment encoder premises entry
    if job.settled then attempted = (queue, premises, .ran entry.job [] none)
    else if queue.registry.isFull then attempted = (queue, premises, .blocked)
    else Settles queue premises entry.job (fate encoder queue premises entry job)
      attempted := by
  dsimp only
  split
  next settled =>
    simp only [run, Registry.findAny?_of_find? registered, Option.any_some, settled, if_true]
  next unsettled =>
    have unsettled := Bool.eq_false_iff.mpr unsettled
    split
    next full =>
      simp only [run, Registry.findAny?_of_find? registered, Option.any_some, unsettled,
        Bool.false_eq_true, if_false, Registry.enter, full, if_true]
    next free =>
      have free := Bool.eq_false_iff.mpr free
      obtain ⟨sound, -⟩ := reached.evolves (Registry.sound_start _ _ positive)
      have known := (Registry.find?_some registered).1
      obtain ⟨-, output, failure, -⟩ :=
        (sound.jobs job (List.mem_append_left _ known)).open unsettled
      have under : queue.registry.Underway entry.job queue.registry.inside :=
        ⟨⟨job, registered, unsettled, output, failure⟩, rfl⟩
      unfold fate
      split
      next requested => exact run_cancelled free registered under requested heard.cancelled
      next unasked => exact run_entered free registered under unasked heard

def stillTimeline : ResolvedTimeline :=
  ⟨[⟨.image ⟨"still.png", 5, none⟩, 0, 5, some (.ofString "still.png"), false⟩], 5⟩

def stillEntry : Entry where
  job := "job-1"
  spec := ⟨640, 360, stillTimeline.items.map (·.item), "23", "mp4", .cover, none⟩
  timeline := stillTimeline

def stillQueue : Queue :=
  ((start {} (.start 1 200 1000) (.ofString "/outputs")).submit stillEntry.spec
    stillTimeline).1

def completeWithoutFile : Encode.Behavior :=
  .started [.line "out_time=00:00:05.000"] [] 0

/-- A render that was reported complete ends failed when its encoder fails. -/
theorem run_settles_completeWithoutFile :
    (∃ job, stillQueue.registry.find? "job-1" = some job ∧ job.settled = false) ∧
    (∃ job, (stillQueue.run {} (.ok completeWithoutFile) {} stillEntry).1.registry.find?
      "job-1" = some job ∧ job.progress = 100) ∧
    Settles stillQueue {} "job-1" (.error .encode)
      (stillQueue.run {} (.ok completeWithoutFile) {} stillEntry) := by
  have reached : Registry.Run (.start 1 200 1000) stillQueue.registry :=
    .single (.create _ _)
  have registered : ∃ job, stillQueue.registry.find? "job-1" = some job ∧
      job.settled = false := ⟨_, rfl, rfl⟩
  have setback : (render {} (.ok completeWithoutFile)
      { stillQueue with registry := (stillQueue.registry.enter "job-1").1 } {}
      stillEntry).2.2.2 = .error (.encode "Output file not created") := by decide +kernel
  have heard : Heard {} (.ok completeWithoutFile) stillQueue {} stillEntry := by
    refine ⟨fun plan behavior _ given => ?_, rfl, fun other given => ?_⟩
    · obtain rfl := Except.ok.inj given
      refine ⟨rfl, fun _ refused => (nomatch refused), ?_⟩
      intro _ _ _ started failed
      cases started
      contradiction
    · obtain rfl := Except.error.inj (given.symm.trans setback)
      rfl
  obtain ⟨job, found, unsettled⟩ := registered
  have settles := run_settles_job (by decide +kernel) reached found heard
  have free : stillQueue.registry.isFull = false := rfl
  have fate : fate (.ok completeWithoutFile) stillQueue {} stillEntry job = .error .encode := by
    obtain rfl := Option.some.inj (found.symm.trans rfl)
    decide +kernel
  simp only [unsettled, free, Bool.false_eq_true, if_false, fate] at settles
  refine ⟨⟨job, found, unsettled⟩, ?_, settles⟩
  decide +kernel

end Queue

end Montage.Jobs
