import Montage.Proofs.Console.Message
import Montage.Proofs.Jobs.Outcome
import Montage.Proofs.Numeric.Digits

/-!
# Announced failures

A failure is recorded after it is announced.  The text of a failure may come from outside,
a name of a style or the error output of an encoder, and where the console does not take
it, the job is left open.
-/

namespace Montage.Jobs.Queue

/-- How a failure is recorded of a job that is under way, when this comes of what is said
of it: the job is settled with the failure, or it stays open and the run ends with the
fault. -/
def Records (said : Except Fault Unit) (failure : Failure) (id : String)
    (attempted : Queue × Premises × Attempt) : Prop :=
  ∃ command job, attempted.1.registry.find? id = some job ∧
    match said with
    | .ok () => attempted.2.2 = .ran id command none ∧ job.settled = true ∧
        job.state = .failed ∧ job.failure = some failure
    | .error fault => attempted.2.2 = .ran id command (some fault) ∧ job.settled = false

def SettlesFailed (id : String) (attempted : Queue × Premises × Attempt) : Prop :=
  ∃ job, attempted.1.registry.find? id = some job ∧ job.settled = true ∧ job.state = .failed

theorem Records.settlesFailed_iff {said : Except Fault Unit} {failure : Failure} {id : String}
    {attempted : Queue × Premises × Attempt} (records : Records said failure id attempted) :
    SettlesFailed id attempted ↔ said = .ok () := by
  obtain ⟨command, job, found, recorded⟩ := records
  cases said with
  | ok done => exact ⟨fun _ => rfl, fun _ => ⟨job, found, recorded.2.1, recorded.2.2.1⟩⟩
  | error fault =>
      refine ⟨fun ⟨other, found', settled, _⟩ => ?_, fun taken => by simp at taken⟩
      obtain rfl := Option.some.inj (found.symm.trans found')
      simp [recorded.2] at settled

/-- A failure of which the console does not take what is said leaves its job open. -/
theorem Records.leavesOpen {said : Except Fault Unit} {failure : Failure} {id : String}
    {attempted : Queue × Premises × Attempt} (records : Records said failure id attempted)
    {fault : Fault} (refused : said = .error fault) :
    ∃ command job, attempted.2.2 = .ran id command (some fault) ∧
      attempted.1.registry.find? id = some job ∧ job.settled = false := by
  subst refused
  obtain ⟨command, job, found, ran, unsettled⟩ := records
  exact ⟨command, job, ran, found, unsettled⟩

section Runs

variable {equipment : Equipment} {encoder : Except Fault Encode.Behavior} {queue : Queue}
  {premises : Premises} {entry : Entry} {job : Job} {inside : List String}

/-- A run whose render meets a setback records it, after what is said of it. -/
theorem records_setback (free : queue.registry.isFull = false)
    (registered : queue.registry.find? entry.job = some job)
    (under : queue.registry.Underway entry.job inside) (unasked : ¬ job.cancelRequested)
    {setback : Setback}
    (failed : (render equipment encoder
      { queue with registry := (queue.registry.enter entry.job).1 } premises entry).2.2.2 =
        .error setback) :
    Records (setback.announce equipment.verbosity entry.job) setback.failure entry.job
      (queue.run equipment encoder premises entry) := by
  obtain ⟨reached, left, command, result, others, rendered, leaves, -, ran⟩ :=
    run_of_unasked equipment encoder premises free registered under unasked
  rw [rendered] at failed
  obtain rfl : result = .error setback := failed
  rw [ran]
  cases said : setback.announce equipment.verbosity entry.job with
  | ok done =>
      obtain ⟨later, found, settled, state, -, given, -⟩ := leaves.fail setback.failure
      have recorded : record equipment.verbosity (reached.alter (·.leave entry.job)) entry.job
          (.error setback) = ((reached.alter (·.leave entry.job)).alter
            (·.fail entry.job setback.failure), none) := by
        simp only [record, said]
      rw [recorded]
      exact ⟨command, later, found, rfl, settled, state, given⟩
  | error fault =>
      obtain ⟨later, found, unsettled, -⟩ := leaves.job
      have recorded : record equipment.verbosity (reached.alter (·.leave entry.job)) entry.job
          (.error setback) = (reached.alter (·.leave entry.job), some fault) := by
        simp only [record, said]
      rw [recorded]
      exact ⟨command, later, found, rfl, unsettled⟩

theorem render_of_plan_error (equipment : Equipment) (encoder : Except Fault Encode.Behavior)
    (premises : Premises) {setback : Setback} (failed : (queue.plan entry).2 = .error setback) :
    (render equipment encoder queue premises entry).2.2.2 = .error setback := by
  unfold render
  split
  next after other equal => simpa [equal] using failed
  next after plan equal => simp [equal] at failed

theorem records_graph (equipment : Equipment) (encoder : Except Fault Encode.Behavior)
    (premises : Premises) (free : queue.registry.isFull = false)
    (registered : queue.registry.find? entry.job = some job)
    (under : queue.registry.Underway entry.job inside) (unasked : ¬ job.cancelRequested)
    {reason : Filter.GraphError} (refused : (queue.plan entry).2 = .error (.graph reason)) :
    Records (Setback.announce equipment.verbosity entry.job (.graph reason))
      ⟨.graph, reason.message⟩ entry.job (queue.run equipment encoder premises entry) :=
  records_setback free registered under unasked (render_of_plan_error equipment encoder premises
    ((plan_withRegistry queue (queue.registry.enter entry.job).1 entry).trans refused))

/-- Whether the encoder of a render is started, exits with an error code, and has written
these lines of error output. -/
def ExitsWith (equipment : Equipment) (encoder : Except Fault Encode.Behavior) (queue : Queue)
    (premises : Premises) (entry : Entry) (errors : List String) : Prop :=
  ∃ plan actions code made, (queue.plan entry).2 = .ok plan ∧
    encoder = .ok (.started actions errors code) ∧ code ≠ 0 ∧
    premises.tree.makeDirectory plan.output.parent = .ok made ∧
    Encode.announceStart (invocation equipment.verbosity entry.job plan) = .ok () ∧
    (Encode.scriptEnd plan.timeline.totalDuration (premises.tree.content? plan.output)
      actions).2 = .exited

def announceExit (equipment : Equipment) (errors : List String) : Except Fault Unit :=
  Console.announce equipment.verbosity .error
    ("[render] Render failed:\n" ++ Encode.Diagnosis.ofOutput (Encode.errorText errors))

/-- The setback that an exit with an error code comes to: its diagnosis, or the fault of
saying that. -/
def exitSetback (equipment : Equipment) (errors : List String) : Setback :=
  match announceExit equipment errors with
  | .ok () => .encode (Encode.Diagnosis.ofOutput (Encode.errorText errors))
  | .error fault => .fault fault

theorem render_of_exitsWith {errors : List String}
    (exits : ExitsWith equipment encoder queue premises entry errors) :
    (render equipment encoder queue premises entry).2.2.2 =
      .error (exitSetback equipment errors) := by
  obtain ⟨plan, actions, code, made, planned, rfl, failed, makes, starts, exited⟩ := exits
  unfold render
  split
  next after setback equal => simp [equal] at planned
  next after other equal =>
    obtain rfl : other = plan := by simpa [equal] using planned
    simp only [makes, encode, FileTree.content?_makeDirectory makes]
    rw [Encode.execute_exited _ _ _ _ _ _ starts exited failed]
    unfold exitSetback announceExit invocation
    cases Console.announce equipment.verbosity .error
      ("[render] Render failed:\n" ++ Encode.Diagnosis.ofOutput (Encode.errorText errors)) <;> rfl

theorem ExitsWith.withRegistry {errors : List String}
    (exits : ExitsWith equipment encoder queue premises entry errors) (registry : Registry) :
    ExitsWith equipment encoder { queue with registry } premises entry errors := by
  obtain ⟨plan, actions, code, made, planned, rest⟩ := exits
  exact ⟨plan, actions, code, made, (plan_withRegistry queue registry entry).trans planned, rest⟩

end Runs

section Texts

theorem not_mem_identifier (number : Nat) : '[' ∉ (Registry.identifier number).toList := by
  simp [Registry.identifier, Decimal.not_mem_ofInt_natCast]

theorem announce_jobs {id words text : String} (plain : '[' ∉ id.toList)
    (verbosity : Console.Verbosity) (level : Console.Level) (spoken : '[' ∉ words.toList)
    (absent : '[' ∉ text.toList) :
    Console.announce verbosity level ("[jobs] Render " ++ id ++ words ++ text) = .ok () := by
  have starts : ("[jobs] Render " ++ id ++ words ++ text).toList =
      Console.Markup.bracketed "jobs".toList ++ (" Render ".toList ++ id.toList ++
        words.toList ++ text.toList) := by
    simp [Console.Markup.bracketed]
  exact Console.announce_of_not_mem verbosity Console.Markup.isTagName_jobs
    (by cases level <;> decide) starts (by simp [plain, spoken, absent])

/-- The reason why a graph is invalid is taken if no bracket is opened in it. -/
theorem announce_graph {id : String} (plain : '[' ∉ id.toList) (verbosity : Console.Verbosity)
    {reason : Filter.GraphError} (absent : '[' ∉ reason.message.toList) :
    Setback.announce verbosity id (.graph reason) = .ok () :=
  announce_jobs plain verbosity .error (by decide) absent

theorem announce_fault {id : String} (plain : '[' ∉ id.toList) (verbosity : Console.Verbosity)
    {cause : Fault} (absent : '[' ∉ cause.message.toList) :
    Setback.announce verbosity id (.fault cause) = .ok () :=
  announce_jobs plain verbosity .error (by decide) absent

/-- The reason why a render is stopped is always taken. -/
theorem announce_stopped {id : String} (plain : '[' ∉ id.toList) (verbosity : Console.Verbosity)
    (reason : Encode.StopReason) : Setback.announce verbosity id (.stopped reason) = .ok () :=
  announce_jobs plain verbosity .warning (by decide) (by cases reason <;> decide)

theorem announceExit_eq_ok (equipment : Equipment) {errors : List String}
    (absent : '[' ∉ (Encode.Diagnosis.ofOutput (Encode.errorText errors)).toList) :
    announceExit equipment errors = .ok () := by
  have starts : ("[render] Render failed:\n" ++
      Encode.Diagnosis.ofOutput (Encode.errorText errors)).toList =
      Console.Markup.bracketed "render".toList ++ (" Render failed:\n".toList ++
        (Encode.Diagnosis.ofOutput (Encode.errorText errors)).toList) := by
    simp [Console.Markup.bracketed]
  exact Console.announce_of_not_mem _ Console.Markup.isTagName_render (by decide) starts
    (by simp [absent])

end Texts

/-- What a run does whose render fails with a text: the failure is recorded after what is
said of it, so the job is settled exactly when the console takes that, which it does if no
bracket is opened in the text. -/
structure Fails (equipment : Equipment) (setback : Setback) (text : String) (id : String)
    (attempted : Queue × Premises × Attempt) : Prop where
  recorded : Records (setback.announce equipment.verbosity id) setback.failure id attempted
  settled : SettlesFailed id attempted ↔ setback.announce equipment.verbosity id = .ok ()
  plain : '[' ∉ text.toList → SettlesFailed id attempted

/-- A queued render with a timeline that has no graph, or with an encoder that exits with an
error code, is settled as failed exactly when the console takes what is said of that.  If it
does not, the run ends with a fault and the job stays open. -/
theorem run_settles_failure_iff (equipment : Equipment)
    (encoder : Except Fault Encode.Behavior) (premises : Premises) {queue : Queue}
    {entry : Entry} {job : Job} {maxConcurrent maxFinished : Int} {clock : Binary64}
    (positive : 0 < clock)
    (reached : Registry.Run (Registry.start maxConcurrent maxFinished clock) queue.registry)
    (registered : queue.registry.find? entry.job = some job) (unsettled : job.settled = false)
    (unasked : ¬ job.cancelRequested) (free : queue.registry.isFull = false) :
    let attempted := queue.run equipment encoder premises entry
    (∀ reason, (queue.plan entry).2 = .error (.graph reason) →
      Fails equipment (.graph reason) reason.message entry.job attempted) ∧
    (∀ errors, ExitsWith equipment encoder queue premises entry errors →
      Fails equipment (exitSetback equipment errors)
        (Encode.Diagnosis.ofOutput (Encode.errorText errors)) entry.job attempted) := by
  obtain ⟨sound, -⟩ := reached.evolves (Registry.sound_start _ _ positive)
  obtain ⟨known, named⟩ := Registry.find?_some registered
  have member : job ∈ queue.registry.all := List.mem_append_left _ known
  obtain ⟨-, output, failure, -⟩ := (sound.jobs job member).open unsettled
  have under : queue.registry.Underway entry.job queue.registry.inside :=
    ⟨⟨job, registered, unsettled, output, failure⟩, rfl⟩
  refine ⟨fun reason refused => ?_, fun errors exits => ?_⟩
  · have records := records_graph equipment encoder premises free registered under unasked refused
    refine ⟨records, records.settlesFailed_iff, fun absent => records.settlesFailed_iff.mpr ?_⟩
    -- Identifiers are numbered, so nothing but the reason can open a bracket.
    obtain ⟨number, -, -, identified⟩ := sound.numbered job member
    have plain : '[' ∉ entry.job.toList := by
      rw [← named, identified]
      exact not_mem_identifier number
    exact announce_graph plain equipment.verbosity absent
  · have failed := render_of_exitsWith (exits.withRegistry (queue.registry.enter entry.job).1)
    have records := records_setback free registered under unasked failed
    refine ⟨records, records.settlesFailed_iff, fun absent => records.settlesFailed_iff.mpr ?_⟩
    simp only [exitSetback, announceExit_eq_ok equipment absent]
    rfl

def titledTimeline (style : String) : ResolvedTimeline where
  items := stillTimeline.items ++
    [⟨.text ⟨"Title", style, none, .named "center", 0, 5⟩, 0, 5, none, false⟩]
  totalDuration := 5

def titledEntry (style : String) : Entry :=
  { stillEntry with timeline := titledTimeline style }

def titledQueue (style : String) : Queue :=
  ((start {} (.start 1 200 1000) (.ofString "/outputs")).submit (titledEntry style).spec
    (titledTimeline style)).1

/-- The reason why there is no graph is refused if it names a style that is a closing tag. -/
theorem exists_announce_closingStyle :
    ∃ fault, Setback.announce .silent "job-1" (.graph (.unknownStyle "[/b]")) = .error fault := by
  have starts : ("[jobs] Render job-1 has an invalid graph: " ++
      (Filter.GraphError.unknownStyle "[/b]").message).toList =
      Console.Markup.bracketed "jobs".toList ++
        (" Render job-1 has an invalid graph: Invalid text style: ".toList ++
          (Console.Markup.bracketed ['/', 'b'] ++ [])) := by
    decide
  exact Console.exists_announce_closingBold rfl Console.Markup.isTagName_jobs starts (by decide)
    (by decide) (by decide)

/-- The name of a style that is a closing tag leaves the job open: the reason why there is no
graph cannot be printed. -/
theorem run_leaves_closingStyle_open :
    ((titledQueue "[/b]").plan (titledEntry "[/b]")).2 =
      .error (.graph (.unknownStyle "[/b]")) ∧
    ∃ command fault job,
      ((titledQueue "[/b]").run {} (.ok idleEncoder) {} (titledEntry "[/b]")).2.2 =
        .ran "job-1" command (some fault) ∧
      ((titledQueue "[/b]").run {} (.ok idleEncoder) {}
        (titledEntry "[/b]")).1.registry.find? "job-1" = some job ∧ job.settled = false := by
  have planned : ((titledQueue "[/b]").plan (titledEntry "[/b]")).2 =
      .error (.graph (.unknownStyle "[/b]")) := rfl
  have free : (titledQueue "[/b]").registry.isFull = false := rfl
  have registered : ∃ job, (titledQueue "[/b]").registry.find? "job-1" = some job ∧
      job.settled = false ∧ job.output = none ∧ job.failure = none ∧ ¬ job.cancelRequested :=
    ⟨_, rfl, rfl, rfl, rfl, by decide⟩
  obtain ⟨job, found, unsettled, output, failure, unasked⟩ := registered
  have under : (titledQueue "[/b]").registry.Underway "job-1" [] :=
    ⟨⟨job, found, unsettled, output, failure⟩, rfl⟩
  obtain ⟨fault, refused⟩ := exists_announce_closingStyle
  have records := records_graph {} (.ok idleEncoder) {} free found under unasked planned
  obtain ⟨command, later, ran, left⟩ := records.leavesOpen refused
  exact ⟨planned, command, fault, later, ran, left⟩

def encoderWithoutRoom : Encode.Behavior :=
  .started [] ["still.mp4: No space left on device"] 1

/-- A style that no preset has, and an encoder that exits with an error code, settle their jobs
as failed when no bracket is opened in what they say. -/
theorem run_settles_plainFailures :
    ((titledQueue "fancy").plan (titledEntry "fancy")).2 =
      .error (.graph (.unknownStyle "fancy")) ∧
    SettlesFailed "job-1"
      ((titledQueue "fancy").run {} (.ok idleEncoder) {} (titledEntry "fancy")) ∧
    SettlesFailed "job-1" (stillQueue.run {} (.ok encoderWithoutRoom) {} stillEntry) := by
  have planned : ((titledQueue "fancy").plan (titledEntry "fancy")).2 =
      .error (.graph (.unknownStyle "fancy")) := rfl
  have titled : ∃ job, (titledQueue "fancy").registry.find? "job-1" = some job ∧
      job.settled = false ∧ ¬ job.cancelRequested := ⟨_, rfl, rfl, by decide⟩
  have still : ∃ job, stillQueue.registry.find? "job-1" = some job ∧
      job.settled = false ∧ ¬ job.cancelRequested := ⟨_, rfl, rfl, by decide⟩
  have exits : ExitsWith {} (.ok encoderWithoutRoom) stillQueue {} stillEntry
      ["still.mp4: No space left on device"] :=
    ⟨_, _, _, _, rfl, rfl, by decide, rfl, rfl, rfl⟩
  obtain ⟨job, found, unsettled, unasked⟩ := titled
  obtain ⟨other, found', unsettled', unasked'⟩ := still
  have graph := (run_settles_failure_iff {} (.ok idleEncoder) {} (by decide +kernel)
    (.single (.create _ _)) found unsettled unasked rfl).1 _ planned
  have exit := (run_settles_failure_iff {} (.ok encoderWithoutRoom) {} (by decide +kernel)
    (.single (.create _ _)) found' unsettled' unasked' rfl).2 _ exits
  exact ⟨planned, graph.plain (by decide), exit.plain (by decide)⟩

end Montage.Jobs.Queue
