import Montage.Proofs.Jobs.Order

/-!
# Cancellations in a shift

A job that is cancelled before it has a slot has failed at once, and stays so whatever is done then.
When all jobs are cancelled nothing more is started, and of those that are left behind only the ones
whose runs were broken off are not settled.
-/

namespace Montage.Jobs

namespace Act

def Cancels (id : String) : Act → Prop
  | .cancel other => other = id
  | .cancelAll => True
  | .shutdown _ first => first = true
  | _ => False

/-- Whether nothing is done but to run what waits. -/
def IsRun : Act → Prop
  | .start => True
  | .run _ _ => True
  | _ => False

end Act

namespace Shift

variable {shift after : Shift} {id : String} {job : Job} {entry : Entry}
  {command : List String} {fault : Option Fault}

/-- A job that has failed because it was cancelled, and for which no encoder was started. -/
structure Cancelled (shift : Shift) (id : String) : Prop where
  failed : ∃ job, shift.queue.registry.findAny? id = some job ∧ job.settled = true ∧
    job.EndedWith (.error (.stopped .cancelled))
  unstarted : id ∉ shift.started

/-- A shift in which no render waits but of jobs that were cancelled. -/
def Quiet (shift : Shift) : Prop :=
  ∀ id, shift.Waits id → shift.Cancelled id

section Cancelled

theorem Cancelled.of_proceeds (cancelled : shift.Cancelled id) (orderly : shift.Orderly)
    (proceeds : shift.Proceeds after) : after.Cancelled id := by
  obtain ⟨⟨job, found, settled, ended⟩, unstarted⟩ := cancelled
  obtain ⟨known, rfl⟩ := Registry.findAny?_some found
  obtain ⟨orderly', continues⟩ := proceeds orderly
  obtain ⟨later, known', becomes⟩ := (continues.evolves orderly.sound).2 job known
  have same := becomes.ended settled
  refine ⟨⟨later, ?_, same.settled.trans settled, ended.of_sameEnd same⟩, fun started => ?_⟩
  · exact orderly'.sound.findAny?_eq_some_iff.mpr ⟨known', becomes.id⟩
  · exact unstarted (continues.started job known settled started)

theorem Orderly.cancelled_of_settled (orderly : shift.Orderly) (waits : shift.Waits id)
    (settled : ∀ job ∈ shift.queue.registry.all, job.id = id → job.settled = true) :
    shift.Cancelled id := by
  obtain ⟨job, known, named, unstarted⟩ := orderly.exists_job waits
  have settled := settled job known named
  refine ⟨⟨job, ?_, settled, unstarted.ended settled⟩, orderly.not_mem_started waits⟩
  exact orderly.sound.findAny?_eq_some_iff.mpr ⟨known, named⟩

theorem Orderly.cancelled_cancel (orderly : shift.Orderly) (waits : shift.Waits id) :
    (shift.cancel id).Cancelled id := by
  obtain ⟨job, known, rfl, unstarted⟩ := orderly.exists_job waits
  obtain ⟨orderly', -⟩ := proceeds_cancel shift job.id orderly
  cases found : shift.queue.registry.find? job.id with
  | none =>
      -- A job that is not known any more was retired, and had settled before.
      have gone : job ∈ shift.queue.registry.retired := by
        refine (List.mem_append.mp known).resolve_left fun kept => ?_
        simp [orderly.sound.find?_eq kept rfl] at found
      have before : shift.Cancelled job.id := orderly.cancelled_of_settled waits
        (orderly.sound.forall_of_id known rfl (orderly.retired job gone))
      exact before.of_proceeds orderly (proceeds_cancel shift job.id)
  | some same =>
      obtain ⟨kept, named⟩ := Registry.find?_some found
      obtain rfl := orderly.sound.eq_of_id (List.mem_append_left _ kept) known named
      obtain ⟨registry, cancelled, -, later⟩ := Registry.exists_cancel found
      have after : (shift.cancel same.id).queue.registry = registry := by
        simp [cancel, alter, Queue.alter, cancelled, Except.toOption]
      rw [← after] at later
      obtain ⟨kept', name⟩ := Registry.find?_some later
      exact orderly'.cancelled_of_settled waits (orderly'.sound.forall_of_id
        (List.mem_append_left _ kept') name (unstarted.cancel (orderly.sound.jobs _ known) _).2)

/-- A job that waits is cancelled along with others, or was before. -/
theorem Orderly.cancelled_cancels (orderly : shift.Orderly) (waits : shift.Waits id)
    {ids : List String} (either : id ∈ ids ∨ shift.Cancelled id) :
    (ids.foldl cancel shift).Cancelled id := by
  induction ids generalizing shift with
  | nil => exact either.resolve_left List.not_mem_nil
  | cons first ids ih =>
      have next := proceeds_cancel shift first
      refine ih (next orderly).1 waits ?_
      rcases either with member | before
      · rcases List.mem_cons.mp member with rfl | later
        · exact .inr (orderly.cancelled_cancel waits)
        · exact .inl later
      · exact .inr (before.of_proceeds orderly next)

theorem Orderly.quiet_cancelAll (orderly : shift.Orderly) :
    (shift.alter (·.cancelAll.1)).Quiet := by
  intro id waits
  have waits : shift.Waits id := waits
  rw [alter_cancelAll]
  refine orderly.cancelled_cancels waits ?_
  obtain ⟨job, known, rfl, -⟩ := orderly.exists_job waits
  cases settled : job.settled with
  | true =>
      exact .inr (orderly.cancelled_of_settled waits
        (orderly.sound.forall_of_id known rfl settled))
  | false =>
      refine .inl (List.mem_map_of_mem (Registry.mem_unsettled.mpr ⟨?_, settled⟩))
      refine (List.mem_append.mp known).resolve_right fun gone => ?_
      simp [orderly.retired job gone] at settled

end Cancelled

section Runs

/-- A quiet shift that goes on without any start. -/
structure Rests (shift after : Shift) : Prop where
  quiet : after.Quiet
  started : after.started = shift.started

theorem Takes.rests (takes : shift.Takes entry command fault after) (orderly : shift.Orderly)
    (quiet : shift.Quiet) : shift.Rests after := by
  refine ⟨fun id waits => ?_, ?_⟩
  · exact (quiet id ((takes.waits id).mpr (.inr waits))).of_proceeds orderly takes.proceeds
  · obtain ⟨⟨job, found, settled, -⟩, -⟩ := quiet entry.job ((takes.waits _).mpr (.inl rfl))
    obtain ⟨known, named⟩ := Registry.findAny?_some found
    have idle := (takes.handles.settled (orderly.sound.forall_of_id known named settled)).1
    rw [started_append takes.attempts]
    simp [idle, Attempt.starts]

theorem Keeps.rests (keeps : shift.Keeps after) (orderly : shift.Orderly)
    (proceeds : shift.Proceeds after) (quiet : shift.Quiet) : shift.Rests after := by
  refine ⟨fun id waits => ?_, keeps.started⟩
  rw [Waits, keeps.waiting] at waits
  exact (quiet id waits).of_proceeds orderly proceeds

theorem rests_run (orderly : shift.Orderly) (quiet : shift.Quiet) (equipment : Equipment)
    (encoder : Except Fault Encode.Behavior) : shift.Rests (shift.run equipment encoder) := by
  rcases orderly.run_cases equipment encoder with ⟨-, idle⟩ | ⟨entry, command, fault, takes⟩
  · have keeps : shift.Keeps (shift.run equipment encoder) := idle ▸ shift.keeps_idle
    exact keeps.rests orderly (proceeds_run shift equipment encoder) quiet
  · exact takes.rests orderly quiet

theorem rests_begin (orderly : shift.Orderly) (quiet : shift.Quiet) : shift.Rests shift.begin := by
  rcases orderly.begin_cases with ⟨keeps, -⟩ | ⟨entry, takes⟩
  · exact keeps.rests orderly (proceeds_begin shift) quiet
  · exact takes.rests orderly quiet

theorem rests_runMany (orderly : shift.Orderly) (quiet : shift.Quiet) (equipment : Equipment)
    (count : Nat) : shift.Rests (shift.runMany equipment count) := by
  induction count generalizing shift with
  | zero => exact ⟨quiet, rfl⟩
  | succ count ih =>
      have next := rests_run orderly quiet equipment (.ok Queue.idleEncoder)
      have last := ih (proceeds_run shift equipment _ orderly).1 next.quiet
      exact ⟨last.quiet, last.started.trans next.started⟩

theorem rests_performAll (orderly : shift.Orderly) (quiet : shift.Quiet) {runs : List Act}
    (only : ∀ act ∈ runs, act.IsRun) : shift.Rests (shift.performAll runs) := by
  induction runs generalizing shift with
  | nil => exact ⟨quiet, rfl⟩
  | cons act runs ih =>
      rw [List.forall_mem_cons] at only
      have next : shift.Rests (shift.perform act) := by
        cases act with
        | start => exact rests_begin orderly quiet
        | run equipment encoder => exact rests_run orderly quiet equipment encoder
        | submit | cancel | cancelAll | shutdown | pass => exact absurd only.1 (by simp [Act.IsRun])
      have last := ih (proceeds_perform shift act orderly).1 next.quiet only.2
      exact ⟨last.quiet, last.started.trans next.started⟩

theorem waiting_runMany (orderly : shift.Orderly) (equipment : Equipment) (count : Nat) :
    (shift.runMany equipment count).waiting = shift.waiting.drop count := by
  induction count generalizing shift with
  | zero => rfl
  | succ count ih =>
      rw [runMany, ih (proceeds_run shift equipment _ orderly).1]
      rcases orderly.run_cases equipment (.ok Queue.idleEncoder) with
        ⟨none, idle⟩ | ⟨entry, command, fault, takes⟩
      · rw [idle, shift.keeps_idle.waiting, none, List.drop_nil, List.drop_nil]
      · rw [takes.waiting, List.drop_succ_cons]

end Runs

/-- What a shift comes to when all its jobs were cancelled and only runs were made since: no encoder
was started, the jobs that had no slot have failed, and all jobs are settled but those whose runs
were broken off. -/
structure WindsDown (shift after : Shift) : Prop where
  started : after.started = shift.started
  cancelled : ∀ id, shift.Waits id → after.Cancelled id
  settled : ∀ job ∈ after.queue.registry.all, job.settled = false ↔ job.id ∈ after.brokenOff

theorem Orderly.windsDown (orderly : shift.Orderly)
    (proceeds : (shift.alter (·.cancelAll.1)).Proceeds after)
    (rests : (shift.alter (·.cancelAll.1)).Rests after) : shift.WindsDown after := by
  obtain ⟨cancelling, -⟩ := proceeds_cancelAll shift orderly
  obtain ⟨orderly', -⟩ := proceeds cancelling
  refine ⟨rests.started, fun id waits => ?_, fun job known => ?_⟩
  · exact (orderly.quiet_cancelAll id waits).of_proceeds cancelling proceeds
  · by_cases waits : after.Waits job.id
    · obtain ⟨⟨same, found, settled, -⟩, -⟩ := rests.quiet job.id waits
      obtain ⟨known', named⟩ := Registry.findAny?_some found
      obtain rfl := orderly'.sound.eq_of_id known known' named.symm
      simp [settled, orderly'.not_mem_brokenOff waits]
    · exact (orderly'.taken job known waits).1

theorem Orderly.mem_submitted_of_brokenOff (orderly : shift.Orderly)
    (broken : id ∈ shift.brokenOff) : id ∈ shift.submitted := by
  rw [← orderly.inTurn]
  exact List.mem_append_left _ (shift.brokenOff_sublist_ran.subset broken)

/-- A job whose run was broken off stays open when the queue is shut down. -/
theorem Orderly.exists_open_of_brokenOff (orderly : shift.Orderly) (drained : shift.waiting = [])
    (broken : id ∈ shift.brokenOff) (equipment : Equipment) :
    (shift.shutdown equipment true).waiting = [] ∧
      ∃ job ∈ (shift.shutdown equipment true).queue.registry.jobs, job.settled = false := by
  have none : (shift.alter (·.cancelAll.1)).waiting = [] := drained
  have cancelled : shift.shutdown equipment true = shift.alter (·.cancelAll.1) := by
    simp [shutdown, none, runMany]
  rw [cancelled]
  obtain ⟨orderly', -⟩ := proceeds_cancelAll shift orderly
  obtain ⟨job, member, rfl⟩ := orderly'.known id (orderly.mem_submitted_of_brokenOff broken)
  have unsettled : job.settled = false :=
    (orderly'.taken job member (by simp [Waits, none])).1.mpr broken
  refine ⟨none, job, (List.mem_append.mp member).resolve_right fun gone => ?_, unsettled⟩
  simp [orderly'.retired job gone] at unsettled

/-- Whatever is done in a shift, encoders are started at most once for each job and in the order of
submission.  A job that is cancelled before it has a slot has failed from then on, and no encoder
is ever started for it.  When all jobs are cancelled and what waits is run, nothing more is started, and
every job is settled unless its run was broken off: its failure could not be announced. -/
theorem cancelled_jobs_never_start (config : Config) (maxConcurrent maxFinished : Int)
    {clock : Binary64} (positive : 0 < clock) (directory : Path) (premises : Premises)
    (acts : List Act) :
    let shift := (start config (.start maxConcurrent maxFinished clock) directory
      premises).performAll acts
    (shift.started.Nodup ∧ shift.started.Sublist shift.submitted) ∧
    (∀ id, shift.Waits id → ∀ act : Act, act.Cancels id → ∀ rest,
      ((shift.perform act).performAll rest).Cancelled id) ∧
    (∀ runs : List Act, (∀ act ∈ runs, act.IsRun) →
      shift.WindsDown ((shift.perform .cancelAll).performAll runs)) ∧
    ∀ equipment, (shift.perform (.shutdown equipment true)).waiting = [] ∧
      shift.WindsDown (shift.perform (.shutdown equipment true)) := by
  intro shift
  obtain ⟨orderly, -⟩ := proceeds_performAll _ acts
    (orderly_start config maxConcurrent maxFinished positive directory premises)
  obtain ⟨cancelling, -⟩ := proceeds_cancelAll shift orderly
  have quiet := orderly.quiet_cancelAll
  have ordered : shift.started.Sublist shift.submitted := by
    rw [← orderly.inTurn]
    exact shift.started_sublist_ran.trans (List.sublist_append_left _ _)
  refine ⟨⟨ordered.nodup orderly.nodup, ordered⟩, fun id waits act cancels rest => ?_,
    fun runs only => ?_, fun equipment => ⟨?_, ?_⟩⟩
  · obtain ⟨orderly', -⟩ := proceeds_perform shift act orderly
    have cancelled : (shift.perform act).Cancelled id := by
      cases act with
      | cancel other =>
          obtain rfl : other = id := cancels
          exact orderly.cancelled_cancel waits
      | cancelAll => exact quiet id waits
      | shutdown equipment cancel =>
          obtain rfl : cancel = true := cancels
          exact (quiet id waits).of_proceeds cancelling (proceeds_runMany equipment _ _)
      | submit | start | run | pass => exact absurd cancels (by simp [Act.Cancels])
    exact cancelled.of_proceeds orderly' (proceeds_performAll _ rest)
  · exact orderly.windsDown (proceeds_performAll _ runs) (rests_performAll cancelling quiet only)
  · exact (waiting_runMany cancelling equipment _).trans List.drop_length
  · exact orderly.windsDown (proceeds_runMany equipment _ _)
      (rests_runMany cancelling quiet equipment _)

def empty : Shift :=
  start {} (.start 1 200 1000) (.ofString "/outputs") {}

def twoStills : List Act :=
  [.submit Queue.stillEntry.spec Queue.stillTimeline,
    .submit Queue.stillEntry.spec Queue.stillTimeline]

/-- The second of two renders is cancelled, and then both are run; or all are, while the first one
has begun. -/
theorem cancelled_jobs_never_start_twoStills :
    (empty.performAll twoStills).Waits "job-2" ∧
    (((empty.performAll twoStills).perform (.cancel "job-2")).performAll
      [.run {} (.ok Queue.completeWithoutFile), .run {} (.ok Queue.idleEncoder)]).Cancelled
        "job-2" ∧
    (empty.performAll (twoStills ++ [.start])).WindsDown
      (((empty.performAll (twoStills ++ [.start])).perform .cancelAll).performAll
        [.run {} (.ok Queue.idleEncoder), .start]) := by
  have positive : (0 : Binary64) < 1000 := by decide +kernel
  have waits : (empty.performAll twoStills).Waits "job-2" := by decide
  have always := cancelled_jobs_never_start {} 1 200 positive (.ofString "/outputs") {}
  have cancelled := (always twoStills).2.1 _ waits (.cancel "job-2") rfl
  have windsDown := (always (twoStills ++ [.start])).2.2.1
  exact ⟨waits, cancelled _, windsDown _ (by simp [Act.IsRun])⟩

def closingStyle : Shift :=
  empty.submit (Queue.titledEntry "[/b]").spec (Queue.titledTimeline "[/b]")

theorem brokenOff_closingStyle :
    (closingStyle.run {} (.ok Queue.idleEncoder)).brokenOff = ["job-1"] := by
  let queue : Queue := { Queue.titledQueue "[/b]" with entries := [] }
  have free : queue.registry.isFull = false := rfl
  have planned : (queue.plan (Queue.titledEntry "[/b]")).2 =
      .error (.graph (.unknownStyle "[/b]")) := rfl
  have registered : ∃ job, queue.registry.find? "job-1" = some job ∧
      job.settled = false ∧ job.output = none ∧ job.failure = none ∧ ¬ job.cancelRequested :=
    ⟨_, rfl, rfl, rfl, rfl, by decide⟩
  obtain ⟨job, found, unsettled, output, failure, unasked⟩ := registered
  have under : queue.registry.Underway "job-1" [] := ⟨⟨job, found, unsettled, output, failure⟩, rfl⟩
  obtain ⟨fault, refused⟩ := Queue.exists_announce_closingStyle
  obtain ⟨command, later, broken, -⟩ :=
    (Queue.records_graph {} (.ok Queue.idleEncoder) {} free found under unasked planned).leavesOpen
      refused
  cases ran : queue.run {} (.ok Queue.idleEncoder) {} (Queue.titledEntry "[/b]") with
  | mk after rest =>
      obtain ⟨premises, attempt⟩ := rest
      rw [ran] at broken
      obtain rfl : attempt = .ran "job-1" command (some fault) := broken
      have began : closingStyle.begun = none := rfl
      have listed : closingStyle.queue.entries = [Queue.titledEntry "[/b]"] := rfl
      have free : closingStyle.queue.registry.isFull = false := rfl
      rw [run_of_entries began listed free ran]
      rfl

/-- Its run is broken off, and its job stays open when the queue is shut down, though no render
waits then. -/
theorem not_settled_closingStyle :
    let shift := empty.performAll
      [.submit (Queue.titledEntry "[/b]").spec (Queue.titledTimeline "[/b]"),
        .run {} (.ok Queue.idleEncoder), .shutdown {} true]
    shift.waiting = [] ∧ ∃ job ∈ shift.queue.registry.jobs, job.settled = false := by
  have positive : (0 : Binary64) < 1000 := by decide +kernel
  have submitted : closingStyle.Orderly :=
    (proceeds_submit _ _ _ (orderly_start {} 1 200 positive (.ofString "/outputs") {})).1
  have ran := (proceeds_run _ {} (.ok Queue.idleEncoder) submitted).1
  have broken : "job-1" ∈ (closingStyle.run {} (.ok Queue.idleEncoder)).brokenOff := by
    rw [brokenOff_closingStyle]
    exact List.mem_singleton_self _
  have drained : (closingStyle.run {} (.ok Queue.idleEncoder)).waiting = [] := by
    have waiting : closingStyle.waiting = [Queue.titledEntry "[/b]"] := rfl
    rcases submitted.run_cases {} (.ok Queue.idleEncoder) with ⟨none, -⟩ | ⟨_, _, _, takes⟩
    · simp [waiting] at none
    · exact (List.cons.inj (waiting.symm.trans takes.waiting)).2.symm
  have acts : empty.performAll
      [.submit (Queue.titledEntry "[/b]").spec (Queue.titledTimeline "[/b]"),
        .run {} (.ok Queue.idleEncoder), .shutdown {} true] =
      (closingStyle.run {} (.ok Queue.idleEncoder)).shutdown {} true := by
    -- The equations are stated of every shift, so that this one is not evaluated.
    have each : ∀ (shift : Shift) (first second third : Act),
        shift.performAll [first, second, third] =
          ((shift.perform first).perform second).perform third := fun _ _ _ _ => rfl
    have run : ∀ shift : Shift, shift.perform (.run {} (.ok Queue.idleEncoder)) =
        shift.run {} (.ok Queue.idleEncoder) := fun _ => rfl
    have close : ∀ shift : Shift, shift.perform (.shutdown {} true) = shift.shutdown {} true :=
      fun _ => rfl
    rw [each, run, close, closingStyle]
    rfl
  rw [acts]
  exact ran.exists_open_of_brokenOff drained broken {}

end Shift

end Montage.Jobs
