import Montage.Proofs.Console.Message
import Montage.Proofs.Encode.Execution
import Montage.Proofs.Encode.Percentage
import Montage.Proofs.Sequence

/-!
# Event streams of runs

What a run tells its listener, and what an encode makes of it: the start, one event for every
elapsed time that is reported, and one event that ends it.  The last event is told from how the
process ends alone.
-/

namespace Montage.Encode

namespace Action

/-- Whether a process does nothing more before it is stopped. -/
def waits : Action → Bool
  | .line _ => false
  | .write _ => false
  | .hang => true
  | .cancel => true

/-- The elapsed time that an action reports, unless it is below zero. -/
def elapsed? : Action → Option Binary64
  | .line text =>
      match Marker.read text with
      | .ok (some elapsed) => if 0 ≤ elapsed then some elapsed else none
      | _ => none
  | _ => none

def text? : Action → Option String
  | .line text => some text
  | _ => none

def content? : Action → Option String
  | .write content => some content
  | _ => none

end Action

/-- What a process does before it waits to be stopped. -/
def performed (actions : List Action) : List Action :=
  actions.takeWhile fun action => !action.waits

def elapsedTimes (actions : List Action) : List Binary64 :=
  (performed actions).filterMap Action.elapsed?

def contentAfter (before : Option String) (actions : List Action) : Option String :=
  (performed actions).foldl (fun content action => action.content?.or content) before

/-- Why a process is stopped, if it is: it waits until cancellation is requested, or until its
time is over. -/
def stopReason? (cancelled : Bool) (actions : List Action) : Option StopReason :=
  match actions.find? Action.waits with
  | none => none
  | some .cancel => some .cancelled
  | some _ => some (if cancelled then .cancelled else .timeout)

namespace Behavior

def stopReason? (cancelled : Bool) : Behavior → Option StopReason
  | .refused _ => none
  | .started actions _ _ => Encode.stopReason? cancelled actions

/-- Whether a process is not stopped, exits without an error code, and has its output file. -/
def Succeeds (cancelled : Bool) (before : Option String) : Behavior → Prop
  | .refused _ => False
  | .started actions _ code =>
      Encode.stopReason? cancelled actions = none ∧ code = 0 ∧
        (contentAfter before actions).isSome

def ExitsWithError : Behavior → Prop
  | .refused _ => False
  | .started _ _ code => code ≠ 0

def beginning : Behavior → List Event
  | .refused _ => []
  | .started actions _ _ => .started :: (elapsedTimes actions).map .progress

/-- Whether the lines of a process can be read, and their elapsed times translated to percentages
of a total. -/
structure Legible (total : Binary64) (behavior : Behavior) : Prop where
  read : ∀ actions errors code text, behavior = .started actions errors code →
    .line text ∈ performed actions → ∃ marker, Marker.read text = .ok marker
  translated : ∀ elapsed, .progress elapsed ∈ behavior.beginning →
    ∃ percent, percentage total elapsed = .ok percent

end Behavior

/-- What the console is told in a run, up to what it does not take. -/
def saidIn (invocation : Invocation) (cancelled : Bool) : Behavior → Except Fault Unit
  | .refused reason => do
      announceStart invocation
      Console.announce invocation.verbosity .error s!"[render] Could not start ffmpeg: {reason}"
  | .started actions errors code => do
      announceStart invocation
      if stopReason? cancelled actions = none ∧ code ≠ 0 then
        Console.announce invocation.verbosity .error
          ("[render] Render failed:\n" ++ Diagnosis.ofOutput (errorText errors))
      else .ok ()

def lastEvent (invocation : Invocation) (cancelled : Bool) (before : Option String) :
    Behavior → Event
  | .refused reason => .failed (.encode s!"ffmpeg could not be started: {reason}")
  | .started actions errors code =>
      match stopReason? cancelled actions with
      | some reason => .failed (.stopped reason)
      | none =>
          if code ≠ 0 then .failed (.encode (Diagnosis.ofOutput (errorText errors)))
          else if (contentAfter before actions).isSome then .finished invocation.output
          else .failed (.encode "Output file not created")

def leftFile (cancelled : Bool) (before : Option String) : Behavior → Option String
  | .refused _ => before
  | .started actions _ code =>
      if (stopReason? cancelled actions).isSome ∨ code ≠ 0 then none
      else contentAfter before actions

section Scripts

variable {σ : Type} {listen : Listener σ} {after : σ} {actions : List Action}

/-- How the actions of a process end that none of its lines breaks off. -/
def endingOf (cancelled : Bool) (actions : List Action) : Ending :=
  match stopReason? cancelled actions with
  | some reason => .stopped reason
  | none => .exited

theorem endingOf_ne_broken (cancelled : Bool) (actions : List Action) (fault : Fault) :
    endingOf cancelled actions ≠ .broken fault := by
  unfold endingOf
  split <;> simp

theorem elapsedTimes_line (text : String) (actions : List Action) :
    elapsedTimes (.line text :: actions) =
      (Action.elapsed? (.line text)).toList ++ elapsedTimes actions := by
  cases told : Action.elapsed? (.line text) <;>
    simp [elapsedTimes, performed, Action.waits, told]

/-- After a line that can be read, and whose elapsed time is heard if it has one, the process goes
on. -/
theorem follow_line {course : Course σ} {listener : σ} {text : String}
    (read : ∃ marker, Marker.read text = .ok marker)
    (heard : ((Action.elapsed? (.line text)).toList.map Event.progress).foldlM listen
      course.listener = .ok listener) :
    follow listen course (.line text :: actions) =
      follow listen { course with listener } actions := by
  obtain ⟨marker, known⟩ := read
  cases marker with
  | none =>
      have silent : Action.elapsed? (.line text) = none := by simp [Action.elapsed?, known]
      rw [silent] at heard
      obtain rfl := Except.ok.inj heard
      simp only [follow, known]
  | some elapsed =>
      by_cases counts : 0 ≤ elapsed
      · have told : Action.elapsed? (.line text) = some elapsed := by
          simp [Action.elapsed?, known, counts]
        have hears : listen course.listener (.progress elapsed) = .ok listener := by
          simpa [told] using heard
        simp only [follow, known, if_pos counts, hears]
      · have silent : Action.elapsed? (.line text) = none := by
          simp [Action.elapsed?, known, counts]
        rw [silent] at heard
        obtain rfl := Except.ok.inj heard
        simp only [follow, known, if_neg counts]

/-- A process is followed through everything that it does before it waits. -/
theorem follow_eq (course : Course σ) (read : ∀ text, .line text ∈ performed actions →
      ∃ marker, Marker.read text = .ok marker)
    (heard : ((elapsedTimes actions).map Event.progress).foldlM listen course.listener =
      .ok after) :
    ∃ requested, follow listen course actions =
      (⟨after, contentAfter course.output actions, requested⟩,
        endingOf course.cancelled actions) := by
  induction actions generalizing course with
  | nil =>
      obtain rfl := Except.ok.inj heard
      exact ⟨course.cancelled, rfl⟩
  | cons action actions ih =>
      cases action with
      | write content =>
          exact ih { course with output := some content }
            (fun text member => read text (List.mem_cons_of_mem _ member)) heard
      | hang =>
          obtain rfl := Except.ok.inj heard
          exact ⟨course.cancelled, rfl⟩
      | cancel =>
          obtain rfl := Except.ok.inj heard
          exact ⟨true, rfl⟩
      | line text =>
          rw [elapsedTimes_line, List.map_append, List.foldlM_append, bind_eq_ok_iff] at heard
          obtain ⟨listener, first, rest⟩ := heard
          rw [follow_line (read text List.mem_cons_self) first]
          exact ih { course with listener }
            (fun other member => read other (List.mem_cons_of_mem _ member)) rest

end Scripts

section Runs

variable {σ : Type} {listen : Listener σ} {listener after : σ} {behavior : Behavior}
  {cancelled : Bool} {invocation : Invocation} {total : Binary64}

/-- The last event of a run and the file it leaves are concluded from how its process ends, unless
the console refuses the diagnosis. -/
theorem conclude_eq (invocation : Invocation) (cancelled : Bool) (before : Option String)
    (actions : List Action) (errors : List String) (code : Int)
    (starts : announceStart invocation = .ok ()) :
    conclude invocation (contentAfter before actions) (endingOf cancelled actions) errors code =
      (saidIn invocation cancelled (.started actions errors code)).map fun _ =>
        (lastEvent invocation cancelled before (.started actions errors code),
          leftFile cancelled before (.started actions errors code)) := by
  cases stops : stopReason? cancelled actions with
  | some reason =>
      simp [conclude, endingOf, saidIn, lastEvent, leftFile, stops, starts, bind, Except.bind,
        Except.map]
  | none =>
      by_cases zero : code = 0
      · cases content : contentAfter before actions <;>
          simp [conclude, endingOf, saidIn, lastEvent, leftFile, stops, starts, zero, content,
            bind, Except.bind, Except.map]
      · cases said : Console.announce invocation.verbosity .error
            ("[render] Render failed:\n" ++ Diagnosis.ofOutput (errorText errors)) <;>
          simp [conclude, endingOf, saidIn, lastEvent, leftFile, stops, starts, zero, said,
            bind, Except.bind, Except.map]

theorem announceStart_of_saidIn (said : saidIn invocation cancelled behavior = .ok ()) :
    announceStart invocation = .ok () := by
  cases behavior with
  | refused reason | started actions errors code =>
      simp only [saidIn, bind_eq_ok_iff] at said
      obtain ⟨done, starts, -⟩ := said
      exact starts

theorem saidIn_exited {actions : List Action} (starts : announceStart invocation = .ok ())
    (unstopped : stopReason? cancelled actions = none) (errors : List String) {code : Int}
    (failed : code ≠ 0) :
    saidIn invocation cancelled (.started actions errors code) =
      Console.announce invocation.verbosity .error
        ("[render] Render failed:\n" ++ Diagnosis.ofOutput (errorText errors)) := by
  simp [saidIn, starts, unstopped, failed, bind, Except.bind]

/-- A process that is heard up to its end breaks off if the console refuses its diagnosis, and
otherwise tells its last event. -/
theorem runStarted_eq (cancelled : Bool) (table : Media.ProcessTable)
    (process : Media.ToolProcess) (before : Option String) {actions : List Action}
    {errors : List String} {code : Int}
    (legible : (Behavior.started actions errors code).Legible total)
    (starts : announceStart invocation = .ok ())
    (heard : (Behavior.started actions errors code).beginning.foldlM listen listener = .ok after) :
    ∃ requested table', runStarted listen invocation ⟨listener, before, cancelled⟩ table process
        actions errors code =
      match saidIn invocation cancelled (.started actions errors code) with
      | .error fault => (⟨after, contentAfter before actions, requested⟩, table', some fault)
      | .ok () =>
          let left := leftFile cancelled before (.started actions errors code)
          match listen after (lastEvent invocation cancelled before
            (.started actions errors code)) with
          | .error fault => (⟨after, left, requested⟩, table', some fault)
          | .ok last => (⟨last, left, requested⟩, table', none) := by
  simp only [Behavior.beginning, List.foldlM_cons, bind_eq_ok_iff] at heard
  obtain ⟨begun, first, times⟩ := heard
  obtain ⟨requested, followed⟩ := follow_eq ⟨begun, before, cancelled⟩
    (fun text member => legible.read _ _ _ text rfl member) times
  have concluded := conclude_eq invocation cancelled before actions errors code starts
  cases ends : endingOf cancelled actions with
  | broken fault => exact absurd ends (endingOf_ne_broken cancelled actions fault)
  | exited =>
      refine ⟨requested, table.finish process.number code (errorText errors), ?_⟩
      rw [ends] at followed concluded
      simp only [runStarted, first, followed, concluded]
      cases saidIn invocation cancelled (.started actions errors code) <;> rfl
  | stopped reason =>
      refine ⟨requested, table.finish process.number stoppedCode (errorText errors), ?_⟩
      rw [ends] at followed concluded
      simp only [runStarted, first, followed, concluded]
      cases saidIn invocation cancelled (.started actions errors code) <;> rfl

/-- A run whose messages the console takes tells the listener its beginning and its last event, and
leaves its file. -/
theorem run_of_said (workplace : Workplace) (table : Media.ProcessTable) (before : Option String)
    (legible : behavior.Legible total) (said : saidIn invocation cancelled behavior = .ok ())
    (heard : (behavior.beginning ++ [lastEvent invocation cancelled before behavior]).foldlM
      listen listener = .ok after) :
    let ran := run listen workplace invocation behavior ⟨listener, before, cancelled⟩ table
    ran.fault = none ∧ ran.course.listener = after ∧
      ran.course.output = leftFile cancelled before behavior := by
  have starts := announceStart_of_saidIn said
  cases behavior with
  | refused reason =>
      simp only [saidIn, starts, bind, Except.bind] at said
      have told : listen listener
          (.failed (.encode s!"ffmpeg could not be started: {reason}")) = .ok after := by
        simpa [Behavior.beginning, lastEvent] using heard
      simp only [run, starts, said, told, bind, Except.bind, true_and]
      rfl
  | started actions errors code =>
      rw [List.foldlM_append, bind_eq_ok_iff] at heard
      obtain ⟨reached, beginning, ended⟩ := heard
      have last : listen reached (lastEvent invocation cancelled before
          (.started actions errors code)) = .ok after := by simpa using ended
      obtain ⟨requested, table', ran⟩ := runStarted_eq cancelled
        (table.start "ffmpeg" invocation.description none).1
        (table.start "ffmpeg" invocation.description none).2 before legible starts beginning
      simp only [said, last] at ran
      simp only [run, starts, ran, and_self]

/-- A run of which the console refuses a message breaks off. -/
theorem fault_of_refused (workplace : Workplace) (table : Media.ProcessTable)
    (before : Option String)
    (legible : behavior.Legible total) {fault : Fault}
    (refused : saidIn invocation cancelled behavior = .error fault)
    (heard : behavior.beginning.foldlM listen listener = .ok after) :
    (run listen workplace invocation behavior ⟨listener, before, cancelled⟩ table).fault =
      some fault := by
  cases starts : announceStart invocation with
  | error reason =>
      have same : reason = fault := by
        cases behavior <;> simpa [saidIn, starts, bind, Except.bind] using refused
      simp [run, starts, same]
  | ok done =>
      cases behavior with
      | refused reason =>
          simp only [saidIn, starts, bind, Except.bind] at refused
          simp [run, starts, refused, bind, Except.bind]
      | started actions errors code =>
          obtain ⟨requested, table', ran⟩ := runStarted_eq cancelled
            (table.start "ffmpeg" invocation.description none).1
            (table.start "ffmpeg" invocation.description none).2 before legible starts heard
          simp only [refused] at ran
          simp only [run, starts, ran]

theorem foldlM_keepEvents (events told : List Event) :
    events.foldlM keepEvents told = .ok (told ++ events) := by
  induction events generalizing told with
  | nil => simp [pure, Except.pure]
  | cons event events ih =>
      rw [List.foldlM_cons, keepEvents]
      simpa [bind, Except.bind] using ih (told ++ [event])

/-- An event is heard if its elapsed time, should it have one, translates to a percentage. -/
theorem exists_listen {τ : Type} (receive : τ → Int → τ) (watch : Watch τ) {event : Event}
    (translated : ∀ elapsed, event = .progress elapsed →
      ∃ percent, percentage watch.translator.total elapsed = .ok percent) :
    ∃ next, Watch.listen receive watch event = .ok next ∧ next.last = some event ∧
      next.translator.total = watch.translator.total := by
  cases event with
  | started | finished output | failed failure => exact ⟨_, rfl, rfl, rfl⟩
  | progress elapsed =>
      obtain ⟨percent, given⟩ := translated elapsed rfl
      have total : (watch.translator.record percent).1.total = watch.translator.total := by
        unfold Translator.record
        split
        · split <;> rfl
        · rfl
      unfold Watch.listen Translator.update
      dsimp only
      rw [given]
      exact ⟨_, rfl, rfl, total⟩

theorem exists_foldlM_listen {τ : Type} (receive : τ → Int → τ) (watch : Watch τ)
    {events : List Event} (translated : ∀ elapsed, .progress elapsed ∈ events →
      ∃ percent, percentage watch.translator.total elapsed = .ok percent) :
    ∃ after, events.foldlM (Watch.listen receive) watch = .ok after ∧
      after.last = events.getLast?.or watch.last := by
  induction events generalizing watch with
  | nil => exact ⟨watch, rfl, by simp⟩
  | cons event events ih =>
      have heard : ∀ elapsed, event = .progress elapsed →
          ∃ percent, percentage watch.translator.total elapsed = .ok percent :=
        fun elapsed same => translated elapsed (same ▸ List.mem_cons_self)
      obtain ⟨next, first, last, total⟩ := exists_listen receive watch heard
      obtain ⟨after, rest, ends⟩ := ih next fun elapsed member => by
        rw [total]
        exact translated elapsed (List.mem_cons_of_mem _ member)
      refine ⟨after, ?_, ?_⟩
      · rw [List.foldlM_cons, bind_eq_ok_iff]
        exact ⟨next, first, rest⟩
      · rw [ends, last]
        cases events with
        | nil => rfl
        | cons other others =>
            rw [List.getLast?_cons_cons, List.getLast?_cons, Option.some_or, Option.some_or]

end Runs

section LastEvents

variable {invocation : Invocation} {cancelled : Bool} {before : Option String}
  {behavior : Behavior}

theorem lastEvent_eq_finished_iff {output : Path} :
    lastEvent invocation cancelled before behavior = .finished output ↔
      output = invocation.output ∧ behavior.Succeeds cancelled before := by
  cases behavior with
  | refused reason => simp [lastEvent, Behavior.Succeeds]
  | started actions errors code =>
      simp only [lastEvent, Behavior.Succeeds]
      cases stops : stopReason? cancelled actions with
      | some reason => simp
      | none =>
          by_cases zero : code = 0
          · by_cases written : (contentAfter before actions).isSome <;>
              simp [zero, written, eq_comm]
          · simp [zero]

theorem lastEvent_eq_stopped_iff {reason : StopReason} :
    lastEvent invocation cancelled before behavior = .failed (.stopped reason) ↔
      behavior.stopReason? cancelled = some reason := by
  cases behavior with
  | refused reason => simp [lastEvent, Behavior.stopReason?]
  | started actions errors code =>
      simp only [lastEvent, Behavior.stopReason?]
      cases stops : stopReason? cancelled actions with
      | some other => simp
      | none =>
          dsimp only
          split
          · simp
          · split <;> simp

/-- The last event of a run ends it, and a failure is of the kind of its stop or of an error of
the encoder. -/
theorem lastEvent_terminal (invocation : Invocation) (cancelled : Bool) (before : Option String)
    (behavior : Behavior) :
    (lastEvent invocation cancelled before behavior).isTerminal = true ∧
      ∀ failure, lastEvent invocation cancelled before behavior = .failed failure →
        failure.kind = match behavior.stopReason? cancelled with
          | some reason => reason.name
          | none => "encode" := by
  cases behavior with
  | refused reason => simp [lastEvent, Event.isTerminal, Behavior.stopReason?, Failure.kind]
  | started actions errors code =>
      simp only [lastEvent, Behavior.stopReason?]
      cases stops : stopReason? cancelled actions with
      | some reason => simp [Event.isTerminal, Failure.kind]
      | none =>
          dsimp only
          split
          · simp [Event.isTerminal, Failure.kind]
          · split <;> simp [Event.isTerminal, Failure.kind]

theorem leftFile_eq_none
    (ended : (behavior.stopReason? cancelled).isSome ∨ behavior.ExitsWithError) :
    leftFile cancelled before behavior = none := by
  cases behavior with
  | refused reason => simp [Behavior.stopReason?, Behavior.ExitsWithError] at ended
  | started actions errors code =>
      simp only [leftFile]
      exact if_pos ended

end LastEvents

def resultOf : Event → Except EncodeError Path
  | .finished output => .ok output
  | .failed failure => .error (.failed failure)
  | .started | .progress _ => .error (.failed (.encode "ffmpeg ended without a result"))

theorem result_of_last {τ : Type} {watch : Watch τ} {event : Event}
    (last : watch.last = some event) : watch.result none = resultOf event := by
  cases event <;> simp [Watch.result, resultOf, last]

/-- How a run of a process with a behavior, and an encode of it, end that tell of a last event:
the run told its listener the beginning and this event, which tells how the process ends, the
encode gives what this event says, and a process that was stopped or exited with an error code
left no file. -/
structure Streams (invocation : Invocation) (cancelled : Bool) (before : Option String)
    (behavior : Behavior) (told : Aftermath (List Event))
    (executed : Aftermath (List Int) × Except EncodeError Path) (last : Event) : Prop where
  events : told.course.listener = behavior.beginning ++ [last]
  ended : told.fault = none ∧ last.isTerminal = true
  finished : ∀ output, last = .finished output ↔
    output = invocation.output ∧ behavior.Succeeds cancelled before
  kind : ∀ failure, last = .failed failure →
    failure.kind = match behavior.stopReason? cancelled with
      | some reason => reason.name
      | none => "encode"
  returns : ∀ output, executed.2 = .ok output ↔ last = .finished output
  stops : ∀ reason, executed.2 = .error (.failed (.stopped reason)) ↔
    behavior.stopReason? cancelled = some reason
  fails : ¬ behavior.Succeeds cancelled before → behavior.stopReason? cancelled = none →
    ∃ message, executed.2 = .error (.failed (.encode message))
  removed : (behavior.stopReason? cancelled).isSome ∨ behavior.ExitsWithError →
    told.course.output = none ∧ executed.1.course.output = none

section Encodes

variable {invocation : Invocation} {cancelled : Bool} {before : Option String}
  {behavior : Behavior} {told : Aftermath (List Event)}
  {executed : Aftermath (List Int) × Except EncodeError Path}

theorem exists_resultOf_lastEvent (fails : ¬ behavior.Succeeds cancelled before)
    (unstopped : behavior.stopReason? cancelled = none) :
    ∃ message, resultOf (lastEvent invocation cancelled before behavior) =
      .error (.failed (.encode message)) := by
  have terminal := (lastEvent_terminal invocation cancelled before behavior).1
  cases last : lastEvent invocation cancelled before behavior with
  | started | progress elapsed => simp [last, Event.isTerminal] at terminal
  | finished output => exact absurd (lastEvent_eq_finished_iff.mp last).2 fails
  | failed failure =>
      cases failure with
      | encode message => exact ⟨message, rfl⟩
      | stopped reason =>
          have stopped := lastEvent_eq_stopped_iff.mp last
          simp [unstopped] at stopped

theorem streams_of_lastEvent (unbroken : told.fault = none)
    (events : told.course.listener =
      behavior.beginning ++ [lastEvent invocation cancelled before behavior])
    (result : executed.2 = resultOf (lastEvent invocation cancelled before behavior))
    (kept : told.course.output = leftFile cancelled before behavior)
    (left : executed.1.course.output = leftFile cancelled before behavior) :
    Streams invocation cancelled before behavior told executed
      (lastEvent invocation cancelled before behavior) where
  events := events
  ended := ⟨unbroken, (lastEvent_terminal invocation cancelled before behavior).1⟩
  finished output := lastEvent_eq_finished_iff
  kind := (lastEvent_terminal invocation cancelled before behavior).2
  returns output := by
    rw [result]
    cases lastEvent invocation cancelled before behavior <;> simp [resultOf]
  stops reason := by
    have stopped : lastEvent invocation cancelled before behavior = .failed (.stopped reason) ↔
        behavior.stopReason? cancelled = some reason := lastEvent_eq_stopped_iff
    rw [result, ← stopped]
    cases lastEvent invocation cancelled before behavior <;> simp [resultOf]
  fails fails unstopped := by
    rw [result]
    exact exists_resultOf_lastEvent fails unstopped
  removed ended := by rw [kept, left, leftFile_eq_none ended, and_self]

theorem Streams.ne_fault {last : Event}
    (streams : Streams invocation cancelled before behavior told executed last) (fault : Fault) :
    executed.2 ≠ .error (.fault fault) := by
  intro broken
  by_cases succeeds : behavior.Succeeds cancelled before
  · have given := (streams.returns invocation.output).mpr
      ((streams.finished _).mpr ⟨rfl, succeeds⟩)
    simp [broken] at given
  · cases stopped : behavior.stopReason? cancelled with
    | some reason =>
        have given := (streams.stops reason).mpr stopped
        simp [broken] at given
    | none =>
        obtain ⟨message, given⟩ := streams.fails succeeds stopped
        simp [broken] at given

end Encodes

section Main

variable {behavior : Behavior} {total : Binary64} (workplace : Workplace)
  (invocation : Invocation) (cancelled : Bool) (before : Option String)
  (table : Media.ProcessTable)

/-- An encode of a process whose elapsed times can be translated, with the percentages that it
receives kept. -/
def encoded (total : Binary64) (behavior : Behavior) :
    Aftermath (List Int) × Except EncodeError Path :=
  execute keepPercentages total workplace invocation behavior ⟨[], before, cancelled⟩ table

def recounted (behavior : Behavior) : Aftermath (List Event) :=
  run keepEvents workplace invocation behavior ⟨[], before, cancelled⟩ table

/-- A process whose lines are read and translated streams exactly when the console takes what is
said in its run.  The percentages that its encode receives increase from zero to a hundred in
any case. -/
theorem streams_iff_said (legible : behavior.Legible total) :
    let told := recounted workplace invocation cancelled before table behavior
    let executed := encoded workplace invocation cancelled before table total behavior
    ((∃ last, Streams invocation cancelled before behavior told executed last) ↔
      saidIn invocation cancelled behavior = .ok ()) ∧
    executed.1.course.listener.Pairwise (· < ·) ∧
    ∀ percent ∈ executed.1.course.listener, 0 ≤ percent ∧ percent ≤ 100 := by
  intro told executed
  have rising : Rising (run (Watch.listen keepPercentages) workplace invocation behavior
      ⟨.start total [], before, cancelled⟩ table).course.listener :=
    run_invariant Rising (fun _ _ _ rising heard => rising.listen heard) workplace invocation
      behavior _ table (rising_start total)
  refine ⟨⟨fun ⟨last, streams⟩ => ?_, fun said => ?_⟩, rising.increasing, rising.bounded⟩
  -- What streams has told a last event, which a run that breaks off has not.
  · cases refused : saidIn invocation cancelled behavior with
    | ok done => rfl
    | error fault =>
        obtain ⟨heard, hears, -⟩ :=
          exists_foldlM_listen keepPercentages (Watch.start total []) legible.translated
        have broken := fault_of_refused workplace table before legible refused hears
        have faulty : executed.2 = .error (.fault fault) := by
          simp [executed, encoded, execute, Watch.result, broken]
        exact absurd faulty (streams.ne_fault fault)
  · have translated : ∀ elapsed, .progress elapsed ∈ behavior.beginning ++
        [lastEvent invocation cancelled before behavior] →
        ∃ percent, percentage total elapsed = .ok percent := by
      intro elapsed member
      rcases List.mem_append.mp member with reported | last
      · exact legible.translated elapsed reported
      · have terminal := (lastEvent_terminal invocation cancelled before behavior).1
        rw [← List.mem_singleton.mp last] at terminal
        simp [Event.isTerminal] at terminal
    obtain ⟨heard, hears, last⟩ :=
      exists_foldlM_listen keepPercentages (Watch.start total []) translated
    -- The same run is told to two listeners: one that keeps the events, and the watcher.
    obtain ⟨unbroken, events, kept⟩ := run_of_said workplace table before legible
      said (foldlM_keepEvents _ [])
    obtain ⟨finished, listener, left⟩ := run_of_said workplace table before legible said hears
    refine ⟨lastEvent invocation cancelled before behavior,
      streams_of_lastEvent unbroken events ?_ kept left⟩
    have given : heard.last = some (lastEvent invocation cancelled before behavior) := by
      simp [last]
    have result := result_of_last given
    rw [← listener] at result
    simpa [executed, encoded, execute, finished] using result

end Main

theorem legible_started {total : Binary64} {actions : List Action}
    (read : ∀ text ∈ actions.filterMap Action.text?, (Marker.read text).toOption.isSome)
    (translated : ∀ elapsed ∈ elapsedTimes actions, (percentage total elapsed).toOption.isSome)
    (errors : List String) (code : Int) : (Behavior.started actions errors code).Legible total := by
  refine ⟨fun performing _ _ text same member => ?_, fun elapsed member => ?_⟩
  · obtain ⟨rfl, -, -⟩ := Behavior.started.inj same
    have known := read text
      (List.mem_filterMap.mpr ⟨_, (List.takeWhile_sublist _).subset member, rfl⟩)
    cases given : Marker.read text with
    | ok marker => exact ⟨marker, rfl⟩
    | error fault => simp [given, Except.toOption] at known
  · have reported : elapsed ∈ elapsedTimes actions := by
      simpa [Behavior.beginning] using member
    have known := translated elapsed reported
    cases given : percentage total elapsed with
    | ok percent => exact ⟨percent, rfl⟩
    | error reason => simp [given, Except.toOption] at known

/-- A process that reports two positions in ten seconds of output and writes its file. -/
def reportsTwice : List Action :=
  [.line "out_time=00:00:01.000", .write "", .line "frame=12 time=00:00:04.500"]

def quietInvocation : Invocation := ⟨[], .ofString "/outputs/out.mp4", "render", .silent⟩

/-- The process streams: it is finished, and the percentages of its positions are received. -/
theorem streams_reportsTwice :
    (∃ last, Streams quietInvocation false none (.started reportsTwice [] 0)
      (recounted {} quietInvocation false none .empty (.started reportsTwice [] 0))
      (encoded {} quietInvocation false none .empty 10 (.started reportsTwice [] 0)) last) ∧
    (encoded {} quietInvocation false none .empty 10
      (.started reportsTwice [] 0)).1.course.listener.Pairwise (· < ·) := by
  have legible : (Behavior.started reportsTwice [] 0).Legible 10 :=
    legible_started (by decide +kernel) (by decide +kernel) [] 0
  obtain ⟨streams, increasing, -⟩ :=
    streams_iff_said {} quietInvocation false none .empty legible
  exact ⟨streams.mpr rfl, increasing⟩

/-- A process that exits with an error code and a closing tag for its diagnosis. -/
def exitsWithTag : Behavior := .started [.write "v"] ["[/b]"] 1

/-- The process does not stream, though it reports nothing: the diagnosis cannot be printed, and
the run breaks off before it tells its last event. -/
theorem not_streams_exitsWithTag :
    exitsWithTag.Legible 10 ∧ ¬ ∃ last, Streams quietInvocation false none exitsWithTag
      (recounted {} quietInvocation false none .empty exitsWithTag)
      (encoded {} quietInvocation false none .empty 10 exitsWithTag) last := by
  have legible : exitsWithTag.Legible 10 :=
    legible_started (by decide) (by decide) ["[/b]"] 1
  refine ⟨legible, fun ⟨last, streams⟩ => ?_⟩
  have starts : ("[render] Render failed:\n" ++ Diagnosis.ofOutput (errorText ["[/b]"])).toList =
      Console.Markup.bracketed "render".toList ++ (" Render failed:\n".toList ++
        (Console.Markup.bracketed ['/', 'b'] ++ [])) := by
    decide
  obtain ⟨fault, refused⟩ := Console.exists_announce_closingBold
    (rfl : Console.Verbosity.prints .silent .error = true) Console.Markup.isTagName_render starts
    (by decide) (by decide) (by decide)
  have begins : announceStart quietInvocation = .ok () := rfl
  have unstopped : stopReason? false [.write "v"] = none := rfl
  have said := saidIn_exited begins unstopped ["[/b]"] (show (1 : Int) ≠ 0 by decide)
  have quiet : quietInvocation.verbosity = .silent := rfl
  rw [quiet, refused] at said
  have told := fault_of_refused {} .empty none legible said
    (foldlM_keepEvents _ [])
  have unbroken := streams.ended.1
  rw [recounted] at unbroken
  simp [told] at unbroken

end Montage.Encode
