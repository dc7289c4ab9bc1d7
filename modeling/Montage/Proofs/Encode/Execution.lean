import Montage.Encode.Execution
import Montage.Proofs.Sequence

/-!
# Results of encodes

What an encode gives, told from what its process does.  The percentages that are received
on the way have no part in it.
-/

namespace Montage.Encode

section Invariants

variable {σ τ : Type}

/-- What every event keeps is kept while actions are followed. -/
theorem follow_invariant (holds : σ → Prop) {listen : Listener σ}
    (keeps : ∀ state event after, holds state → listen state event = .ok after → holds after)
    (course : Course σ) (actions : List Action) (start : holds course.listener) :
    holds (follow listen course actions).1.listener := by
  induction actions generalizing course with
  | nil => exact start
  | cons action actions ih =>
      cases action with
      | write content => exact ih _ start
      | hang => exact start
      | cancel => exact start
      | line text =>
          simp only [follow]
          cases Marker.read text with
          | error fault => exact start
          | ok marker =>
              cases marker with
              | none => exact ih _ start
              | some elapsed =>
                  by_cases counts : 0 ≤ elapsed
                  · simp only [if_pos counts]
                    cases heard : listen course.listener (.progress elapsed) with
                    | error fault => exact start
                    | ok listener => exact ih _ (keeps _ _ _ start heard)
                  · simp only [if_neg counts]
                    exact ih _ start

theorem runStarted_invariant (holds : σ → Prop) {listen : Listener σ}
    (keeps : ∀ state event after, holds state → listen state event = .ok after → holds after)
    (invocation : Invocation) (course : Course σ) (table : Media.ProcessTable)
    (process : Media.ToolProcess) (actions : List Action) (errors : List String) (code : Int)
    (start : holds course.listener) :
    holds (runStarted listen invocation course table process actions errors
      code).1.listener := by
  unfold runStarted
  cases begun : listen course.listener .started with
  | error fault => exact start
  | ok listener =>
      have followed := follow_invariant holds keeps { course with listener } actions
        (keeps _ _ _ start begun)
      dsimp only
      generalize follow listen { course with listener } actions = traced at followed
      obtain ⟨reached, ending⟩ := traced
      dsimp only at followed ⊢
      split
      next => exact followed
      next =>
        split
        next => exact followed
        next event output concluded =>
          split
          next => exact followed
          next last heard => exact keeps _ _ _ followed heard

/-- What every event keeps is kept by a run of the encoder. -/
theorem run_invariant (holds : σ → Prop) {listen : Listener σ}
    (keeps : ∀ state event after, holds state → listen state event = .ok after → holds after)
    (workplace : Workplace) (invocation : Invocation) (behavior : Behavior)
    (course : Course σ) (table : Media.ProcessTable) (start : holds course.listener) :
    holds (run listen workplace invocation behavior course table).course.listener := by
  unfold run
  dsimp only
  split
  next => exact start
  next =>
    cases behavior with
    | refused reason =>
        dsimp only
        split
        next => exact start
        next listener heard =>
          rw [bind_eq_ok_iff] at heard
          obtain ⟨-, -, heard⟩ := heard
          exact keeps _ _ _ start heard
    | started actions errors code =>
        exact runStarted_invariant holds keeps _ _ _ _ actions errors code start

/-- What every percentage keeps is kept by every event. -/
theorem Watch.listen_invariant (holds : τ → Prop) {receive : τ → Int → τ}
    (keeps : ∀ receiver percent, holds receiver → holds (receive receiver percent))
    (watch : Watch τ) (event : Event) (after : Watch τ) (held : holds watch.receiver)
    (heard : Watch.listen receive watch event = .ok after) : holds after.receiver := by
  cases event with
  | progress elapsed =>
      simp only [Watch.listen] at heard
      cases updated : watch.translator.update elapsed with
      | error reason => simp [updated] at heard
      | ok passed =>
          obtain ⟨translator, percent⟩ := passed
          simp only [updated, Except.ok.injEq] at heard
          subst heard
          cases percent with
          | none => exact held
          | some percent => exact keeps _ percent held
  | started | finished output | failed failure =>
      simp only [Watch.listen, Except.ok.injEq] at heard
      subst heard
      exact held

theorem execute_invariant (holds : τ → Prop) {receive : τ → Int → τ}
    (keeps : ∀ receiver percent, holds receiver → holds (receive receiver percent))
    (total : Binary64) (workplace : Workplace) (invocation : Invocation)
    (behavior : Behavior) (course : Course τ) (table : Media.ProcessTable)
    (start : holds course.listener) :
    holds (execute receive total workplace invocation behavior course
      table).1.course.listener :=
  run_invariant (fun watch : Watch τ => holds watch.receiver)
    (Watch.listen_invariant holds keeps) workplace invocation behavior _ table start

end Invariants

section Results

variable {σ τ : Type}

/-- The content of the output file when the actions of a process end, and how they end,
for an output that lasts a given time. -/
def scriptEnd (total : Binary64) (before : Option String) (actions : List Action) :
    Option String × Ending :=
  let (course, ending) := follow (Watch.listen fun done _ => done)
    ⟨Watch.start total (), before, false⟩ actions
  (course.output, ending)

/-- Receivers have no part in how the actions of a process end. -/
theorem follow_receiver (receive : σ → Int → σ) (receive' : τ → Int → τ)
    (course : Course (Watch σ)) (other : Course (Watch τ)) (actions : List Action)
    (translator : course.listener.translator = other.listener.translator)
    (output : course.output = other.output) (cancelled : course.cancelled = other.cancelled) :
    (follow (Watch.listen receive) course actions).1.output =
        (follow (Watch.listen receive') other actions).1.output ∧
      (follow (Watch.listen receive) course actions).2 =
        (follow (Watch.listen receive') other actions).2 := by
  induction actions generalizing course other with
  | nil => exact ⟨output, rfl⟩
  | cons action actions ih =>
      cases action with
      | write content => exact ih _ _ translator rfl cancelled
      | hang => exact ⟨output, by simp [follow, cancelled]⟩
      | cancel => exact ⟨output, rfl⟩
      | line text =>
          simp only [follow]
          cases Marker.read text with
          | error fault => exact ⟨output, rfl⟩
          | ok marker =>
              cases marker with
              | none => exact ih _ _ translator output cancelled
              | some elapsed =>
                  by_cases counts : 0 ≤ elapsed
                  · simp only [if_pos counts, Watch.listen, translator]
                    cases other.listener.translator.update elapsed with
                    | error reason => exact ⟨output, rfl⟩
                    | ok passed => exact ih _ _ rfl output cancelled
                  · simp only [if_neg counts]
                    exact ih _ _ translator output cancelled

theorem follow_started (receive : τ → Int → τ) (total : Binary64) (receiver : τ)
    (before : Option String) (actions : List Action) :
    ∃ reached, follow (Watch.listen receive)
        ⟨⟨.start total, some .started, receiver⟩, before, false⟩ actions =
          (reached, (scriptEnd total before actions).2) ∧
      reached.output = (scriptEnd total before actions).1 := by
  obtain ⟨output, ending⟩ := follow_receiver receive (fun done _ => done)
    ⟨⟨.start total, some .started, receiver⟩, before, false⟩
    ⟨Watch.start total (), before, false⟩ actions rfl rfl rfl
  exact ⟨_, Prod.ext rfl ending, output⟩

/-- The last event of a run is none that an encode passes on. -/
theorem listen_of_conclude (receive : τ → Int → τ) (watch : Watch τ) {invocation : Invocation}
    {content left : Option String} {ending : Ending} {errors : List String} {code : Int}
    {event : Event}
    (concluded : conclude invocation content ending errors code = .ok (event, left)) :
    Watch.listen receive watch event = .ok { watch with last := some event } := by
  have terminal : event.isTerminal = true := by
    unfold conclude at concluded
    split at concluded
    next => simp at concluded
    next =>
      obtain ⟨rfl, -⟩ := Prod.mk.inj (Except.ok.inj concluded)
      rfl
    next =>
      split at concluded
      next =>
        obtain ⟨-, -, concluded⟩ := bind_eq_ok_iff.mp concluded
        obtain ⟨rfl, -⟩ := Prod.mk.inj (Except.ok.inj concluded)
        rfl
      next =>
        split at concluded
        · obtain ⟨rfl, -⟩ := Prod.mk.inj (Except.ok.inj concluded)
          rfl
        · obtain ⟨rfl, -⟩ := Prod.mk.inj (Except.ok.inj concluded)
          rfl
  cases event with
  | started | progress elapsed => simp [Event.isTerminal] at terminal
  | finished output | failed failure => rfl

/-- An encode leaves its receiver as it was, or as the actions of its process left it. -/
theorem execute_course (receive : τ → Int → τ) (total : Binary64) (workplace : Workplace)
    (invocation : Invocation) (behavior : Behavior) (receiver : τ) (before : Option String)
    (table : Media.ProcessTable) :
    let reached := (execute receive total workplace invocation behavior
      ⟨receiver, before, false⟩ table).1.course
    reached.listener = receiver ∧ reached.cancelled = false ∨
      ∃ actions errors code, behavior = .started actions errors code ∧
        let followed := (follow (Watch.listen receive)
          ⟨⟨.start total, some .started, receiver⟩, before, false⟩ actions).1
        reached.listener = followed.listener.receiver ∧ reached.cancelled = followed.cancelled := by
  unfold execute run
  dsimp only
  split
  next => exact .inl ⟨rfl, rfl⟩
  next =>
    cases behavior with
    | refused reason =>
        refine .inl ?_
        dsimp only
        split
        next => exact ⟨rfl, rfl⟩
        next listener heard =>
          obtain ⟨-, -, heard⟩ := bind_eq_ok_iff.mp heard
          obtain rfl := Except.ok.inj heard
          exact ⟨rfl, rfl⟩
    | started actions errors code =>
        refine .inr ⟨actions, errors, code, rfl, ?_⟩
        simp only [runStarted, Watch.listen, Watch.start]
        generalize follow _ _ actions = traced
        obtain ⟨followed, ending⟩ := traced
        dsimp only
        split
        next => exact ⟨rfl, rfl⟩
        next =>
          split
          next => exact ⟨rfl, rfl⟩
          next event left concluded =>
            have heard := listen_of_conclude receive followed.listener concluded
            simp only [Watch.listen] at heard
            rw [heard]
            exact ⟨rfl, rfl⟩

/-- What a process comes to. -/
inductive Verdict where
  | finished
  | stopped (reason : StopReason)
  /-- It was not started, exited with an error, or left no file. -/
  | failed
  | broken
  deriving DecidableEq

/-- What a process of some behavior comes to, for an output that lasts a given time. -/
def verdict (total : Binary64) (before : Option String) : Behavior → Verdict
  | .refused _ => .failed
  | .started actions _ code =>
      match scriptEnd total before actions with
      | (_, .stopped reason) => .stopped reason
      | (_, .broken _) => .broken
      | (content, .exited) => if code = 0 ∧ content.isSome then .finished else .failed

/-- The console takes what is said in a run. -/
structure Heard (invocation : Invocation) (behavior : Behavior) : Prop where
  start : announceStart invocation = .ok ()
  refusal : ∀ reason, behavior = .refused reason →
    Console.announce invocation.verbosity .error
      s!"[render] Could not start ffmpeg: {reason}" = .ok ()
  diagnosis : ∀ actions errors code, behavior = .started actions errors code → code ≠ 0 →
    Console.announce invocation.verbosity .error
      ("[render] Render failed:\n" ++ Diagnosis.ofOutput (errorText errors)) = .ok ()

/-- What an encode gives, and the output file that it leaves, when its process comes to a
verdict. -/
def Gives (invocation : Invocation) (verdict : Verdict) (result : Except EncodeError Path)
    (output : Option String) : Prop :=
  match verdict with
  | .finished => result = .ok invocation.output ∧ output.isSome
  | .stopped reason => result = .error (.failed (.stopped reason)) ∧ output = none
  | .failed => ∃ message, result = .error (.failed (.encode message))
  | .broken => ∃ fault, result = .error (.fault fault)

variable (receive : τ → Int → τ) (total : Binary64) (workplace : Workplace)
  {invocation : Invocation} {behavior : Behavior} (receiver : τ) (before : Option String)
  (table : Media.ProcessTable)

theorem execute_gives (heard : Heard invocation behavior) :
    let executed := execute receive total workplace invocation behavior
      ⟨receiver, before, false⟩ table
    Gives invocation (verdict total before behavior) executed.2
      executed.1.course.output := by
  have start := heard.start
  cases behavior with
  | refused reason =>
      have refusal := heard.refusal reason rfl
      simp [execute, run, start, refusal, Watch.listen, Watch.result, bind, Except.bind,
        verdict, Gives]
  | started actions errors code =>
      obtain ⟨reached, traced, output⟩ := follow_started receive total receiver before actions
      cases script : scriptEnd total before actions with
      | mk content ending =>
          simp only [script] at traced output
          cases ending with
          | stopped reason =>
              simp [execute, run, start, runStarted, Watch.listen, Watch.start, traced,
                conclude, Watch.result, verdict, script, Gives]
          | broken fault =>
              simp [execute, run, start, runStarted, Watch.listen, Watch.start, traced,
                Watch.result, verdict, script, Gives]
          | exited =>
              by_cases zero : code = 0
              · cases content <;>
                  simp [execute, run, start, runStarted, Watch.listen, Watch.start, traced,
                    conclude, zero, output, Watch.result, verdict, script, Gives]
              · have diagnosis := heard.diagnosis actions errors code rfl zero
                simp [execute, run, start, runStarted, Watch.listen, Watch.start, traced,
                  conclude, zero, diagnosis, Watch.result, bind, Except.bind, verdict,
                  script, Gives]

/-- An encode whose process exits with an error code gives its diagnosis, or the fault of
announcing that. -/
theorem execute_exited {actions : List Action} {errors : List String} {code : Int}
    (start : announceStart invocation = .ok ())
    (exited : (scriptEnd total before actions).2 = .exited) (failed : code ≠ 0) :
    (execute receive total workplace invocation (.started actions errors code)
      ⟨receiver, before, false⟩ table).2 = .error
        (match Console.announce invocation.verbosity .error
            ("[render] Render failed:\n" ++ Diagnosis.ofOutput (errorText errors)) with
          | .ok () => .failed (.encode (Diagnosis.ofOutput (errorText errors)))
          | .error fault => .fault fault) := by
  obtain ⟨reached, traced, -⟩ := follow_started receive total receiver before actions
  rw [exited] at traced
  cases said : Console.announce invocation.verbosity .error
      ("[render] Render failed:\n" ++ Diagnosis.ofOutput (errorText errors)) <;>
    simp [execute, run, start, runStarted, Watch.listen, Watch.start, traced, conclude, failed,
      said, Watch.result, bind, Except.bind]

end Results

end Montage.Encode
