import Montage.Proofs.Encode.Execution
import Montage.Proofs.Media.ProcessTable
import Montage.Render.Plan
import Montage.Wire.RenderRequest

/-!
# What encodes leave behind

The process that an encode started and the output file that it wrote, after it has given
its result.  A run that a marker breaks off is left before its process is struck from the
running ones and before its output file is removed.
-/

namespace Montage.Encode

/-- The ways out of a run. -/
inductive Departure where
  | unstarted
  /-- In the middle, by a marker that cannot be read or translated. -/
  | broken
  /-- After its process failed with an error that cannot be announced. -/
  | unannounced
  | ended
  deriving DecidableEq

/-- The way out of a run whose process behaves in some way, for an output that lasts a
given time. -/
def departure (invocation : Invocation) (total : Binary64) (before : Option String)
    (behavior : Behavior) : Departure :=
  match announceStart invocation, behavior with
  | .error _, _ => .unstarted
  | .ok (), .refused _ => .unstarted
  | .ok (), .started actions errors code =>
      match (scriptEnd total before actions).2 with
      | .broken _ => .broken
      | .stopped _ => .ended
      | .exited =>
          if code = 0 then .ended
          else match Console.announce invocation.verbosity .error
              ("[render] Render failed:\n" ++ Diagnosis.ofOutput (errorText errors)) with
            | .error _ => .unannounced
            | .ok () => .ended

/-- The content of the output file when the process of a run ends or is killed. -/
def written (total : Binary64) (before : Option String) : Behavior → Option String
  | .refused _ => before
  | .started actions _ _ => (scriptEnd total before actions).1

section

variable {τ : Type} (receive : τ → Int → τ) (total : Binary64) (workplace : Workplace)
  (invocation : Invocation) (behavior : Behavior) (receiver : τ) (before : Option String)
  {table : Media.ProcessTable}

/-- After an encode its process is listed as running exactly when a marker broke off the
run.  An encode that gives no output leaves a file exactly when there was one that it never
got to, or its process had written one when a marker broke off the run or the diagnosis
could not be announced. -/
theorem execute_leaves (reached : table.Reached) :
    let executed := execute receive total workplace invocation behavior
      ⟨receiver, before, false⟩ table
    let way := departure invocation total before behavior
    (executed.1.table.running = table.running ++
      if way = .broken then [(table.start "ffmpeg" invocation.description none).2] else []) ∧
    ∀ reason, executed.2 = .error reason →
      (executed.1.course.output.isSome ↔
        (way = .unstarted ∧ before.isSome) ∨
          ((way = .broken ∨ way = .unannounced) ∧ (written total before behavior).isSome)) := by
  have numbered := reached.numbered
  cases start : announceStart invocation with
  | error fault => simp [execute, run, departure, start]
  | ok done =>
      cases behavior with
      | refused reason =>
          have others := Media.ProcessTable.running_start_refused numbered "ffmpeg"
            invocation.description reason
          cases said : Console.announce invocation.verbosity .error
              s!"[render] Could not start ffmpeg: {reason}" <;>
            simp [execute, run, start, departure, said, bind, Except.bind, Watch.listen,
              Watch.start, others]
      | started actions errors code =>
          obtain ⟨reached, traced, output⟩ := follow_started receive total receiver before actions
          have listed := Media.ProcessTable.running_start numbered "ffmpeg"
            invocation.description
          have struck := Media.ProcessTable.running_finish_start numbered "ffmpeg"
            invocation.description
          -- Only a broken script leaves the run before its process is struck from the table.
          cases script : scriptEnd total before actions with
          | mk content ending =>
              simp only [script] at traced output
              cases ending with
              | stopped reason =>
                  simp [execute, run, start, runStarted, Watch.listen, Watch.start, traced,
                    conclude, departure, script, struck]
              | broken fault =>
                  simp [execute, run, start, runStarted, Watch.listen, Watch.start, traced,
                    departure, script, listed, output, written]
              | exited =>
                  by_cases zero : code = 0
                  · cases content <;>
                      simp [execute, run, start, runStarted, Watch.listen, Watch.start, traced,
                        conclude, zero, output, Watch.result, departure, script, struck]
                  · cases said : Console.announce invocation.verbosity .error
                        ("[render] Render failed:\n" ++ Diagnosis.ofOutput (errorText errors)) <;>
                      simp [execute, run, start, runStarted, Watch.listen, Watch.start, traced,
                        conclude, zero, said, output, bind, Except.bind, departure, script,
                        struck, written]

end

def instantRequest : Json := .object [("timeline", .array [.object [("type", .text "image"),
  ("filename", .text "still.png"), ("duration", .number (.ofDecimal false 1 (-308)))]])]

/-- The plan for a request, where assets are files of their own names. -/
def planOf (document : Json) : Option RenderPlan := do
  let spec ← (Wire.RenderRequest.specOf document).toOption
  (Render.compile {} (fun name => .ok (.ofString name)) (fun _ => .ok ⟨0, false, false, 0, 0⟩)
    (.ofString "/outputs") "out-1" spec).2.toOption

def writesAndReports : Behavior :=
  .started [.write "", .line "out_time=00:00:05.000"] [] 0

def encodeOf (plan : RenderPlan) : Aftermath Unit × Except EncodeError Path :=
  execute (fun _ _ => ()) plan.timeline.totalDuration {}
    ⟨plan.command, plan.output, "render", .silent⟩ writesAndReports ⟨(), none, false⟩ .empty

/-- The request for an instant is accepted and has a plan, and its encode fails; yet its
process is listed as running, and its file is left. -/
theorem lists_and_leaves_instant :
    ∃ plan, planOf instantRequest = some plan ∧ (encodeOf plan).2.toOption = none ∧
      (encodeOf plan).1.table.running ≠ [] ∧ (encodeOf plan).1.course.output.isSome := by
  have computed : ((planOf instantRequest).map fun plan => decide
      ((encodeOf plan).2.toOption = none ∧ (encodeOf plan).1.table.running ≠ [] ∧
        (encodeOf plan).1.course.output.isSome)) = some true := by
    decide +kernel
  obtain ⟨plan, planned, found⟩ := Option.map_eq_some_iff.mp computed
  exact ⟨plan, planned, of_decide_eq_true found⟩

/-- The encode of an instant, told by its way out: the process is the one that is listed,
and the file is the one that it had written. -/
theorem execute_leaves_instant :
    ∃ plan, planOf instantRequest = some plan ∧
      (encodeOf plan).1.table.running =
        [(Media.ProcessTable.empty.start "ffmpeg" "render" none).2] ∧
      ∀ reason, (encodeOf plan).2 = .error reason →
        (encodeOf plan).1.course.output.isSome := by
  have computed : ((planOf instantRequest).map fun plan => decide
      (departure ⟨plan.command, plan.output, "render", .silent⟩ plan.timeline.totalDuration
          none writesAndReports = .broken ∧
        (written plan.timeline.totalDuration none writesAndReports).isSome)) = some true := by
    decide +kernel
  obtain ⟨plan, planned, found⟩ := Option.map_eq_some_iff.mp computed
  obtain ⟨broken, file⟩ := of_decide_eq_true found
  obtain ⟨listed, leaves⟩ := execute_leaves (fun _ _ => ()) plan.timeline.totalDuration {}
    ⟨plan.command, plan.output, "render", .silent⟩ writesAndReports () none .empty
  refine ⟨plan, planned, ?_, fun reason failed => ?_⟩
  · rw [if_pos broken] at listed
    exact listed
  · exact (leaves reason failed).mpr (.inr ⟨.inl broken, file⟩)

end Montage.Encode
