import Montage.Jobs.Queue
import Montage.Proofs.Encode.Execution
import Mathlib.Logic.Relation

/-!
# Runs of the queue in parts

A run of the queue is made of parts: a render is taken, its job enters a slot, is told its target,
reports percentages, leaves the slot and ends, and on the way output files are written.  Between any
two parts the queue can be seen from outside.
-/

namespace Montage.Jobs.Queue

/-- One part of a run, in which no file is written but an output. -/
inductive Part (isOutput : Path → Prop) (queue : Queue) (premises : Premises) :
    Queue → Premises → Prop where
  | take {entry : Entry} {entries : List Entry} (waiting : queue.entries = entry :: entries) :
      Part isOutput queue premises { queue with entries } premises
  | enter (id : String) :
      Part isOutput queue premises (queue.alter fun registry => (registry.enter id).1) premises
  | name : Part isOutput queue premises { queue with named := queue.named + 1 } premises
  | setTarget (id : String) {path : Path} (output : isOutput path) :
      Part isOutput queue premises (queue.alter (·.setTarget id path)) premises
  | makeDirectory {directory : Path} {tree : FileTree}
      (makes : premises.tree.makeDirectory directory = .ok tree) :
      Part isOutput queue premises queue { premises with tree }
  | report (id : String) (percent : Int) :
      Part isOutput queue premises (queue.alter (·.updateProgress id percent)) premises
  | requestCancel (id : String) :
      Part isOutput queue premises (queue.alter (·.requestCancel id)) premises
  | write {path : Path} (output : isOutput path) (content : Option String) :
      Part isOutput queue premises queue
        { premises with tree := premises.tree.update path content }
  | abandon {path : Path} (output : isOutput path) (content : Option String) :
      Part isOutput queue premises queue
        { premises with tree := premises.tree.leave path content }
  | account (processes : Media.ProcessTable) :
      Part isOutput queue premises queue { premises with processes }
  | leave (id : String) :
      Part isOutput queue premises (queue.alter (·.leave id)) premises
  | finish (id : String) (output : Path) :
      Part isOutput queue premises (queue.alter (·.finish id output)) premises
  | fail (id : String) (failure : Failure) :
      Part isOutput queue premises (queue.alter (·.fail id failure)) premises

def Works (isOutput : Path → Prop) : Queue × Premises → Queue × Premises → Prop :=
  Relation.ReflTransGen fun before after => Part isOutput before.1 before.2 after.1 after.2

variable {isOutput : Path → Prop} {queue after : Queue} {premises later : Premises}
  {entry : Entry} {plan : RenderPlan}

theorem Part.works (part : Part isOutput queue premises after later) :
    Works isOutput (queue, premises) (after, later) :=
  .single part

theorem Works.andThen {start : Queue × Premises} (works : Works isOutput start (queue, premises))
    (part : Part isOutput queue premises after later) : Works isOutput start (after, later) :=
  .tail works part

theorem output_of_plan (planned : (queue.plan entry).2 = .ok plan) :
    plan.output = Render.outputPath queue.directory (outputName (queue.named + 1)) entry.spec := by
  unfold Queue.plan at planned
  dsimp only at planned
  split at planned
  next => simp at planned
  next made equal =>
    obtain rfl := Except.ok.inj planned
    unfold Render.plan at equal
    split at equal
    · simp at equal
    · obtain rfl := Except.ok.inj equal
      rfl

theorem works_plan (queue : Queue) (premises : Premises) (entry : Entry) :
    Works isOutput (queue, premises) ((queue.plan entry).1, premises) := by
  unfold Queue.plan
  dsimp only
  split
  · exact .refl
  · exact Part.name.works

/-- An encode reports percentages, and writes the output of its plan. -/
theorem works_encode (equipment : Equipment) (behavior : Encode.Behavior) (queue : Queue)
    (premises : Premises) (id : String) (output : isOutput plan.output) :
    let encoded := queue.encode equipment behavior premises id plan
    Works isOutput (queue, premises) (encoded.1, encoded.2.1) := by
  unfold Queue.encode
  dsimp only
  -- The registry is what listens to the encode, so its reports are an invariant of the listener.
  have reported := Encode.execute_invariant
    (fun registry => Works isOutput (queue, premises) ({ queue with registry }, premises))
    (fun registry percent works => Works.andThen works (.report id percent))
    plan.timeline.totalDuration equipment.workplace (invocation equipment.verbosity id plan)
    behavior ⟨queue.registry, premises.tree.content? plan.output, false⟩ premises.processes
    .refl
  generalize Encode.execute (fun registry percent => registry.updateProgress id percent)
    plan.timeline.totalDuration equipment.workplace (invocation equipment.verbosity id plan)
    behavior ⟨queue.registry, premises.tree.content? plan.output, false⟩ premises.processes =
    executed at *
  obtain ⟨aftermath, result⟩ := executed
  dsimp only at reported ⊢
  have asked : Works isOutput (queue, premises)
      ({ queue with registry := if aftermath.course.cancelled then
          aftermath.course.listener.requestCancel id else aftermath.course.listener },
        premises) := by
    split
    · exact reported.andThen (.requestCancel id)
    · exact reported
  cases result with
  | ok path => exact (asked.andThen (.write output _)).andThen (.account aftermath.table)
  | error reason =>
      cases reason with
      | failed failure =>
          exact (asked.andThen (.write output _)).andThen (.account aftermath.table)
      | fault cause =>
          exact (asked.andThen (.abandon output _)).andThen (.account aftermath.table)

theorem works_render (equipment : Equipment) (encoder : Except Fault Encode.Behavior)
    (queue : Queue) (premises : Premises) (entry : Entry)
    (output : ∀ number,
      isOutput (Render.outputPath queue.directory (outputName number) entry.spec)) :
    let rendered := queue.render equipment encoder premises entry
    Works isOutput (queue, premises) (rendered.1, rendered.2.1) := by
  have planned : Works isOutput (queue, premises) ((queue.plan entry).1, premises) :=
    works_plan queue premises entry
  unfold Queue.render
  split
  next after setback equal =>
    rw [equal] at planned
    exact planned
  next after plan equal =>
    rw [equal] at planned
    have outputs : isOutput plan.output := by
      rw [output_of_plan (congrArg Prod.snd equal)]
      exact output _
    have targeted := planned.andThen (.setTarget entry.job outputs)
    dsimp only
    split
    next => exact targeted
    next => exact targeted
    next behavior tree makes =>
      exact (targeted.andThen (.makeDirectory makes)).trans
        (works_encode equipment behavior _ _ entry.job outputs)

theorem works_record (verbosity : Console.Verbosity) (queue : Queue) (premises : Premises)
    (id : String) (result : Except Setback Path) :
    Works isOutput (queue, premises) ((queue.record verbosity id result).1, premises) := by
  cases result with
  | ok output => exact (Part.finish id output).works
  | error setback =>
      unfold Queue.record
      dsimp only
      split
      · exact .refl
      · exact (Part.fail id setback.failure).works

theorem works_run (equipment : Equipment) (encoder : Except Fault Encode.Behavior)
    (queue : Queue) (premises : Premises) (entry : Entry)
    (output : ∀ number,
      isOutput (Render.outputPath queue.directory (outputName number) entry.spec)) :
    let ran := queue.run equipment encoder premises entry
    Works isOutput (queue, premises) (ran.1, ran.2.1) := by
  have asked : Works isOutput (queue, premises)
      ({ queue with registry := (queue.registry.enter entry.job).1 }, premises) :=
    (Part.enter entry.job).works
  unfold Queue.run
  split
  next => exact .refl
  next =>
    split
    next => exact .refl
    next registry equal =>
      rw [equal] at asked
      exact asked.trans (works_record _ _ _ _ _)
    next registry equal =>
      rw [equal] at asked
      have rendered := works_render equipment encoder { queue with registry } premises entry
        output
      dsimp only at rendered ⊢
      exact (asked.trans (rendered.andThen (.leave entry.job))).trans (works_record _ _ _ _ _)

theorem works_runNext (equipment : Equipment) (encoder : Except Fault Encode.Behavior)
    (queue : Queue) (premises : Premises)
    (output : ∀ entry ∈ queue.entries, ∀ number,
      isOutput (Render.outputPath queue.directory (outputName number) entry.spec)) :
    let ran := queue.runNext equipment encoder premises
    Works isOutput (queue, premises) (ran.1, ran.2.1) := by
  unfold Queue.runNext
  split
  next => exact .refl
  next entry entries waiting =>
    split
    next => exact .refl
    next =>
      have first : entry ∈ queue.entries := by simp [waiting]
      exact (Part.take waiting).works.trans (works_run _ _ _ _ _ (output entry first))

end Montage.Jobs.Queue
