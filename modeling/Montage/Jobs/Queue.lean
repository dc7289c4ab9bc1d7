import Montage.Encode.Execution
import Montage.Jobs.Registry
import Montage.Render.Plan
import Montage.Storage.FileTree

/-!
# The render queue

Accepted renders, run one after the other in the order of their acceptance.  Each run
holds a slot while its plan is made and its encoder runs, and then records how its job
ended.
-/

namespace Montage.Jobs

/-- A render that waits to be run. -/
structure Entry where
  job : String
  spec : RenderSpec
  timeline : ResolvedTimeline
  deriving Inhabited

/-- The renders that wait, with the registry of their jobs. -/
structure Queue where
  registry : Registry
  config : Config
  directory : Path
  entries : List Entry := []
  named : Nat := 0
  deriving Inhabited

/-- The files and the processes that renders act on. -/
structure Premises where
  tree : FileTree := .empty
  processes : Media.ProcessTable := .empty
  deriving Inhabited

/-- How renders are carried out. -/
structure Equipment where
  verbosity : Console.Verbosity := .silent
  workplace : Encode.Workplace := {}
  deriving Inhabited

/-- Reasons why a render gives no output file. -/
inductive Setback where
  | stopped (reason : Encode.StopReason)
  | graph (reason : Filter.GraphError)
  | encode (message : String)
  | fault (fault : Fault)
  deriving DecidableEq, Repr, Inhabited

namespace Setback

def ofPlan : PlanError → Setback
  | .graph reason => .graph reason
  | .fault cause => .fault cause
  | .rejected reason => .fault (.crash reason.message)

def ofEncode : Encode.EncodeError → Setback
  | .failed (.stopped reason) => .stopped reason
  | .failed (.encode message) => .encode message
  | .fault cause => .fault cause

def failure : Setback → Failure
  | .stopped reason => ⟨.stopped reason, reason.message⟩
  | .graph reason => ⟨.graph, reason.message⟩
  | .encode message => ⟨.encode, message⟩
  | .fault cause => ⟨.internal, cause.message⟩

/-- What a setback says on the console before it is recorded. -/
def announce (verbosity : Console.Verbosity) (job : String) :
    Setback → Except Fault Unit
  | .stopped reason =>
      Console.announce verbosity .warning
        ("[jobs] Render " ++ job ++ " stopped: " ++ reason.name)
  | .graph reason =>
      Console.announce verbosity .error
        ("[jobs] Render " ++ job ++ " has an invalid graph: " ++ reason.message)
  | .encode _ => .ok ()
  | .fault cause =>
      Console.announce verbosity .error
        ("[jobs] Render " ++ job ++ " crashed: " ++ cause.message)

end Setback

/-- What a run of the queue did. -/
inductive Attempt where
  | idle
  | blocked
  /-- The render of a job was taken from the queue.  Its encoder was started with a
  command, unless that is empty.  A fault that is met while a setback is announced keeps
  the job from being settled. -/
  | ran (job : String) (command : List String) (fault : Option Fault)
  deriving DecidableEq, Inhabited

namespace Queue

def start (config : Config) (registry : Registry) (directory : Path) : Queue :=
  { registry, config, directory }

def submit (queue : Queue) (spec : RenderSpec) (timeline : ResolvedTimeline) :
    Queue × String :=
  let inputs := timeline.items.filterMap (·.path)
  let (registry, id) := queue.registry.create inputs
  ({ queue with registry, entries := queue.entries ++ [⟨id, spec, timeline⟩] }, id)

def outputName (number : Nat) : String := "out-" ++ Decimal.ofInt number

def alter (queue : Queue) (change : Registry → Registry) : Queue :=
  { queue with registry := change queue.registry }

/-- The plan of a waiting render. -/
def plan (queue : Queue) (entry : Entry) : Queue × Except Setback RenderPlan :=
  -- A render that has no plan leaves its output name to the next one.
  let number := queue.named + 1
  match Render.plan queue.config queue.directory (outputName number) entry.spec
      entry.timeline with
  | .error reason => (queue, .error (.ofPlan reason))
  | .ok plan => ({ queue with named := number }, .ok plan)

def shownIdentifier : Nat := 8

def invocation (verbosity : Console.Verbosity) (job : String) (plan : RenderPlan) :
    Encode.Invocation :=
  ⟨plan.command, plan.output, "render " ++ Text.start shownIdentifier job, verbosity⟩

/-- The encode of a plan whose output directory exists. -/
def encode (equipment : Equipment) (behavior : Encode.Behavior) (queue : Queue)
    (premises : Premises) (job : String) (plan : RenderPlan) :
    Queue × Premises × List String × Except Setback Path :=
  let before := premises.tree.content? plan.output
  let (aftermath, result) :=
    Encode.execute (fun registry percent => registry.updateProgress job percent)
      plan.timeline.totalDuration equipment.workplace
      (invocation equipment.verbosity job plan) behavior
      ⟨queue.registry, before, false⟩ premises.processes
  let registry := aftermath.course.listener
  -- A request to stop the encode is a request to stop the job.
  let registry :=
    if aftermath.course.cancelled then registry.requestCancel job else registry
  let output := aftermath.course.output
  -- When a run breaks off, nothing is known of the time of its output file.
  let tree := match result with
    | .error (.fault _) => premises.tree.leave plan.output output
    | _ => premises.tree.update plan.output output
  ({ queue with registry }, ⟨tree, aftermath.table⟩, aftermath.command,
    result.mapError .ofEncode)

/-- A render inside its slot: its plan, and then its encode.  An encoder that is no
behavior but a fault breaks off the render. -/
def render (equipment : Equipment) (encoder : Except Fault Encode.Behavior)
    (queue : Queue) (premises : Premises) (entry : Entry) :
    Queue × Premises × List String × Except Setback Path :=
  match queue.plan entry with
  | (queue, .error setback) => (queue, premises, [], .error setback)
  | (queue, .ok plan) =>
      let queue := queue.alter (·.setTarget entry.job plan.output)
      match encoder, premises.tree.makeDirectory plan.output.parent with
      | .error cause, _ => (queue, premises, [], .error (.fault cause))
      | .ok _, .error cause => (queue, premises, [], .error (.fault cause))
      | .ok behavior, .ok tree =>
          queue.encode equipment behavior { premises with tree } entry.job plan

/-- The queue after the end of a render is recorded, and the fault that keeps it from
being recorded. -/
def record (verbosity : Console.Verbosity) (queue : Queue) (job : String) :
    Except Setback Path → Queue × Option Fault
  | .ok output => (queue.alter (·.finish job output), none)
  | .error setback =>
      match setback.announce verbosity job with
      | .error cause => (queue, some cause)
      | .ok () => (queue.alter (·.fail job setback.failure), none)

/-- A waiting render for which there is a slot. -/
def run (equipment : Equipment) (encoder : Except Fault Encode.Behavior) (queue : Queue)
    (premises : Premises) (entry : Entry) : Queue × Premises × Attempt :=
  -- A job that was cancelled while it waited has settled, and asks for no slot.
  if (queue.registry.findAny? entry.job).any (·.settled) then
    (queue, premises, .ran entry.job [] none)
  else
    match queue.registry.enter entry.job with
    | (_, .full) => (queue, premises, .blocked)
    | (registry, .turnedAway) =>
        let (queue, fault) := record equipment.verbosity { queue with registry }
          entry.job (.error (.stopped .cancelled))
        (queue, premises, .ran entry.job [] fault)
    | (registry, .entered) =>
        let (queue, premises, command, result) :=
          render equipment encoder { queue with registry } premises entry
        let (queue, fault) := record equipment.verbosity
          (queue.alter (·.leave entry.job)) entry.job result
        (queue, premises, .ran entry.job command fault)

def runNext (equipment : Equipment) (encoder : Except Fault Encode.Behavior)
    (queue : Queue) (premises : Premises) : Queue × Premises × Attempt :=
  match queue.entries with
  | [] => (queue, premises, .idle)
  | entry :: entries =>
      if queue.registry.isFull then (queue, premises, .blocked)
      else run equipment encoder { queue with entries } premises entry

def idleEncoder : Encode.Behavior := .started [] [] 0

def runMany (equipment : Equipment) (queue : Queue) (premises : Premises) :
    Nat → Queue × Premises
  | 0 => (queue, premises)
  | count + 1 =>
      let (queue, premises, _) := runNext equipment (.ok idleEncoder) queue premises
      runMany equipment queue premises count

/-- Runs all renders that wait, after they were cancelled if that is asked for. -/
def shutdown (equipment : Equipment) (cancel : Bool) (queue : Queue)
    (premises : Premises) : Queue × Premises :=
  let queue := if cancel then queue.alter (·.cancelAll.1) else queue
  runMany equipment queue premises queue.entries.length

end Queue

end Montage.Jobs
