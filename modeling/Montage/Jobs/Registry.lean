import Montage.Jobs.Feed

/-!
# The job registry

All jobs that are known, in the order of their acceptance, with the slots in which they
run and the subscribers to their events.  A settled job never changes its end, and only
so many settled jobs are kept.
-/

namespace Montage.Jobs

/-- Reasons why the registry turns down a request. -/
inductive RegistryError where
  | unknownJob (id : String)
  deriving DecidableEq, Repr, Inhabited

namespace RegistryError

def message : RegistryError → String
  | .unknownJob id => "Job not found: " ++ id

end RegistryError

/-- What becomes of a job that asks for a slot. -/
inductive Admission where
  | entered
  | turnedAway
  | full
  deriving DecidableEq, Repr, Inhabited

/-- How busy the registry is. -/
structure Occupancy where
  maxConcurrent : Nat
  running : Nat
  waiting : Int
  jobs : Nat
  deriving DecidableEq, Repr, Inhabited

/-- The jobs, and what goes with them. -/
structure Registry where
  maxConcurrent : Nat
  maxFinished : Int
  jobs : List Job := []
  /-- Jobs that are not known any more, but may still be in the queue. -/
  retired : List Job := []
  inside : List String := []
  clock : Binary64
  accepted : Nat := 0
  feed : Feed := {}
  deriving Inhabited

namespace Registry

/-- The registry before its first job.  There is always a slot. -/
def start (maxConcurrent maxFinished : Int) (clock : Binary64) : Registry :=
  { maxConcurrent := max 1 maxConcurrent.toNat, maxFinished, clock }

def identifier (number : Nat) : String := "job-" ++ Decimal.ofInt number

def tick (registry : Registry) (seconds : Binary64) : Registry :=
  { registry with clock := registry.clock + seconds }

def find? (registry : Registry) (id : String) : Option Job :=
  registry.jobs.find? (·.id == id)

def get (registry : Registry) (id : String) : Except RegistryError Job :=
  match registry.find? id with
  | some job => .ok job
  | none => .error (.unknownJob id)

def findAny? (registry : Registry) (id : String) : Option Job :=
  (registry.jobs ++ registry.retired).find? (·.id == id)

def unsettled (registry : Registry) : List Job :=
  registry.jobs.filter fun job => !job.settled

def isFull (registry : Registry) : Bool :=
  registry.maxConcurrent ≤ registry.inside.length

def occupancy (registry : Registry) : Occupancy :=
  let running := registry.inside.length
  -- Jobs that are cleared keep their slots, so the difference can fall below zero.
  ⟨registry.maxConcurrent, running, registry.unsettled.length - running,
    registry.jobs.length⟩

/-- The files that unsettled jobs use, each with the latest job that uses it first, and
relative paths taken from a directory. -/
def pathsInUse (registry : Registry) (directory : Path) :
    Except Fault (List (Path × String)) :=
  let used := registry.unsettled.flatMap fun job => job.files.map fun path => (path, job.id)
  if used.any fun (path, _) => path.holdsNull then .error .nullInPath
  else .ok (used.map fun (path, id) => (Path.resolve directory path, id)).reverse

def publish (registry : Registry) (event : Event) : Registry :=
  { registry with feed := registry.feed.publish event }

def changeIn (id : String) (change : Job → Job) (jobs : List Job) : List Job :=
  jobs.map fun job => if job.id = id then change job else job

def change (registry : Registry) (id : String) (change : Job → Job) : Registry :=
  { registry with jobs := changeIn id change registry.jobs }

def changeAny (registry : Registry) (id : String) (change : Job → Job) : Registry :=
  { registry with
    jobs := changeIn id change registry.jobs
    retired := changeIn id change registry.retired }

/-- How many of so many settled jobs are too many.  A limit below zero does not tell how
many stay, but how many go. -/
def surplus (maxFinished : Int) (settled : Nat) : Nat :=
  if maxFinished < 0 then maxFinished.natAbs else settled - maxFinished.toNat

def outdated (registry : Registry) : List Job :=
  let settled := registry.jobs.filter (·.settled)
  (settled.mergeSort fun first second => first.settledAt ≤ second.settledAt).take
    (surplus registry.maxFinished settled.length)

/-- The registry without the settled jobs that are too many. -/
def prune (registry : Registry) : Registry :=
  let outdated := registry.outdated
  let ids := outdated.map (·.id)
  { registry with
    jobs := registry.jobs.filter fun job => job.id ∉ ids
    retired := registry.retired ++ outdated }

def create (registry : Registry) (inputs : List Path) : Registry × String :=
  let number := registry.accepted + 1
  let id := identifier number
  let job := Job.accepted id registry.clock inputs
  let registry := { registry with
    jobs := registry.jobs ++ [job], accepted := number }
  (registry.prune.publish (.created id), id)

/-- The registry after so many new jobs, and the identifier of the last one. -/
def createMany (registry : Registry) : Nat → Registry × Option String
  | 0 => (registry, none)
  | count + 1 =>
      let (registry, id) := registry.create []
      match registry.createMany count with
      | (registry, none) => (registry, some id)
      | (registry, some last) => (registry, some last)

/-- The registry after a job reported a percentage. -/
def updateProgress (registry : Registry) (id : String) (percent : Int) : Registry :=
  match registry.find? id with
  | none => registry
  | some job =>
      -- Reports that come late or fall back are not told to anyone.
      if job.settled || percent ≤ job.progress then registry
      else
        let job := job.advance percent
        (registry.change id fun _ => job).publish (.progress id job.state percent)

def setTarget (registry : Registry) (id : String) (path : Path) : Registry :=
  registry.change id fun job => { job with target := some path }

/-- The registry after a job ended with an output file, unless it had settled. -/
def finish (registry : Registry) (id : String) (output : Path) : Registry :=
  match registry.find? id with
  | none => registry
  | some job =>
      if job.settled then registry
      else
        (registry.change id (·.finish registry.clock output)).publish
          (.finished id output.name)

/-- The registry after a job failed, unless it had settled. -/
def fail (registry : Registry) (id : String) (failure : Failure) : Registry :=
  match registry.find? id with
  | none => registry
  | some job =>
      if job.settled then registry
      else
        (registry.change id (·.fail registry.clock failure)).publish (.failed id failure)

def requestCancel (registry : Registry) (id : String) : Registry :=
  registry.changeAny id fun job => { job with cancelRequested := true }

/-- The registry after a known job was cancelled. -/
def cancel (registry : Registry) (id : String) : Except RegistryError Registry :=
  match registry.get id with
  | .error reason => .error reason
  | .ok job =>
      let registry := registry.requestCancel id
      -- A job that got a slot is left to its run, which finds the request.
      .ok (if job.admitted then registry else registry.fail id .cancelled)

def cancelEach (registry : Registry) (jobs : List Job) : Registry :=
  jobs.foldl (fun registry job => (registry.cancel job.id).toOption.getD registry)
    registry

def cancelAll (registry : Registry) : Registry × Nat :=
  let pending := registry.unsettled
  (registry.cancelEach pending, pending.length)

def clear (registry : Registry) : Registry :=
  { registry with jobs := [], retired := registry.retired ++ registry.jobs }

def enter (registry : Registry) (id : String) : Registry × Admission :=
  if registry.isFull then (registry, .full)
  else
    let admitted := registry.changeAny id fun job => { job with admitted := true }
    if (registry.findAny? id).any (·.cancelRequested) then (admitted, .turnedAway)
    else ({ admitted with inside := admitted.inside ++ [id] }, .entered)

def leave (registry : Registry) (id : String) : Registry :=
  { registry with inside := registry.inside.erase id }

end Registry

end Montage.Jobs
