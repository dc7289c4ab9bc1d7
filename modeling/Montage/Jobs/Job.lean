import Montage.Encode.Run

/-!
# Render jobs

A job follows one render from its acceptance to its end.  It is settled once its end has
been recorded; a job whose encoder reports the full duration already counts as finished,
though it is not settled before its output file is known.
-/

namespace Montage.Jobs

inductive State where
  | processing
  | finished
  | failed
  deriving DecidableEq, Repr, Inhabited

namespace State

def name : State → String
  | .processing => "processing"
  | .finished => "finished"
  | .failed => "failed"

end State

inductive FailureKind where
  | stopped (reason : Encode.StopReason)
  | encode
  | graph
  | internal
  | other (name : String)
  deriving DecidableEq, Repr, Inhabited

namespace FailureKind

def name : FailureKind → String
  | .stopped reason => reason.name
  | .encode => "encode"
  | .graph => "graph"
  | .internal => "internal"
  | .other name => name

def ofName : String → FailureKind
  | "cancelled" => .stopped .cancelled
  | "timeout" => .stopped .timeout
  | "encode" => .encode
  | "graph" => .graph
  | "internal" => .internal
  | name => .other name

theorem name_ofName (text : String) : (ofName text).name = text := by
  unfold ofName
  split <;> rfl

end FailureKind

structure Failure where
  kind : FailureKind
  message : String
  deriving DecidableEq, Repr, Inhabited

namespace Failure

def cancelled : Failure :=
  ⟨.stopped .cancelled, Encode.StopReason.cancelled.message⟩

end Failure

/-- A render job. -/
structure Job where
  id : String
  state : State := .processing
  /-- The percentage of the output that is encoded. -/
  progress : Int := 0
  startedAt : Binary64
  finishedAt : Option Binary64 := none
  output : Option Path := none
  failure : Option Failure := none
  inputs : List Path := []
  /-- The file that the render writes, once it is known. -/
  target : Option Path := none
  admitted : Bool := false
  settled : Bool := false
  cancelRequested : Bool := false
  deriving Inhabited

namespace Job

def accepted (id : String) (startedAt : Binary64) (inputs : List Path) : Job :=
  { id, startedAt, inputs }

/-- A job after its encoder reported a percentage.  At a hundred it counts as
finished. -/
def advance (job : Job) (percent : Int) : Job :=
  let progress := min 100 percent
  { job with
    progress
    state := if 100 ≤ progress then .finished else job.state }

def finish (job : Job) (time : Binary64) (output : Path) : Job :=
  { job with
    state := .finished, output := some output, settled := true, finishedAt := some time }

def fail (job : Job) (time : Binary64) (failure : Failure) : Job :=
  { job with
    state := .failed, failure := some failure, settled := true, finishedAt := some time }

def settledAt (job : Job) : Binary64 :=
  job.finishedAt.getD 0

/-- The time up to which the duration of a job counts: its end, or else the present. -/
def countedUntil (job : Job) (now : Binary64) : Binary64 :=
  match job.finishedAt with
  -- An end at time zero counts as none.
  | some time => if time.equal 0 then now else time
  | none => now

def duration (job : Job) (now : Binary64) : Except NumericError Int :=
  ((job.countedUntil now - job.startedAt) * 1000).truncate

/-- The files of a job that must not be deleted while it is not settled. -/
def files (job : Job) : List Path :=
  job.inputs ++ job.target.toList

end Job

/-- What those who ask are told about a job. -/
structure Status where
  state : State
  progress : Int
  failure : Option Failure
  duration : Int
  deriving DecidableEq, Repr, Inhabited

namespace Job

def status (job : Job) (now : Binary64) : Except NumericError Status :=
  (job.duration now).map fun duration => ⟨job.state, job.progress, job.failure, duration⟩

end Job

end Montage.Jobs
