import Montage.Media.Settings

/-!
# Media processes

The table of media processes: those running, and the latest of those that ended.
-/

namespace Montage.Media

/-- How far a process has come. -/
inductive ProcessStatus where
  | running
  | done
  | failed
  deriving DecidableEq, Repr, Inhabited

namespace ProcessStatus

def name : ProcessStatus → String
  | .running => "running"
  | .done => "done"
  | .failed => "failed"

end ProcessStatus

/-- A media process.  Its number is the position of its start among all starts, and it
has a system identifier once it runs. -/
structure ToolProcess where
  number : Nat
  tool : String
  description : String
  status : ProcessStatus
  systemId : Nat
  error : String
  ended : Nat
  deriving DecidableEq, Repr, Inhabited

namespace ToolProcess

def id (process : ToolProcess) : String :=
  let number := Decimal.ofInt process.number
  s!"media-{process.tool}-{number}"

def isRunning (process : ToolProcess) : Bool :=
  process.status = .running

end ToolProcess

/-- The processes in start order, with the numbers of starts, ends and system
processes so far. -/
structure ProcessTable where
  processes : List ToolProcess := []
  starts : Nat := 0
  ends : Nat := 0
  systemProcesses : Nat := 0
  deriving Inhabited

namespace ProcessTable

def empty : ProcessTable := ⟨[], 0, 0, 0⟩

def kept : Nat := 50

def keptError : Nat := 500

def firstSystemId : Nat := 1000

def running (table : ProcessTable) : List ToolProcess :=
  table.processes.filter ToolProcess.isRunning

def describe (description : String) (command : List String) : String :=
  if description.isEmpty then Text.join " " (command.take 4) else description

def track (table : ProcessTable) (tool description : String) :
    ProcessTable × ToolProcess :=
  let process := ⟨table.starts + 1, tool, description, .running, 0, "", 0⟩
  ({ table with
      processes := table.processes ++ [process], starts := table.starts + 1 }, process)

/-- The table without the processes that ended before the latest ones. -/
def prune (table : ProcessTable) : ProcessTable :=
  let ends := (table.processes.filter fun process => !process.isRunning).map (·.ended)
  let dropped := (ends.mergeSort (· ≤ ·)).take (ends.length - kept)
  { table with
    processes := table.processes.filter fun process =>
      process.isRunning || process.ended ∉ dropped }

def settle (process : ToolProcess) (ended : Nat) (code : Int) (message : String) :
    ToolProcess :=
  if code = 0 then { process with status := .done, ended }
  else { process with status := .failed, ended, error := Text.suffix keptError message }

def finish (table : ProcessTable) (number : Nat) (code : Int) (message : String) :
    ProcessTable :=
  if table.processes.any (·.number == number) then
    prune { table with
      processes := table.processes.map fun process =>
        if process.number = number then settle process (table.ends + 1) code message
        else process
      ends := table.ends + 1 }
  else table

/-- The table after the process with an identifier ended. -/
def finishById (table : ProcessTable) (id : String) (code : Int) (message : String) :
    ProcessTable :=
  match table.processes.find? (·.id == id) with
  | some process => table.finish process.number code message
  | none => table

/-- The table after a start, and the process, which has a system identifier unless the
system refused it. -/
def start (table : ProcessTable) (tool description : String)
    (refusal : Option String) : ProcessTable × ToolProcess :=
  let (table, process) := table.track tool description
  match refusal with
  | some reason => (table.finish process.number (-1) reason, process)
  | none =>
      let systemId := firstSystemId + table.systemProcesses + 1
      let process := { process with systemId }
      ({ table with
          processes := table.processes.map fun other =>
            if other.number = process.number then process else other
          systemProcesses := table.systemProcesses + 1 }, process)

def run (table : ProcessTable) (tool description : String) (code : Int)
    (message : String) : ProcessTable :=
  let (table, process) := table.track tool description
  table.finish process.number code message

end ProcessTable

end Montage.Media
