import Montage.Proofs.Media.ProcessTable
import Montage.Proofs.Numeric.Digits
import Mathlib.Data.List.Nodup
import Mathlib.Data.List.Range

/-!
# The ledger of processes

A ledger of all starts and ends, from which nothing is ever dropped, gives the table of processes
at every moment: the processes that were started and have not ended, and those that ended last.
-/

namespace Montage.Media

open scoped List

/-- The end of a process, as it is reported. -/
structure ProcessEnd where
  id : String
  code : Int
  message : String

/-- All starts and ends of processes so far, and the number of processes that the system took
on. -/
structure Ledger where
  started : List ToolProcess := []
  ended : List ProcessEnd := []
  systemProcesses : Nat := 0

/-- What happens to media processes. -/
inductive Act where
  /-- A process is started, unless the system refuses it for a reason. -/
  | start (tool description : String) (refusal : Option String)
  | run (tool description : String) (code : Int) (message : String)
  | launch (tool description : String)
  | finish (id : String) (code : Int) (message : String)

namespace ToolProcess

variable {process other : ToolProcess}

/-- The number of a process stands behind the last dash of its identifier. -/
theorem number_eq_of_id (same : process.id = other.id) : process.number = other.number := by
  have digits : ∀ number : Nat, '-' ∉ (Decimal.ofInt number).toList := fun number member =>
    absurd (Decimal.isDigit_of_mem_ofInt member) (by decide)
  have parts : ∀ process : ToolProcess, process.id.toList =
      ("media-" ++ process.tool).toList ++ '-' :: (Decimal.ofInt process.number).toList := by
    intro process
    simp [id, toString, String.toList_append]
  have texts := congrArg (fun text : String => text.toList.reverse.takeWhile (· ≠ '-')) same
  have behind : ∀ process : ToolProcess, process.id.toList.reverse.takeWhile (· ≠ '-') =
      (Decimal.ofInt process.number).toList.reverse := by
    intro process
    rw [parts, List.reverse_append, List.reverse_cons, List.append_assoc,
      List.takeWhile_append_of_pos]
    · simp
    · intro character member
      simpa using fun dash : character = '-' =>
        digits process.number (dash ▸ List.mem_reverse.mp member)
  simp only [behind] at texts
  exact Decimal.ofInt_natCast_injective (String.toList_inj.mp (List.reverse_injective texts))

@[simp]
theorem number_settle (process : ToolProcess) (ended : Nat) (code : Int) (message : String) :
    (ProcessTable.settle process ended code message).number = process.number := by
  unfold ProcessTable.settle
  split <;> rfl

@[simp]
theorem id_settle (process : ToolProcess) (ended : Nat) (code : Int) (message : String) :
    (ProcessTable.settle process ended code message).id = process.id := by
  unfold ProcessTable.settle
  split <;> rfl

end ToolProcess

namespace ProcessTable

variable {table : ProcessTable}

end ProcessTable

namespace Ledger

variable {ledger : Ledger} {process other : ToolProcess} {id : String} {code : Int}
  {message : String}

def next (ledger : Ledger) (tool description : String) (systemId : Nat) : ToolProcess :=
  ⟨ledger.started.length + 1, tool, description, .running, systemId, "", 0⟩

def enter (ledger : Ledger) (process : ToolProcess) : Ledger :=
  { ledger with started := ledger.started ++ [process] }

def conclude (ledger : Ledger) (id : String) (code : Int) (message : String) : Ledger :=
  { ledger with ended := ledger.ended ++ [⟨id, code, message⟩] }

/-- The identifiers of the processes that ended, in the order of their ends. -/
def endedIds (ledger : Ledger) : List String :=
  ledger.ended.map (·.id)

@[simp]
theorem endedIds_conclude :
    (ledger.conclude id code message).endedIds = ledger.endedIds ++ [id] :=
  List.map_append

/-- The ledger after something happened.  Only processes that were started end. -/
def record (ledger : Ledger) : Act → Ledger
  | .start tool description none =>
      let systemId := ProcessTable.firstSystemId + ledger.systemProcesses + 1
      { ledger.enter (ledger.next tool description systemId) with
        systemProcesses := ledger.systemProcesses + 1 }
  | .start tool description (some reason) =>
      let process := ledger.next tool description 0
      (ledger.enter process).conclude process.id (-1) reason
  | .run tool description code message =>
      let process := ledger.next tool description 0
      (ledger.enter process).conclude process.id code message
  | .launch tool description => ledger.enter (ledger.next tool description 0)
  | .finish id code message =>
      if id ∈ ledger.started.map (·.id) then ledger.conclude id code message else ledger

def endOf? (ledger : Ledger) (process : ToolProcess) : Option (ProcessEnd × Nat) :=
  (ledger.ended.zipIdx 1).find? fun entry => entry.1.id == process.id

/-- A process as it stands after its end. -/
def now (ledger : Ledger) (process : ToolProcess) : ToolProcess :=
  match ledger.endOf? process with
  | none => process
  | some (ending, position) =>
      ProcessTable.settle process position ending.code ending.message

/-- Whether a process is running or among the last that ended. -/
def shows (ledger : Ledger) (process : ToolProcess) : Bool :=
  match ledger.endOf? process with
  | none => true
  | some (_, position) => ledger.ended.length < position + ProcessTable.kept

def table (ledger : Ledger) : ProcessTable :=
  ⟨(ledger.started.filter ledger.shows).map ledger.now, ledger.started.length,
    ledger.ended.length, ledger.systemProcesses⟩

/-- What holds of every ledger: processes are numbered as they start, and each ends at most
once. -/
structure Sound (ledger : Ledger) : Prop where
  numbers : ledger.started.map (·.number) = List.range' 1 ledger.started.length
  running : ∀ process ∈ ledger.started, process.isRunning = true
  known : ∀ id ∈ ledger.endedIds, id ∈ ledger.started.map (·.id)
  once : ledger.endedIds.Nodup

theorem Sound.nodup_numbers (sound : ledger.Sound) :
    (ledger.started.map (·.number)).Nodup := by
  rw [sound.numbers]
  exact List.nodup_range'

theorem Sound.eq_of_number (sound : ledger.Sound) (member : process ∈ ledger.started)
    (member' : other ∈ ledger.started) (same : process.number = other.number) :
    process = other :=
  List.inj_on_of_nodup_map sound.nodup_numbers member member' same

theorem Sound.eq_of_id (sound : ledger.Sound) (member : process ∈ ledger.started)
    (member' : other ∈ ledger.started) (same : process.id = other.id) : process = other :=
  sound.eq_of_number member member' (ToolProcess.number_eq_of_id same)

theorem Sound.number_le (sound : ledger.Sound) (member : process ∈ ledger.started) :
    process.number ≤ ledger.started.length := by
  have listed := List.mem_map_of_mem (f := (·.number)) member
  rw [sound.numbers, List.mem_range'_1] at listed
  omega

section Ends

end Ends

section Steps

variable {tool description : String}

theorem Sound.enter (sound : ledger.Sound) (number : process.number = ledger.started.length + 1)
    (running : process.isRunning = true) : (ledger.enter process).Sound where
  numbers := by
    simp [Ledger.enter, sound.numbers, number, List.range'_1_concat, Nat.add_comm]
  running := by
    intro other member
    rcases List.mem_append.mp member with earlier | last
    · exact sound.running other earlier
    · rw [List.mem_singleton.mp last]
      exact running
  known := by
    intro id listed
    rw [Ledger.enter, List.map_append]
    exact List.mem_append_left _ (sound.known id listed)
  once := sound.once

theorem Sound.conclude (sound : ledger.Sound) (member : process ∈ ledger.started)
    (goesOn : process.id ∉ ledger.endedIds) : (ledger.conclude process.id code message).Sound where
  numbers := sound.numbers
  running := sound.running
  known := by
    intro id listed
    rw [endedIds_conclude] at listed
    rcases List.mem_append.mp listed with earlier | last
    · exact sound.known id earlier
    · rw [List.mem_singleton.mp last]
      exact List.mem_map_of_mem member
  once := by
    rw [endedIds_conclude]
    refine List.nodup_append.mpr ⟨sound.once, List.nodup_singleton _, ?_⟩
    rintro id listed _ last rfl
    exact goesOn (List.mem_singleton.mp last ▸ listed)

theorem Sound.goesOn_of_number (sound : ledger.Sound)
    (number : process.number = ledger.started.length + 1) : process.id ∉ ledger.endedIds := by
  intro listed
  obtain ⟨other, member, same⟩ := List.mem_map.mp (sound.known _ listed)
  have bound := sound.number_le member
  have equal := ToolProcess.number_eq_of_id same
  omega

section Positions

variable {shown : ToolProcess → Bool} {position : Nat}

end Positions

section Conclusion

variable (sound : ledger.Sound) (member : process ∈ ledger.started)
  (goesOn : process.id ∉ ledger.endedIds)

include sound member goesOn

end Conclusion

end Steps

end Ledger

namespace ProcessTable

/-- The table after something happened, with the processes that it took on at that. -/
def perform (table : ProcessTable) : Act → ProcessTable × List ToolProcess
  | .start tool description refusal =>
      let (table, process) := table.start tool description refusal
      (table, [process])
  | .run tool description code message =>
      (table.run tool description code message, [(table.track tool description).2])
  | .launch tool description =>
      let (table, process) := table.track tool description
      (table, [process])
  | .finish id code message => (table.finishById id code message, [])

/-- The table after all that happened, with all processes that it took on, as they were then. -/
def performAll (table : ProcessTable) : List Act → ProcessTable × List ToolProcess
  | [] => (table, [])
  | act :: acts =>
      let (table, first) := table.perform act
      let (table, rest) := table.performAll acts
      (table, first ++ rest)

end ProcessTable

namespace Ledger

variable {ledger : Ledger} {process : ToolProcess} {id tool description : String} {code : Int}
  {message : String}

/-- Whether something that happens is not the end of a process that has ended. -/
def Allows (ledger : Ledger) : Act → Prop
  | .finish id _ _ => id ∉ ledger.endedIds
  | _ => True

def EndsOnce (ledger : Ledger) : List Act → Prop
  | [] => True
  | act :: acts => ledger.Allows act ∧ (ledger.record act).EndsOnce acts

theorem Sound.record (sound : ledger.Sound) {act : Act} (allowed : ledger.Allows act) :
    (ledger.record act).Sound := by
  have entered (process : ToolProcess) (number : process.number = ledger.started.length + 1)
      (running : process.isRunning = true) (code : Int) (message : String) :
      ((ledger.enter process).conclude process.id code message).Sound :=
    (sound.enter number running).conclude
      (List.mem_append_right _ (List.mem_singleton_self _)) (sound.goesOn_of_number number)
  cases act with
  | start tool description refusal =>
      cases refusal with
      | none =>
          have after : (ledger.enter (ledger.next tool description
              (ProcessTable.firstSystemId + ledger.systemProcesses + 1))).Sound :=
            sound.enter rfl rfl
          exact ⟨after.numbers, after.running, after.known, after.once⟩
      | some reason => exact entered _ rfl rfl _ _
  | run tool description code message => exact entered _ rfl rfl _ _
  | launch tool description => exact sound.enter rfl rfl
  | finish id code message =>
      rw [Ledger.record]
      split
      next listed =>
        obtain ⟨process, member, rfl⟩ := List.mem_map.mp listed
        exact sound.conclude member allowed
      next => exact sound

section Reports

/-- What a table says of the processes in a ledger: which of them run, in the order of their
starts, and which of them ended last. -/
structure Tells (ledger : Ledger) (table : ProcessTable) : Prop where
  apart : (ledger.started.map (·.id)).Nodup
  running : table.running = ledger.started.filter fun process => process.id ∉ ledger.endedIds
  latest : (table.processes.filter fun process => !process.isRunning).map (·.id) ~
    ledger.endedIds.drop (ledger.endedIds.length - ProcessTable.kept)
  few : (table.processes.filter fun process => !process.isRunning).length ≤ ProcessTable.kept

theorem EndsOnce.of_append {before behind : List Act} (once : ledger.EndsOnce (before ++ behind)) :
    ledger.EndsOnce before := by
  induction before generalizing ledger with
  | nil => exact trivial
  | cons act before ih => exact ⟨once.1, ih once.2⟩

end Reports

end Ledger

namespace ProcessTable

end ProcessTable

end Montage.Media
