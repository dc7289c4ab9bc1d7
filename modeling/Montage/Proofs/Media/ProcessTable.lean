import Montage.Media.ProcessTable

/-!
# Running processes

A start lists its process as running and an end takes it from the list, and neither has a
part in the other running processes.  Numbers of processes are never used again.
-/

namespace Montage.Media

theorem ToolProcess.isRunning_settle (process : ToolProcess) (ended : Nat) (code : Int)
    (message : String) : (ProcessTable.settle process ended code message).isRunning = false := by
  unfold ProcessTable.settle
  split <;> rfl

namespace ProcessTable

/-- Tables that come from the empty one by starts and ends of processes. -/
inductive Reached : ProcessTable → Prop
  | empty : Reached empty
  | start {table : ProcessTable} (reached : Reached table) (tool description : String)
      (refusal : Option String) : Reached (table.start tool description refusal).1
  | finish {table : ProcessTable} (reached : Reached table) (number : Nat) (code : Int)
      (message : String) : Reached (table.finish number code message)
  | run {table : ProcessTable} (reached : Reached table) (tool description : String)
      (code : Int) (message : String) : Reached (table.run tool description code message)

def Numbered (table : ProcessTable) : Prop :=
  ∀ process ∈ table.processes, process.number ≤ table.starts

variable {table : ProcessTable} {tool description message : String} {number : Nat}
  {code : Int}

theorem running_prune (table : ProcessTable) : table.prune.running = table.running := by
  unfold running prune
  rw [List.filter_filter]
  refine List.filter_congr fun process _ => ?_
  cases process.isRunning <;> simp

/-- An end takes the processes with its number from those that run, and no other. -/
theorem running_finish (table : ProcessTable) (number : Nat) (code : Int) (message : String) :
    (table.finish number code message).running =
      table.running.filter (·.number ≠ number) := by
  unfold finish
  split
  next =>
    rw [running_prune]
    simp only [running, List.filter_filter]
    induction table.processes with
    | nil => rfl
    | cons process processes ih =>
        by_cases same : process.number = number
        · simp [same, ToolProcess.isRunning_settle, ih]
        · simp [same, List.filter_cons, ih]
  next unknown =>
    have others : ∀ process ∈ table.running, (process.number ≠ number : Bool) = true := by
      intro process member
      have listed := (List.mem_filter.mp member).1
      simp only [List.any_eq_true, beq_iff_eq, not_exists, not_and] at unknown
      simpa using unknown process listed
    exact (List.filter_eq_self.mpr others).symm

section Numbers

theorem numbered_track (numbered : table.Numbered) : (table.track tool description).1.Numbered := by
  intro process member
  rcases List.mem_append.mp member with earlier | last
  · exact Nat.le_succ_of_le (numbered process earlier)
  · rw [List.mem_singleton.mp last]
    exact Nat.le_refl _

theorem numbered_finish (numbered : table.Numbered) :
    (table.finish number code message).Numbered := by
  unfold finish
  split
  next =>
    intro process member
    have settled := (List.mem_filter.mp member).1
    obtain ⟨earlier, listed, rfl⟩ := List.mem_map.mp settled
    have bounded := numbered earlier listed
    split
    · unfold settle
      split <;> exact bounded
    · exact bounded
  next => exact numbered

theorem Reached.numbered (reached : table.Reached) : table.Numbered := by
  induction reached with
  | empty => simp [Numbered, ProcessTable.empty]
  | @start table reached tool description refusal ih =>
      cases refusal with
      | some reason => exact numbered_finish (numbered_track ih)
      | none =>
          intro process member
          obtain ⟨tracked, listed, rfl⟩ := List.mem_map.mp member
          split
          · exact Nat.le_refl _
          · exact numbered_track ih tracked listed
  | finish reached number code message ih => exact numbered_finish ih
  | run reached tool description code message ih => exact numbered_finish (numbered_track ih)

theorem Numbered.filter_running (numbered : table.Numbered) (later : table.starts < number) :
    table.running.filter (·.number ≠ number) = table.running := by
  refine List.filter_eq_self.mpr fun process member => ?_
  have bounded := numbered process (List.mem_filter.mp member).1
  have other : process.number ≠ number := by omega
  simpa using other

end Numbers

section Starts

theorem running_track (table : ProcessTable) (tool description : String) :
    (table.track tool description).1.running =
      table.running ++ [(table.track tool description).2] := by
  simp [track, running, ToolProcess.isRunning]

theorem running_start_refused (numbered : table.Numbered) (tool description reason : String) :
    (table.start tool description (some reason)).1.running = table.running := by
  have later : table.starts < (table.track tool description).2.number :=
    Nat.lt_add_one table.starts
  have refused : (table.start tool description (some reason)).1 =
      (table.track tool description).1.finish (table.track tool description).2.number (-1)
        reason := rfl
  rw [refused, running_finish, running_track, List.filter_append,
    numbered.filter_running later]
  simp

/-- A process that is started is listed as the last of those that run. -/
theorem running_start (numbered : table.Numbered) (tool description : String) :
    (table.start tool description none).1.running =
      table.running ++ [(table.start tool description none).2] := by
  let process := (table.start tool description none).2
  -- The number of the new process is above all others, so only that process is changed.
  have earlier : table.processes.map (fun other =>
      if other.number = table.starts + 1 then process else other) = table.processes := by
    refine (List.map_congr_left fun (other : ToolProcess) member => if_neg ?_).trans
      (List.map_id _)
    have bounded := numbered other member
    omega
  change ((table.processes ++ [_]).map fun (other : ToolProcess) =>
    if other.number = table.starts + 1 then process else other).filter _ = _
  rw [List.map_append, earlier, List.filter_append]
  simp [running, process, start, track, ToolProcess.isRunning]

theorem running_finish_start (numbered : table.Numbered) (tool description : String)
    (code : Int) (message : String) :
    ((table.start tool description none).1.finish (table.start tool description none).2.number
      code message).running = table.running := by
  have later : table.starts < (table.start tool description none).2.number :=
    Nat.lt_add_one table.starts
  rw [running_finish, running_start numbered, List.filter_append,
    numbered.filter_running later]
  simp

end Starts

end ProcessTable

end Montage.Media
