import Montage.Proofs.Filter.Program
import Mathlib.Data.List.Forall2

/-!
# Signals

A label stands for a signal: the operation of the statement that produces it, applied to
what the inputs of this statement stand for, down to raw streams.  Statements that are
added later do not change what a label stands for.
-/

namespace Montage.Filter

/-- A raw stream, or the result of an operation on other signals. -/
inductive Signal where
  | stream (reference : StreamRef)
  | result (operation : Operation) (sources : List Signal)

namespace Signal

def draw (picture : Signal) (drawings : List Drawing) : Signal :=
  drawings.foldl (fun shown drawing => .result (.drawText drawing) [shown]) picture

/-- Segments with their durations as one signal: a lone segment itself, or all of them
joined in order. -/
def join? (audio : Bool) : List (Signal × Binary64) → Option Signal
  | [] => none
  | [(segment, _)] => some segment
  | segments =>
      some (.result (.concat (segments.map (·.2)) audio) (segments.map (·.1)))

/-- Sound sources as one signal: a lone source resampled, or all of them mixed. -/
def mix? : List Signal → Option Signal
  | [] => none
  | [source] => some (.result .resample [source])
  | sources => some (.result .mix sources)

@[simp]
theorem join?_eq_none_iff {audio : Bool} {segments : List (Signal × Binary64)} :
    join? audio segments = none ↔ segments = [] := by
  match segments with
  | [] => simp [join?]
  | [_] => simp [join?]
  | _ :: _ :: _ => simp [join?]

@[simp]
theorem mix?_eq_none_iff {sources : List Signal} : mix? sources = none ↔ sources = [] := by
  match sources with
  | [] => simp [mix?]
  | [_] => simp [mix?]
  | _ :: _ :: _ => simp [mix?]

end Signal

/-- What a pad stands for behind statements, latest first.  A label is unfolded through
the statement that produces it, and the inputs of that statement through those before. -/
def signalBehind? : List Statement → Pad → Option Signal
  | _, .stream reference => some (.stream reference)
  | [], .label _ => none
  | statement :: earlier, .label name =>
      if statement.output = name then
        (statement.inputs.mapM fun pad => signalBehind? earlier pad).map
          (.result statement.operation)
      else signalBehind? earlier (.label name)

@[simp]
theorem signalBehind?_stream (statements : List Statement) (reference : StreamRef) :
    signalBehind? statements (.stream reference) = some (.stream reference) := by
  cases statements <;> rfl

theorem signalBehind?_output (statement : Statement) (earlier : List Statement) :
    signalBehind? (statement :: earlier) (.label statement.output) =
      (statement.inputs.mapM fun pad => signalBehind? earlier pad).map
        (.result statement.operation) := by
  simp [signalBehind?]

/-- Only labels that are produced stand for something. -/
theorem output_mem_of_signalBehind? {statements : List Statement} {name : String}
    {signal : Signal} (stands : signalBehind? statements (.label name) = some signal) :
    name ∈ statements.map (·.output) := by
  induction statements with
  | nil => simp [signalBehind?] at stands
  | cons statement earlier ih =>
      by_cases produces : statement.output = name
      · simp [produces]
      · simp only [signalBehind?, if_neg produces] at stands
        exact List.mem_cons_of_mem _ (ih stands)

theorem signalBehind?_cons_of_some {statement : Statement} {earlier : List Statement}
    {pad : Pad} {signal : Signal}
    (fresh : statement.output ∉ earlier.map (·.output))
    (stands : signalBehind? earlier pad = some signal) :
    signalBehind? (statement :: earlier) pad = some signal := by
  cases pad with
  | stream reference => simpa using stands
  | label name =>
      have other : statement.output ≠ name := by
        rintro rfl
        exact fresh (output_mem_of_signalBehind? stands)
      rw [signalBehind?, if_neg other]
      exact stands

theorem mapM_eq_some_of_forall₂ {α β : Type} {read : α → Option β} {items : List α}
    {values : List β}
    (reads : List.Forall₂ (fun item value => read item = some value) items values) :
    items.mapM read = some values := by
  induction reads with
  | nil => rfl
  | cons head _ ih => simp [head, ih]

namespace Program

def signal? (program : Program) (pad : Pad) : Option Signal :=
  signalBehind? program.statements.reverse pad

/-- What the labels of a program are produced by: its statements, in order. -/
def Tracked (program : Program) : Prop :=
  program.produced = program.statements.map (·.output)

def Carries (program : Program) (name : String) (signal : Signal) : Prop :=
  program.signal? (.label name) = some signal

theorem tracked_empty (inputCount : Int) : (empty inputCount).Tracked := rfl

variable {program after : Program} {statement : Statement}

theorem Tracked.add? (tracked : program.Tracked)
    (added : program.add? statement = .ok after) : after.Tracked := by
  obtain ⟨-, rfl⟩ := add?_ok added
  have outputs : program.produced = program.statements.map (·.output) := tracked
  simp [Tracked, outputs]

/-- The statements behind a new one leave its label to it. -/
theorem Tracked.fresh (tracked : program.Tracked)
    (added : program.add? statement = .ok after) :
    statement.output ∉ program.statements.reverse.map (·.output) := by
  have outputs : program.produced = program.statements.map (·.output) := tracked
  simpa [outputs] using (add?_ok added).1

/-- What a pad stands for is not changed by a further statement. -/
theorem signal?_add? (tracked : program.Tracked)
    (added : program.add? statement = .ok after) {pad : Pad} {signal : Signal}
    (stands : program.signal? pad = some signal) : after.signal? pad = some signal := by
  have fresh := tracked.fresh added
  obtain ⟨-, rfl⟩ := add?_ok added
  simp only [signal?, List.reverse_append, List.reverse_singleton,
    List.singleton_append]
  exact signalBehind?_cons_of_some fresh stands

/-- The label of a new statement stands for its operation on what its inputs stood
for. -/
theorem carries_output (added : program.add? statement = .ok after)
    {sources : List Signal}
    (stand : List.Forall₂ (fun pad signal => program.signal? pad = some signal)
      statement.inputs sources) :
    after.Carries statement.output (.result statement.operation sources) := by
  have read : (statement.inputs.mapM fun pad =>
      signalBehind? program.statements.reverse pad) = some sources :=
    mapM_eq_some_of_forall₂ stand
  obtain ⟨-, rfl⟩ := add?_ok added
  simp only [Carries, signal?, List.reverse_append, List.reverse_singleton,
    List.singleton_append]
  rw [signalBehind?_output, read, Option.map_some]

end Program

end Montage.Filter
