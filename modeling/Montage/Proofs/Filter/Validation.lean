import Montage.Proofs.Filter.Validity

/-!
# What validation decides

A program is sealed by its terminal labels if these are exactly the labels that its statements
produce and that none of them reads.  Validation finds out that terminal labels are produced
and that no other label is left open, but not that a terminal label is read by a statement.
-/

namespace Montage.Filter.Program

variable {program after : Program} {statement : Statement} {label video : String}
  {audio : Option String}

/-- Programs of statements that were taken one after another, for a number of inputs that may
change on the way. -/
inductive Built : Program → Prop where
  | empty (inputCount : Int) : Built (empty inputCount)
  | add {program after : Program} {statement : Statement} (built : Built program)
      (taken : program.add? statement = .ok after) : Built after
  | resize {program : Program} (built : Built program) (inputCount : Int) :
      Built { program with inputCount }

/-- A program that remembers the labels of its statements, and what they read. -/
structure Recorded (program : Program) : Prop where
  produced : program.produced = program.statements.map Statement.output
  consumed : program.consumed =
    program.statements.flatMap fun statement => statement.inputs.filterMap Pad.label?

theorem Recorded.add? (recorded : program.Recorded)
    (taken : program.add? statement = .ok after) : after.Recorded := by
  obtain ⟨-, rfl⟩ := add?_ok taken
  constructor
  · simp [recorded.produced]
  · simp [recorded.consumed]

theorem Built.recorded (built : program.Built) : program.Recorded := by
  induction built with
  | empty inputCount => exact ⟨rfl, rfl⟩
  | add built taken recorded => exact recorded.add? taken
  | resize built inputCount recorded => exact ⟨recorded.produced, recorded.consumed⟩

def LeavesOpen (program : Program) (label : String) : Prop :=
  label ∈ program.statements.map Statement.output ∧ program.readers label = []

def SealedBy (program : Program) (terminal : List String) : Prop :=
  ∀ label, program.LeavesOpen label ↔ label ∈ terminal

theorem Recorded.mem_consumed_iff (recorded : program.Recorded) :
    label ∈ program.consumed ↔ program.readers label ≠ [] := by
  have bounds := readers_bounds program.statements label
  rw [← recorded.consumed] at bounds
  change (program.readers label).length ≤ _ ∧ (_ → 0 < (program.readers label).length) at bounds
  rw [← List.count_pos_iff, ← List.length_pos_iff]
  omega

theorem Recorded.leavesOpen_iff (recorded : program.Recorded) :
    program.LeavesOpen label ↔ label ∈ program.produced ∧ label ∉ program.consumed := by
  rw [LeavesOpen, recorded.produced, recorded.mem_consumed_iff, not_not]

/-- An empty label stands for no sound. -/
theorem mem_terminals_iff :
    label ∈ terminals video audio ↔ label = video ∨ audio = some label ∧ label ≠ "" := by
  cases audio with
  | none => simp [terminals]
  | some sound =>
      have listed : label ∈ terminals video (some sound) ↔
          label = video ∨ (sound ≠ "" ∧ sound ≠ video) ∧ sound = label := by
        simp [terminals, Option.filter_some]
      rw [listed]
      constructor
      · rintro (picture | ⟨⟨named, -⟩, rfl⟩)
        · exact .inl picture
        · exact .inr ⟨rfl, named⟩
      · rintro (picture | ⟨same, named⟩)
        · exact .inl picture
        · obtain rfl := Option.some.inj same
          by_cases shared : sound = video
          · exact .inl shared
          · exact .inr ⟨⟨named, shared⟩, rfl⟩

theorem validate_ok_iff :
    program.validate video audio = .ok () ↔
      (∀ label ∈ terminals video audio, label ∈ program.produced) ∧
        ∀ label ∈ program.produced, label ∉ program.consumed → label ∈ terminals video audio := by
  have nothingMissing :
      (terminals video audio).filter (· ∉ program.produced) = [] ↔
        ∀ label ∈ terminals video audio, label ∈ program.produced := by
    simp [List.filter_eq_nil_iff]
  have nothingDangling :
      program.produced.filter (fun label =>
          label ∉ program.consumed ∧ label ∉ terminals video audio) = [] ↔
        ∀ label ∈ program.produced, label ∉ program.consumed → label ∈ terminals video audio := by
    simp [List.filter_eq_nil_iff]
  have verdict : ∀ (missing dangling : List String) (absent unread : GraphError),
      (if ¬ missing.isEmpty then Except.error absent
        else if ¬ dangling.isEmpty then .error unread else .ok ()) = .ok () ↔
          missing = [] ∧ dangling = [] := by
    intro missing dangling absent unread
    cases missing <;> cases dangling <;> simp
  rw [← nothingMissing, ← nothingDangling]
  exact verdict _ _ _ _

/-- A program is sealed if validation accepts it and no statement reads a terminal label. -/
theorem Recorded.sealedBy_iff (recorded : program.Recorded) :
    program.SealedBy (terminals video audio) ↔
      program.validate video audio = .ok () ∧
        ∀ label ∈ terminals video audio, program.readers label = [] := by
  rw [validate_ok_iff]
  constructor
  · intro whole
    refine ⟨⟨fun label member => ?_, fun label produced unread => ?_⟩, fun label member => ?_⟩
    · exact (recorded.leavesOpen_iff.mp ((whole label).mpr member)).1
    · exact (whole label).mp (recorded.leavesOpen_iff.mpr ⟨produced, unread⟩)
    · exact ((whole label).mpr member).2
  · rintro ⟨⟨produced, mapped⟩, unread⟩ label
    constructor
    · intro opened
      obtain ⟨produced, unread⟩ := recorded.leavesOpen_iff.mp opened
      exact mapped label produced unread
    · intro member
      exact ⟨recorded.produced ▸ produced label member, unread label member⟩

/-- Validation accepts a program exactly if its terminal labels are produced and no other label is
left open.  It decides whether the program is sealed unless a terminal label of a program that
it accepts is read by a statement. -/
theorem Built.validate_decides_iff (built : program.Built) (video : String)
    (audio : Option String) :
    (∀ label, label ∈ terminals video audio ↔ label = video ∨ audio = some label ∧ label ≠ "") ∧
    (program.validate video audio = .ok () ↔
      (∀ label ∈ terminals video audio, label ∈ program.statements.map Statement.output) ∧
        ∀ label, program.LeavesOpen label → label ∈ terminals video audio) ∧
    ((program.validate video audio = .ok () ↔ program.SealedBy (terminals video audio)) ↔
      (program.validate video audio = .ok () →
        ∀ label ∈ terminals video audio, program.readers label = [])) := by
  have recorded := built.recorded
  refine ⟨fun label => mem_terminals_iff, ?_, ?_⟩
  · rw [validate_ok_iff, recorded.produced]
    refine and_congr_right fun _ => forall_congr' fun label => ?_
    rw [recorded.leavesOpen_iff, recorded.produced, and_imp]
  · rw [recorded.sealedBy_iff]
    exact ⟨fun decides accepted => (decides.mp accepted).2,
      fun unread => ⟨fun accepted => ⟨accepted, unread accepted⟩, And.left⟩⟩

/-- A picture in two steps, the second of which reads the label of the first. -/
def twoSteps : Program where
  statements := [⟨[.stream ⟨0, "v"⟩], "v0", .scale "null"⟩, ⟨[.label "v0"], "t0", .scale "null"⟩]
  inputCount := 1
  produced := ["v0", "t0"]
  consumed := ["v0"]

theorem built_twoSteps : twoSteps.Built := by
  let fitted : Statement := ⟨[.stream ⟨0, "v"⟩], "v0", .scale "null"⟩
  let titled : Statement := ⟨[.label "v0"], "t0", .scale "null"⟩
  have first : (empty 1).add? fitted = .ok ⟨[fitted], 1, ["v0"], []⟩ := rfl
  have second : add? ⟨[fitted], 1, ["v0"], []⟩ titled = .ok twoSteps := rfl
  exact .add (.add (.empty 1) first) second

/-- The second step alone is left open, and validation decides so. -/
theorem validate_decides_twoSteps :
    twoSteps.validate "t0" none = .ok () ∧ twoSteps.SealedBy (terminals "t0" none) := by
  have accepted : twoSteps.validate "t0" none = .ok () := by rfl
  have unread : ∀ label ∈ terminals "t0" none, twoSteps.readers label = [] := by decide
  have decides := (built_twoSteps.validate_decides_iff "t0" none).2.2.mpr fun _ => unread
  exact ⟨accepted, decides.mp accepted⟩

/-- Validation accepts a terminal label although the second step reads it. -/
theorem validate_accepts_readTerminal :
    twoSteps.Built ∧ twoSteps.validate "v0" (some "t0") = .ok () ∧
      ¬ twoSteps.SealedBy (terminals "v0" (some "t0")) := by
  refine ⟨built_twoSteps, rfl, fun whole => ?_⟩
  have unread : twoSteps.readers "v0" = [] := ((whole "v0").mpr (by decide)).2
  exact absurd unread (by decide)

end Montage.Filter.Program
