import Montage.Proofs.Filter.Building
import Montage.Proofs.Filter.Refusals
import Montage.Proofs.Filter.Validity

/-!
# Programs under any edits

Whatever statements a program is offered, and however many inputs are added in between, it holds
the statements that it took, in the order of the offers.  Each of them reads labels of earlier
ones and streams of inputs that are there, and no label is produced twice or read twice.  A
refused statement may leave labels marked that nothing reads; such marks keep statements out, and
let none in.
-/

namespace Montage.Filter.Program

variable {program after : Program} {statement : Statement} {pads : List Pad}
  {reason : GraphError}

/-- What is done with a program: a statement is offered to it, or inputs are added. -/
inductive Edit where
  | offer (statement : Statement)
  | widen (inputs : Nat)

def widen (program : Program) (inputs : Nat) : Program :=
  { program with inputCount := program.inputCount + inputs }

def edit (program : Program) : Edit → Program
  | .offer statement => (program.add statement).1
  | .widen inputs => program.widen inputs

def editAll (program : Program) (edits : List Edit) : Program :=
  edits.foldl edit program

/-- The statement that is taken by an edit: the one that is offered, unless it is refused. -/
def taken? (program : Program) : Edit → Option Statement
  | .offer statement =>
      match program.add statement with
      | (_, none) => some statement
      | (_, some _) => none
  | .widen _ => none

/-- The statements that are taken by edits, in the order in which they are offered. -/
def taken : Program → List Edit → List Statement
  | _, [] => []
  | program, change :: changes =>
      (program.taken? change).toList ++ (program.edit change).taken changes

def readLabels (program : Program) : List String :=
  program.statements.flatMap fun statement => statement.inputs.filterMap Pad.label?

section Steps

theorem add_none_iff :
    program.add statement = (after, none) ↔ program.add? statement = .ok after := by
  unfold add?
  rcases program.add statement with ⟨next, reason | reason⟩
  · simp
  · simp

/-- A program with sound marks: every label that its statements produce is known, every label
that they read is marked, and no mark is set twice. -/
structure Marked (program : Program) : Prop where
  tracked : program.Tracked
  causal : program.Causal
  fresh : program.produced.Nodup
  marks : program.readLabels.Sublist program.consumed
  once : program.consumed.Nodup

theorem marked_empty (inputCount : Int) : (empty inputCount).Marked :=
  ⟨tracked_empty inputCount, ⟨by simp [empty], by simp [empty]⟩, List.nodup_nil, .refl _,
    List.nodup_nil⟩

theorem Marked.widen (marked : program.Marked) (inputs : Nat) : (program.widen inputs).Marked := by
  refine ⟨marked.tracked, ⟨marked.causal.earlier, fun statement member reference reads => ?_⟩,
    marked.fresh, marked.marks, marked.once⟩
  obtain ⟨nonneg, below⟩ := marked.causal.indexed statement member reference reads
  have wider : (program.widen inputs).inputCount = program.inputCount + inputs := rfl
  omega

theorem nodup_consumed_reading (once : program.consumed.Nodup) (readable : program.Readable pads) :
    (program.reading pads).consumed.Nodup := by
  refine List.nodup_append.mpr ⟨once, readable.once, fun label before other here same => ?_⟩
  exact readable.unread other here (same ▸ before)

/-- Marks that a refused statement leaves behind are on labels that nothing has read. -/
theorem Marked.reading (marked : program.Marked) (readable : program.Readable pads) :
    (program.reading pads).Marked :=
  ⟨marked.tracked, ⟨marked.causal.earlier, marked.causal.indexed⟩, marked.fresh,
    marked.marks.trans (List.sublist_append_left _ _),
    nodup_consumed_reading marked.once readable⟩

/-- A statement that is taken reads labels without a mark and produces a new one. -/
theorem Marked.add? (marked : program.Marked) (added : program.add? statement = .ok after) :
    after.Marked := by
  have tracked := marked.tracked.add? added
  have causal := marked.causal.add? marked.tracked added
  obtain ⟨readable, new, rfl⟩ := add?_ok_iff.mp added
  refine ⟨tracked, causal, ?_, ?_, nodup_consumed_reading marked.once readable⟩
  · refine List.nodup_append.mpr ⟨marked.fresh, List.nodup_singleton _, ?_⟩
    intro label before other here same
    exact new (List.mem_singleton.mp here ▸ same ▸ before)
  · have labels : readLabels ⟨program.statements ++ [statement], program.inputCount,
        program.produced ++ [statement.output],
        program.consumed ++ statement.inputs.filterMap Pad.label?⟩ =
        program.readLabels ++ statement.inputs.filterMap Pad.label? := by
      simp [readLabels]
    rw [labels]
    exact marked.marks.append (List.Sublist.refl _)

/-- An edit adds the statement that it takes to the end, and leaves sound marks. -/
theorem Marked.edit (marked : program.Marked) (change : Edit) :
    (program.edit change).Marked ∧
      (program.edit change).statements = program.statements ++ (program.taken? change).toList := by
  cases change with
  | widen inputs => exact ⟨marked.widen inputs, (List.append_nil _).symm⟩
  | offer statement =>
      rcases offered : program.add statement with ⟨after, reason | reason⟩
      · have added := add_none_iff.mp offered
        obtain ⟨-, grown⟩ := add?_ok added
        simp only [Program.edit, taken?, offered]
        exact ⟨marked.add? added, by rw [grown]; rfl⟩
      · obtain ⟨read, refused, rfl⟩ := add_some_iff.mp offered
        simp only [Program.edit, taken?, offered]
        exact ⟨marked.reading refused.readable, (List.append_nil _).symm⟩

theorem Marked.editAll (marked : program.Marked) (edits : List Edit) :
    (program.editAll edits).Marked ∧
      (program.editAll edits).statements = program.statements ++ program.taken edits := by
  induction edits generalizing program with
  | nil => exact ⟨marked, (List.append_nil _).symm⟩
  | cons change edits ih =>
      obtain ⟨marked', grown⟩ := marked.edit change
      obtain ⟨last, whole⟩ := ih marked'
      refine ⟨last, ?_⟩
      rw [taken, ← List.append_assoc, ← grown]
      exact whole

end Steps

section Wiring

/-- Statements of a program that fit together: what they read stands before them, no label is
produced twice, and none is read by two of them, or twice by one. -/
structure FitsTogether (program : Program) : Prop where
  causal : program.Causal
  producedOnce : (program.statements.map Statement.output).Nodup
  readByOne : ∀ label, (program.readers label).length ≤ 1
  readOnce : ∀ statement ∈ program.statements, ∀ label,
    statement.inputs.count (.label label) ≤ 1

theorem count_filterMap_label? (pads : List Pad) (label : String) :
    (pads.filterMap Pad.label?).count label = pads.count (.label label) := by
  rw [List.count, List.countP_filterMap, List.count]
  refine List.countP_congr fun pad _ => ?_
  cases pad with
  | stream reference => simp [Pad.label?]
  | label name => simp [Pad.label?]

theorem Marked.fitsTogether (marked : program.Marked) : program.FitsTogether := by
  have once : program.readLabels.Nodup := marked.marks.nodup marked.once
  refine ⟨marked.causal, ?_, fun label => ?_, fun statement member label => ?_⟩
  · rw [← show program.produced = program.statements.map Statement.output from marked.tracked]
    exact marked.fresh
  · obtain ⟨bound, -⟩ := readers_bounds program.statements label
    exact bound.trans (List.nodup_iff_count_le_one.mp once label)
  · have part := (List.nodup_flatMap.mp once).1 statement member
    rw [← count_filterMap_label?]
    exact List.nodup_iff_count_le_one.mp part label

/-- Whatever is offered to a new program, and however many inputs it is given on the way, it holds
the statements that it took, in the order of the offers, and these fit together. -/
theorem statements_eq_taken_and_fitTogether (inputCount : Int) (edits : List Edit) :
    ((empty inputCount).editAll edits).statements = (empty inputCount).taken edits ∧
      ((empty inputCount).editAll edits).FitsTogether := by
  obtain ⟨marked, grown⟩ := (marked_empty inputCount).editAll edits
  exact ⟨grown, marked.fitsTogether⟩

/-- A refused reader of `a0` keeps the next one out, and a stream is taken once its input is
there. -/
example :
    ((empty 1).taken [.offer ⟨[.stream ⟨0, "a"⟩], "a0", .resample⟩,
      .offer ⟨[.label "a0", .label "nowhere"], "x", .resample⟩,
      .offer ⟨[.stream ⟨1, "a"⟩], "a1", .resample⟩, .widen 1,
      .offer ⟨[.stream ⟨1, "a"⟩], "a1", .resample⟩,
      .offer ⟨[.label "a0"], "aout", .resample⟩]).map Statement.output = ["a0", "a1"] := by
  decide +kernel

end Wiring

end Montage.Filter.Program
