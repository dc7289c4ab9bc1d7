import Mathlib.Data.List.TFAE
import Mathlib.Tactic.TFAE
import Montage.Proofs.Filter.Program

/-!
# Refused statements

A refused statement leaves a program as it was, except that the labels of the pads that were
read before the refusal stay marked as consumed.  Where there is one such label, a later call
gives another answer than it would have given without the refused one.
-/

namespace Montage.Filter.Program

variable {program after : Program} {statement : Statement} {pad : Pad} {pads : List Pad}
  {reason : GraphError}

inductive Withholds (program : Program) : Pad → GraphError → Prop where
  | unknown (reference : StreamRef)
      (outside : ¬ (0 ≤ reference.index ∧ reference.index < program.inputCount)) :
      Withholds program (.stream reference) (.unknownInput reference)
  | dangling (label : String) (absent : label ∉ program.produced) :
      Withholds program (.label label) (.danglingLabel label)
  | consumed (label : String) (produced : label ∈ program.produced)
      (read : label ∈ program.consumed) :
      Withholds program (.label label) (.consumedTwice label)

/-- Why a program refuses a statement, and which of its pads are read by then: those before
the first that is withheld, or all of them when the output is produced already. -/
inductive Refuses (program : Program) (statement : Statement) : List Pad → GraphError → Prop where
  | pad {before behind : List Pad} {pad : Pad} {reason : GraphError}
      (split : statement.inputs = before ++ pad :: behind)
      (readable : program.Readable before)
      (withheld : (program.reading before).Withholds pad reason) :
      Refuses program statement before reason
  | output (readable : program.Readable statement.inputs)
      (produced : statement.output ∈ program.produced) :
      Refuses program statement statement.inputs (.producedTwice statement.output)

section Consuming

theorem consume_error_iff : program.consume pad = .error reason ↔ program.Withholds pad reason := by
  constructor
  · intro refused
    cases pad with
    | stream reference =>
        rw [consume] at refused
        split at refused
        next => cases refused
        next outside => cases refused; exact .unknown reference outside
    | label name =>
        rw [consume] at refused
        split at refused
        next absent => cases refused; exact .dangling name absent
        next produced =>
          split at refused
          next read => cases refused; exact .consumed name (Decidable.not_not.mp produced) read
          next => cases refused
  · intro withheld
    cases withheld with
    | unknown reference outside => rw [consume, if_neg outside]
    | dangling label absent => rw [consume, if_pos absent]
    | consumed label produced read => rw [consume, if_neg (not_not_intro produced), if_pos read]

theorem consumeAll_some_iff :
    program.consumeAll pads = (after, some reason) ↔
      ∃ before pad behind, pads = before ++ pad :: behind ∧ program.Readable before ∧
        (program.reading before).Withholds pad reason ∧ after = program.reading before := by
  induction pads generalizing program with
  | nil => simp [consumeAll]
  | cons pad pads ih =>
      rw [consumeAll]
      cases taken : program.consume pad with
      | error cause =>
          have withheld := consume_error_iff.mp taken
          constructor
          · rintro ⟨⟩
            exact ⟨[], pad, pads, rfl, readable_nil, reading_nil.symm ▸ withheld, reading_nil.symm⟩
          · rintro ⟨before, other, behind, split, readable, refused, rfl⟩
            -- The pads before the refused one are readable, and the first pad is not.
            cases before with
            | nil =>
                obtain ⟨rfl, -⟩ := List.cons.inj split
                rw [reading_nil, ← consume_error_iff, taken] at refused
                cases refused
                rw [reading_nil]
            | cons first before =>
                obtain ⟨rfl, -⟩ := List.cons.inj split
                rw [consume_ok_iff.mpr ⟨(readable_cons_iff.mp readable).1, rfl⟩] at taken
                cases taken
      | ok next =>
          obtain ⟨readable, rfl⟩ := consume_ok_iff.mp taken
          dsimp only
          rw [ih]
          constructor
          · rintro ⟨before, other, behind, rfl, others, refused, rfl⟩
            rw [reading_reading] at refused ⊢
            exact ⟨pad :: before, other, behind, rfl, readable_cons_iff.mpr ⟨readable, others⟩,
              refused, rfl⟩
          · rintro ⟨before, other, behind, split, others, refused, rfl⟩
            cases before with
            | nil =>
                obtain ⟨rfl, -⟩ := List.cons.inj split
                rw [reading_nil, ← consume_error_iff, taken] at refused
                cases refused
            | cons first before =>
                obtain ⟨rfl, rfl⟩ := List.cons.inj split
                refine ⟨before, other, behind, rfl, (readable_cons_iff.mp others).2, ?_, ?_⟩
                all_goals rw [reading_reading, List.singleton_append]
                exact refused

/-- What a refused statement leaves behind is what was read of it. -/
theorem add_some_iff :
    program.add statement = (after, some reason) ↔
      ∃ read, program.Refuses statement read reason ∧ after = program.reading read := by
  constructor
  · intro refused
    rw [add] at refused
    split at refused
    next stopped cause outcome =>
      cases refused
      obtain ⟨before, pad, behind, split, readable, withheld, rfl⟩ := consumeAll_some_iff.mp outcome
      exact ⟨before, .pad split readable withheld, rfl⟩
    next read outcome =>
      obtain ⟨readable, rfl⟩ := consumeAll_none_iff.mp outcome
      split at refused
      next produced =>
        cases refused
        exact ⟨statement.inputs, .output readable produced, rfl⟩
      next => cases refused
  · rintro ⟨read, refused, rfl⟩
    cases refused with
    | pad split readable withheld =>
        rw [add, consumeAll_some_iff.mpr ⟨_, _, _, split, readable, withheld, rfl⟩]
    | output readable produced =>
        rw [add, consumeAll_none_iff.mpr ⟨readable, rfl⟩]
        exact if_pos produced

theorem Refuses.readable {read : List Pad} (refused : program.Refuses statement read reason) :
    program.Readable read := by
  cases refused with
  | pad split readable withheld => exact readable
  | output readable produced => exact readable

end Consuming

section Calls

inductive Call where
  | add (statement : Statement)
  | validate (video : String) (audio : Option String)
  | render

/-- What a caller is told: the label of a statement that is taken, the verdict of a check, or
the text of a program (none if a statement names no operation). -/
inductive Answer where
  | added (outcome : Except GraphError String)
  | validated (outcome : Except GraphError Unit)
  | rendered (text : Option String)

def call (program : Program) : Call → Program × Answer
  | .add statement =>
      match program.add statement with
      | (after, some reason) => (after, .added (.error reason))
      | (after, none) => (after, .added (.ok statement.output))
  | .validate video audio => (program, .validated (program.validate video audio))
  | .render => (program, .rendered program.render?)

def answers : Program → List Call → List Answer
  | _, [] => []
  | program, request :: rest =>
      (program.call request).2 :: (program.call request).1.answers rest

/-- A statement that reads an open label and gives the label to its own result is refused for
the second, and from the moment that the label is read for the first. -/
theorem answers_reread {label : String} (produced : label ∈ program.produced)
    (unread : label ∉ program.consumed) (read : label ∈ after.consumed)
    (known : label ∈ after.produced) :
    after.answers [.add ⟨[.label label], label, .resample⟩] ≠
      program.answers [.add ⟨[.label label], label, .resample⟩] := by
  have before : program.add ⟨[.label label], label, .resample⟩ =
      (program.reading [.label label], some (.producedTwice label)) :=
    add_some_iff.mpr ⟨_, .output (readable_label_iff.mpr ⟨produced, unread⟩) produced, rfl⟩
  have withheld : (after.reading []).Withholds (.label label) (.consumedTwice label) :=
    reading_nil.symm ▸ .consumed label known read
  have behind : after.add ⟨[.label label], label, .resample⟩ =
      (after.reading [], some (.consumedTwice label)) :=
    add_some_iff.mpr ⟨_, .pad rfl readable_nil withheld, rfl⟩
  simp [answers, call, before, behind]

/-- A refusal changes nothing, and no later call can tell that it was made, exactly if no label
was read before it. -/
theorem refusal_unnoticed_tfae (refused : program.add statement = (after, some reason)) :
    ∃ read, program.Refuses statement read reason ∧ after = program.reading read ∧
      [read.filterMap Pad.label? = [],
        after = program,
        after.consumed ⊆ program.consumed,
        ∀ calls, after.answers calls = program.answers calls].TFAE := by
  obtain ⟨read, refuses, rfl⟩ := add_some_iff.mp refused
  refine ⟨read, refuses, rfl, ?_⟩
  have readable := refuses.readable
  tfae_have 1 → 2 := fun none => by rw [reading, none, List.append_nil]
  tfae_have 2 → 3 := fun same => by rw [same]; exact List.Subset.refl _
  tfae_have 2 → 4 := fun same calls => by rw [same]
  tfae_have 3 → 1 := fun within => by
    refine List.eq_nil_iff_forall_not_mem.mpr fun label member => ?_
    exact readable.unread label member (within (List.mem_append_right _ member))
  tfae_have 4 → 1 := fun unnoticed => by
    refine List.eq_nil_iff_forall_not_mem.mpr fun label member => ?_
    have produced := readable.produced label member
    have marked : label ∈ (program.reading read).consumed := List.mem_append_right _ member
    exact answers_reread produced (readable.unread label member) marked produced (unnoticed _)
  tfae_finish

def oneSound : Program := ((empty 1).add ⟨[.stream ⟨0, "a"⟩], "a0", .resample⟩).1

/-- Nobody can tell that a program was offered a statement on a missing label alone. -/
theorem refusal_unnoticed_missingLabel :
    oneSound.add ⟨[.label "nowhere"], "x", .resample⟩ =
        (oneSound, some (.danglingLabel "nowhere")) ∧
      ∀ calls, (oneSound.add ⟨[.label "nowhere"], "x", .resample⟩).1.answers calls =
        oneSound.answers calls := by
  have refused : oneSound.add ⟨[.label "nowhere"], "x", .resample⟩ =
      (oneSound, some (.danglingLabel "nowhere")) := by decide +kernel
  obtain ⟨read, refuses, same, alike⟩ := refusal_unnoticed_tfae refused
  have unnoticed := (alike.out 1 3).mp rfl
  exact ⟨refused, refused ▸ unnoticed⟩

/-- A label that is read before a missing one stays consumed, although no statement reads it. -/
theorem refusal_noticed_missingSecond :
    ∃ after, oneSound.add ⟨[.label "a0", .label "nowhere"], "x", .resample⟩ =
        (after, some (.danglingLabel "nowhere")) ∧
      after.statements = oneSound.statements ∧
      after.consumed = ["a0"] ∧ oneSound.consumed = [] ∧
      after.answers [.add ⟨[.label "a0"], "aout", .resample⟩] =
        [.added (.error (.consumedTwice "a0"))] ∧
      oneSound.answers [.add ⟨[.label "a0"], "aout", .resample⟩] = [.added (.ok "aout")] :=
  ⟨_, rfl, rfl, rfl, rfl, rfl, rfl⟩

end Calls

end Montage.Filter.Program
