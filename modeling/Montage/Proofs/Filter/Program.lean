import Montage.Filter.Program

/-!
# Accepted statements

A program takes a statement whose pads it has to offer and whose label is new.  It marks the
labels of the pads as consumed, and the label of the statement as produced.
-/

namespace Montage.Filter.Program

variable {program after next : Program} {statement : Statement} {pad : Pad} {pads : List Pad}

theorem filterMap_label?_label (name : String) (pads : List Pad) :
    (Pad.label name :: pads).filterMap Pad.label? = name :: pads.filterMap Pad.label? := rfl

def reading (program : Program) (pads : List Pad) : Program :=
  { program with consumed := program.consumed ++ pads.filterMap Pad.label? }

/-- Pads that a program has to offer: streams of its inputs and labels that are produced and
not consumed, each label once. -/
structure Readable (program : Program) (pads : List Pad) : Prop where
  streams : ∀ reference, .stream reference ∈ pads →
    0 ≤ reference.index ∧ reference.index < program.inputCount
  produced : ∀ label ∈ pads.filterMap Pad.label?, label ∈ program.produced
  unread : ∀ label ∈ pads.filterMap Pad.label?, label ∉ program.consumed
  once : (pads.filterMap Pad.label?).Nodup

section Reading

theorem reading_nil : program.reading [] = program := by
  simp [reading]

theorem reading_reading (others : List Pad) :
    (program.reading pads).reading others = program.reading (pads ++ others) := by
  simp [reading, List.append_assoc]

theorem readable_nil : program.Readable [] :=
  ⟨by simp, by simp, by simp, List.nodup_nil⟩

theorem readable_stream_iff {reference : StreamRef} :
    program.Readable [.stream reference] ↔
      0 ≤ reference.index ∧ reference.index < program.inputCount := by
  constructor
  · intro readable
    exact readable.streams reference List.mem_cons_self
  · intro known
    refine ⟨fun other member => ?_, by simp [Pad.label?], by simp [Pad.label?], ?_⟩
    · obtain rfl := Pad.stream.inj (List.mem_singleton.mp member)
      exact known
    · exact List.nodup_nil

theorem readable_label_iff {label : String} :
    program.Readable [.label label] ↔ label ∈ program.produced ∧ label ∉ program.consumed := by
  constructor
  · intro readable
    exact ⟨readable.produced label (by simp [Pad.label?]),
      readable.unread label (by simp [Pad.label?])⟩
  · rintro ⟨produced, unread⟩
    exact ⟨by simp, by simpa [Pad.label?] using produced, by simpa [Pad.label?] using unread,
      by simp [Pad.label?]⟩

/-- Pads are readable if the first is, and the others are once the first is read. -/
theorem readable_cons_iff :
    program.Readable (pad :: pads) ↔
      program.Readable [pad] ∧ (program.reading [pad]).Readable pads := by
  cases pad with
  | stream reference =>
      rw [readable_stream_iff]
      constructor
      · intro readable
        refine ⟨readable.streams reference List.mem_cons_self, ?_, readable.produced, ?_,
          readable.once⟩
        · exact fun other member => readable.streams other (List.mem_cons_of_mem _ member)
        · simpa [reading, Pad.label?] using readable.unread
      · rintro ⟨known, readable⟩
        refine ⟨fun other member => ?_, readable.produced, ?_, readable.once⟩
        · rcases List.mem_cons.mp member with same | later
          · exact Pad.stream.inj same ▸ known
          · exact readable.streams other later
        · simpa [reading, Pad.label?] using readable.unread
  | label name =>
      rw [readable_label_iff]
      constructor
      · rintro ⟨streams, produced, unread, once⟩
        rw [filterMap_label?_label] at produced unread once
        obtain ⟨new, once⟩ := List.nodup_cons.mp once
        have fresh := And.intro (produced name List.mem_cons_self) (unread name List.mem_cons_self)
        refine ⟨fresh, ?_, ?_, ?_, once⟩
        · exact fun other member => streams other (List.mem_cons_of_mem _ member)
        · exact fun label member => produced label (List.mem_cons_of_mem _ member)
        · intro label member read
          rcases List.mem_append.mp read with before | here
          · exact unread label (List.mem_cons_of_mem _ member) before
          · exact new (List.mem_singleton.mp here ▸ member)
      · rintro ⟨⟨known, opened⟩, streams, produced, unread, once⟩
        refine ⟨fun other member => ?_, ?_, ?_, ?_⟩
        · rcases List.mem_cons.mp member with same | later
          · cases same
          · exact streams other later
        all_goals rw [filterMap_label?_label]
        · exact List.forall_mem_cons.mpr ⟨known, produced⟩
        · refine List.forall_mem_cons.mpr ⟨opened, fun label member read => ?_⟩
          exact unread label member (List.mem_append_left _ read)
        · refine List.nodup_cons.mpr ⟨fun member => ?_, once⟩
          exact unread name member (List.mem_append_right _ List.mem_cons_self)

end Reading

section Taking

theorem consume_ok_iff :
    program.consume pad = .ok next ↔ program.Readable [pad] ∧ next = program.reading [pad] := by
  cases pad with
  | stream reference =>
      rw [readable_stream_iff, consume]
      split
      next known => simp [known, reading, List.filterMap_cons, Pad.label?, @eq_comm _ next]
      next unknown => simp [unknown]
  | label name =>
      rw [readable_label_iff, consume]
      split
      next absent => simp [absent]
      next produced =>
        split
        next read => simp [read]
        next unread =>
          rw [Decidable.not_not] at produced
          simp [produced, unread, reading, Pad.label?, eq_comm]

theorem consumeAll_none_iff :
    program.consumeAll pads = (after, none) ↔
      program.Readable pads ∧ after = program.reading pads := by
  induction pads generalizing program with
  | nil => simp [consumeAll, readable_nil, reading_nil, eq_comm]
  | cons pad pads ih =>
      rw [readable_cons_iff, consumeAll]
      cases taken : program.consume pad with
      | error reason =>
          have withheld : ¬ program.Readable [pad] := fun readable => by
            rw [consume_ok_iff.mpr ⟨readable, rfl⟩] at taken
            cases taken
          simp [withheld]
      | ok next =>
          obtain ⟨readable, rfl⟩ := consume_ok_iff.mp taken
          rw [ih, reading_reading, List.singleton_append]
          simp [readable]

/-- A statement that is taken comes last and produces a fresh label; the labels that it
reads are consumed. -/
theorem add?_ok_iff :
    program.add? statement = .ok after ↔
      program.Readable statement.inputs ∧ statement.output ∉ program.produced ∧
        after = ⟨program.statements ++ [statement], program.inputCount,
          program.produced ++ [statement.output],
          program.consumed ++ statement.inputs.filterMap Pad.label?⟩ := by
  unfold add? add
  rcases outcome : program.consumeAll statement.inputs with ⟨read, reason | reason⟩
  · obtain ⟨readable, rfl⟩ := consumeAll_none_iff.mp outcome
    by_cases produced : statement.output ∈ program.produced
    · simp [reading, produced]
    · simp [reading, readable, produced, eq_comm]
  · have withheld : ¬ program.Readable statement.inputs := fun readable => by
      rw [consumeAll_none_iff.mpr ⟨readable, rfl⟩] at outcome
      cases outcome
    simp [withheld]

theorem add?_ok (added : program.add? statement = .ok after) :
    statement.output ∉ program.produced ∧
      after = ⟨program.statements ++ [statement], program.inputCount,
        program.produced ++ [statement.output],
        program.consumed ++ statement.inputs.filterMap Pad.label?⟩ :=
  (add?_ok_iff.mp added).2

end Taking

end Montage.Filter.Program
