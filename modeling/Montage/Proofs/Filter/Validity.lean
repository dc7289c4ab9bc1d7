import Montage.Proofs.Filter.Building

/-!
# Which timelines have graphs

Building a graph fails for want of a picture or over the name of a style, and never over a
label: the statements of every graph that is built read what stands before them, and leave
their terminal labels alone unread.
-/

namespace Montage

namespace TextStyle

theorem find?_isNone (name : String) (size : Option Int) :
    (find? name size).isNone ↔ name ≠ "" ∧ name ∉ presets.map Prod.fst := by
  have named : defaultName ∈ presets.map Prod.fst := by decide
  have absent : ∀ (table : List (String × TextStyle)) (key : String),
      (table.lookup key).isNone ↔ key ∉ table.map Prod.fst := by
    intro table key
    rw [Option.isNone_iff_eq_none, List.lookup_eq_none_iff, List.mem_map, not_exists]
    refine forall_congr' fun entry => ?_
    rw [not_and]
    exact imp_congr_right fun _ => bne_iff_ne.trans ne_comm
  rw [find?, Option.isNone_map, absent]
  by_cases empty : name = ""
  · simp [empty, named]
  · simp [empty]

end TextStyle

namespace ResolvedItem

/-- Whether an item is a text overlay in a style that is none of the presets. -/
def NamesUnknownStyle (resolved : ResolvedItem) : Prop :=
  ∃ overlay, resolved.item = .text overlay ∧
    overlay.style ≠ "" ∧ overlay.style ∉ TextStyle.presets.map Prod.fst

end ResolvedItem

namespace Filter

theorem unknownStyle?_eq_none_iff {items : List ResolvedItem} :
    Builder.unknownStyle? items = none ↔
      ∀ resolved ∈ items, ¬ resolved.NamesUnknownStyle := by
  rw [Builder.unknownStyle?, List.findSome?_eq_none_iff]
  refine forall₂_congr fun resolved member => ?_
  unfold ResolvedItem.NamesUnknownStyle
  cases resolved.item with
  | text overlay =>
      have styled := TextStyle.find?_isNone overlay.style overlay.fontSize
      have choice : ∀ unknown : Bool, (if unknown then some overlay.style else none) = none ↔
          ¬ unknown := by simp
      refine (choice _).trans (not_congr (styled.trans ?_))
      constructor
      · exact fun known => ⟨overlay, rfl, known⟩
      · rintro ⟨other, same, known⟩
        exact TimelineItem.text.inj same ▸ known
  | video _ | image _ | audio _ => simp

namespace Program

def readers (program : Program) (label : String) : List Statement :=
  program.statements.filter fun statement => .label label ∈ statement.inputs

theorem readers_bounds (statements : List Statement) (label : String) :
    let reading := statements.filter fun statement => Pad.label label ∈ statement.inputs
    let count := (statements.flatMap fun statement =>
      statement.inputs.filterMap Pad.label?).count label
    reading.length ≤ count ∧ (0 < count → 0 < reading.length) := by
  have reads : ∀ statement : Statement,
      0 < (statement.inputs.filterMap Pad.label?).count label ↔
        .label label ∈ statement.inputs := by
    intro statement
    rw [List.count_pos_iff, List.mem_filterMap]
    constructor
    · rintro ⟨pad, member, named⟩
      cases pad with
      | stream reference => simp [Pad.label?] at named
      | label name => exact Option.some.inj named ▸ member
    · exact fun member => ⟨_, member, rfl⟩
  induction statements with
  | nil => simp
  | cons statement statements ih =>
      have here := reads statement
      dsimp only at ih ⊢
      rw [List.flatMap_cons, List.count_append]
      by_cases member : Pad.label label ∈ statement.inputs
      · rw [List.filter_cons_of_pos (by simpa using member), List.length_cons]
        have positive := here.mpr member
        omega
      · rw [List.filter_cons_of_neg (by simpa using member)]
        have none : ¬ 0 < (statement.inputs.filterMap Pad.label?).count label :=
          fun positive => member (here.mp positive)
        omega

/-- One statement reads a label that is not left open, and none reads one that is. -/
theorem Linear.length_readers {program : Program} {opened : List String}
    (linear : program.Linear opened) {label : String} (produced : label ∈ program.produced) :
    (program.readers label).length = if label ∈ opened then 0 else 1 := by
  have bounds := readers_bounds program.statements label
  rw [← linear.consumed] at bounds
  change (program.readers label).length ≤ _ ∧ (_ → 0 < (program.readers label).length) at bounds
  have balanced := linear.balanced.count_eq label
  rw [List.count_append, List.count_eq_one_of_mem linear.fresh produced] at balanced
  split
  next member =>
    have positive := List.count_pos_iff.mpr member
    omega
  next absent =>
    have zero := List.count_eq_zero.mpr absent
    omega

end Program

namespace Graph

/-- The statements of a graph read labels of earlier ones and streams of its inputs.  Every
label is produced once; the terminal labels are among them, apart from each other and unread,
and every other label is read by one statement. -/
structure LinearlyWired (graph : Graph) : Prop where
  earlier : ∀ before statement behind, graph.program.statements = before ++ statement :: behind →
    ∀ label, .label label ∈ statement.inputs → label ∈ before.map Statement.output
  indexed : ∀ statement ∈ graph.program.statements, ∀ reference,
    .stream reference ∈ statement.inputs →
      0 ≤ reference.index ∧ reference.index < (graph.inputs.length : Int)
  once : (graph.program.statements.map Statement.output).Nodup
  terminal : ∀ label ∈ graph.terminals, label ∈ graph.program.statements.map Statement.output
  apart : graph.terminals.Nodup
  consumed : ∀ label ∈ graph.program.statements.map Statement.output,
    (graph.program.readers label).length = if label ∈ graph.terminals then 0 else 1

variable {frame : Frame} {timeline : ResolvedTimeline} {graph : Graph}

/-- The building of a graph whose sounds start at finite times fails exactly if nothing is shown
or a style is unknown, and it says so; otherwise the graph is wired linearly. -/
theorem build_refused_iff_and_wired (finite : FiniteDelays timeline.items) :
    ((∃ reason, build frame timeline = .error (.graph reason)) ↔
      (∀ resolved ∈ timeline.items, ¬ resolved.isShown) ∨
        ∃ resolved ∈ timeline.items, resolved.NamesUnknownStyle) ∧
    (∀ error, build frame timeline = .error error →
      error = .graph .noVideo ∨ ∃ name, error = .graph (.unknownStyle name)) ∧
    ∀ graph, build frame timeline = .ok graph → graph.LinearlyWired := by
  have outcome := build_of_finiteDelays frame finite
  split at outcome
  next none =>
    rw [outcome]
    exact ⟨⟨fun _ => .inl none, fun _ => ⟨_, rfl⟩⟩, by simp, by simp⟩
  next shown =>
    cases unknown : Builder.unknownStyle? timeline.items with
    | some name =>
        rw [unknown] at outcome
        have named : ∃ resolved ∈ timeline.items, resolved.NamesUnknownStyle := by
          by_contra none
          push Not at none
          simp [unknownStyle?_eq_none_iff.mpr none] at unknown
        rw [show build frame timeline = _ from outcome]
        exact ⟨⟨fun _ => .inr named, fun _ => ⟨_, rfl⟩⟩, by simp, by simp⟩
    | none =>
        rw [unknown] at outcome
        obtain ⟨graph, built, causal, counted⟩ := outcome
        have known := unknownStyle?_eq_none_iff.mp unknown
        have unnamed : ¬ ∃ resolved ∈ timeline.items, resolved.NamesUnknownStyle := by
          simpa using known
        have linear : graph.program.Linear graph.terminals := linear_of_build built
        have opened : graph.terminals ⊆ graph.program.produced := fun label member =>
          linear.balanced.subset (List.mem_append_right _ member)
        have whole := linear.balanced.symm.nodup linear.fresh
        rw [built]
        have refused : ¬ ((∀ resolved ∈ timeline.items, ¬ resolved.isShown) ∨
            ∃ resolved ∈ timeline.items, resolved.NamesUnknownStyle) := not_or.mpr ⟨shown, unnamed⟩
        refine ⟨iff_of_false (by simp) refused, by simp, ?_⟩
        rintro other ⟨⟩
        refine ⟨causal.earlier, counted ▸ causal.indexed, ?_, ?_, whole.of_append_right, ?_⟩
        · exact linear.produced ▸ linear.fresh
        · exact fun label member => linear.produced ▸ opened member
        · exact fun label member => linear.length_readers (linear.produced ▸ member)

/-- A title, two pictures and two sounds are wired linearly. -/
theorem build_wired_mixedTimeline :
    FiniteDelays mixedTimeline.items ∧
      ∃ graph, build plainFrame mixedTimeline = .ok graph ∧ graph.LinearlyWired ∧
        graph.program.statements.length = 7 ∧ graph.terminals = ["t0", "aout"] := by
  have finite : FiniteDelays mixedTimeline.items := by
    intro resolved member clip kind
    have all : ∀ resolved ∈ mixedTimeline.items, (resolved.start * 1000).toRat?.isSome := by
      decide +kernel
    exact all resolved member
  have facts : (build plainFrame mixedTimeline).toOption.map (fun graph =>
      (graph.program.statements.length, graph.terminals)) = some (7, ["t0", "aout"]) := by
    decide +kernel
  refine ⟨finite, ?_⟩
  cases built : build plainFrame mixedTimeline with
  | error reason => simp [built, Except.toOption] at facts
  | ok graph =>
      simp only [built, Except.toOption, Option.map_some, Option.some.injEq, Prod.mk.injEq] at facts
      exact ⟨graph, rfl, (build_refused_iff_and_wired finite).2.2 graph built, facts⟩

end Graph

end Filter

end Montage
