import Montage.Filter.Graph
import Montage.Proofs.Sequence

/-!
# Graphs up to their wording

The wording of a timeline is what its overlays say and where, and the fonts that they are
drawn in.  Timelines that differ in their wording alone have graphs that differ in the
values of their drawings alone.
-/

namespace Montage

namespace ResolvedItem

/-- An item without its wording: an overlay says nothing, in the middle of the frame. -/
def bare (resolved : ResolvedItem) : ResolvedItem :=
  match resolved.item with
  | .text overlay => { resolved with item := .text { overlay with text := "", position := .named "" } }
  | _ => resolved

end ResolvedItem

namespace ResolvedTimeline

def bare (timeline : ResolvedTimeline) : ResolvedTimeline :=
  { timeline with items := timeline.items.map ResolvedItem.bare }

end ResolvedTimeline

namespace Filter

namespace Frame

def bare (frame : Frame) : Frame :=
  { frame with fontsDirectory := none }

end Frame

namespace Statement

def bare (statement : Statement) : Statement :=
  match statement.operation with
  | .drawText drawing =>
      { statement with operation := .drawText { drawing with
          text := "", fontFile := none, x := Position.centerX, y := Position.centerY } }
  | _ => statement

@[simp]
theorem bare_inputs (statement : Statement) : statement.bare.inputs = statement.inputs := by
  unfold bare
  split <;> rfl

@[simp]
theorem bare_output (statement : Statement) : statement.bare.output = statement.output := by
  unfold bare
  split <;> rfl

end Statement

namespace Program

def bare (program : Program) : Program :=
  { program with statements := program.statements.map Statement.bare }

variable {program : Program}

@[simp]
theorem bare_inputCount : program.bare.inputCount = program.inputCount := rfl

@[simp]
theorem bare_produced : program.bare.produced = program.produced := rfl

@[simp]
theorem bare_consumed : program.bare.consumed = program.consumed := rfl

theorem consume_bare (program : Program) (pad : Pad) :
    program.bare.consume pad = (program.consume pad).map bare := by
  cases pad with
  | stream reference =>
      by_cases known : 0 ≤ reference.index ∧ reference.index < program.inputCount <;>
        simp [consume, known, Except.map]
  | label name =>
      by_cases produced : name ∈ program.produced <;>
        by_cases taken : name ∈ program.consumed <;>
          simp [consume, produced, taken, Except.map, bare]

theorem consumeAll_bare (program : Program) (pads : List Pad) :
    program.bare.consumeAll pads =
      ((program.consumeAll pads).1.bare, (program.consumeAll pads).2) := by
  induction pads generalizing program with
  | nil => rfl
  | cons pad pads ih =>
      simp only [consumeAll, consume_bare]
      cases program.consume pad with
      | error reason => rfl
      | ok after => exact ih after

/-- Whether a statement is taken does not depend on the wording. -/
theorem add?_bare (program : Program) (statement : Statement) :
    program.bare.add? statement.bare = (program.add? statement).map bare := by
  simp only [add?, add, Statement.bare_inputs, Statement.bare_output, consumeAll_bare]
  cases program.consumeAll statement.inputs with
  | mk after reason =>
      cases reason with
      | some reason => rfl
      | none =>
          simp only [bare_produced]
          by_cases produced : statement.output ∈ after.produced
          · simp [produced, Except.map]
          · simp [produced, Except.map, bare]

end Program

namespace Builder

/-- A graph under construction without its wording. -/
def bare (builder : Builder) : Builder :=
  { builder with program := builder.program.bare }

variable {frame : Frame} {builder : Builder}

theorem addStatement_bare (builder : Builder) (statement : Statement) :
    builder.bare.addStatement statement.bare = (builder.addStatement statement).map bare := by
  have programs : builder.bare.program = builder.program.bare := rfl
  simp only [addStatement, programs, Program.add?_bare]
  cases builder.program.add? statement with
  | error reason => rfl
  | ok program => rfl

theorem addItem_bare (frame : Frame) (builder : Builder) (resolved : ResolvedItem) :
    builder.addItem frame.bare resolved.bare = builder.addItem frame resolved := by
  cases kind : resolved.item <;> simp only [ResolvedItem.bare, kind, addItem] <;> rfl

theorem addText_bare (frame : Frame) (builder : Builder) (picture : String) (number : Nat)
    (resolved : ResolvedItem) (overlay : TextOverlay) :
    builder.bare.addText frame.bare picture number resolved
        { overlay with text := "", position := .named "" } =
      (builder.addText frame picture number resolved overlay).map
        fun (after, label) => (after.bare, label) := by
  simp only [addText]
  cases TextStyle.find? overlay.style overlay.fontSize with
  | none => rfl
  | some style =>
      have written := builder.addStatement_bare ⟨[.label picture], numbered "t" number,
        .drawText ⟨overlay.text, style,
          frame.fontsDirectory.map fun directory => (style.fontPath directory).toString,
          overlay.position.expressions.1, overlay.position.expressions.2, resolved.start,
          resolved.duration⟩⟩
      exact bind_eq_map_bind written fun after => rfl

/-- The wording of texts is nowhere but in their drawings. -/
theorem addTexts_bare (frame : Frame) (builder : Builder) (picture : String) (number : Nat)
    (items : List ResolvedItem) :
    builder.bare.addTexts frame.bare picture number (items.map ResolvedItem.bare) =
      (builder.addTexts frame picture number items).map
        fun (after, label) => (after.bare, label) := by
  induction items generalizing builder picture number with
  | nil => rfl
  | cons resolved items ih =>
      cases kind : resolved.item with
      | text overlay =>
          simp only [List.map_cons, addTexts, ResolvedItem.bare, kind]
          refine bind_eq_map_bind (addText_bare frame builder picture number _ overlay) ?_
          exact fun middle => ih middle.1 middle.2 (number + 1)
      | video _ | image _ | audio _ =>
          simp only [List.map_cons, addTexts, ResolvedItem.bare, kind]
          exact ih builder picture number

theorem reduceSounds_bare (builder : Builder) :
    builder.bare.reduceSounds =
      builder.reduceSounds.map fun (after, labels) => (after.bare, labels) := by
  have sounds : builder.bare.sounds = builder.sounds := rfl
  simp only [reduceSounds, sounds]
  split
  next => rfl
  next => rfl
  next => exact bind_eq_map_bind (builder.addStatement_bare ⟨_, _, .concat _ _⟩) fun after => rfl

theorem reduceAudio_bare (builder : Builder) :
    builder.bare.reduceAudio =
      builder.reduceAudio.map fun (after, audio) => (after.bare, audio) := by
  refine bind_eq_map_bind builder.reduceSounds_bare fun (joined, labels) => ?_
  have overlays : joined.bare.overlays = joined.overlays := rfl
  simp only [overlays]
  split
  next => rfl
  next => exact bind_eq_map_bind (joined.addStatement_bare ⟨_, _, .resample⟩) fun after => rfl
  next => exact bind_eq_map_bind (joined.addStatement_bare ⟨_, _, .mix⟩) fun after => rfl

end Builder

namespace Graph

def bare (graph : Graph) : Graph :=
  { graph with program := graph.program.bare }

/-- Up to its wording, a graph is built from the bare timeline, with the wording dropped
between the pictures and the texts. -/
theorem map_bare_build (frame : Frame) (timeline : ResolvedTimeline) :
    (build frame timeline).map bare = (do
      let builder ← timeline.bare.items.foldlM (Builder.addItem frame.bare) Builder.empty
      let (builder, picture) ← builder.reduceVideo
      let (builder, video) ←
        builder.bare.addTexts frame.bare picture 0 timeline.bare.items
      let (builder, audio) ← builder.reduceAudio
      match builder.program.validate video audio with
      | .error reason => .error (.graph reason)
      | .ok () => .ok ⟨builder.inputs, builder.program, video, audio⟩) := by
  have items : timeline.bare.items.foldlM (Builder.addItem frame.bare) Builder.empty =
      timeline.items.foldlM (Builder.addItem frame) Builder.empty := by
    simp only [ResolvedTimeline.bare, List.foldlM_map, Builder.addItem_bare]
  rw [items, build]
  cases timeline.items.foldlM (Builder.addItem frame) Builder.empty with
  | error reason => rfl
  | ok parts =>
      -- So far both sides are the same; from the texts on one is the other without wording.
      change (parts.reduceVideo >>= _).map bare = parts.reduceVideo >>= _
      cases parts.reduceVideo with
      | error reason => rfl
      | ok reduced =>
          refine (bind_eq_map_bind (Builder.addTexts_bare frame reduced.1 reduced.2 0 _)
            fun drawn => ?_).symm
          refine bind_eq_map_bind drawn.1.reduceAudio_bare fun mixed => ?_
          have checks : mixed.1.bare.program.validate drawn.2 mixed.2 =
              mixed.1.program.validate drawn.2 mixed.2 := rfl
          simp only [checks]
          cases mixed.1.program.validate drawn.2 mixed.2 with
          | error reason => rfl
          | ok done => rfl

/-- From timelines that differ in their wording alone, graphs are built that differ in it
alone, or none for the same reason. -/
theorem build_congr_bare {frame frame' : Frame} {timeline timeline' : ResolvedTimeline}
    (frames : frame.bare = frame'.bare) (timelines : timeline.bare = timeline'.bare) :
    (build frame timeline).map bare = (build frame' timeline').map bare := by
  rw [map_bare_build, map_bare_build, frames, timelines]

end Graph

end Filter

end Montage
