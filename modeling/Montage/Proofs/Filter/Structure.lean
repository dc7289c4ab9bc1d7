import Montage.Proofs.Filter.Linear
import Montage.Proofs.Filter.Unfolding
import Montage.Proofs.Filter.Wording
import Montage.Proofs.Numeric.Digits
import Mathlib.Data.List.Perm.Basic

/-!
# Structure of graphs

The text of a graph splits into the chains of its statements, whatever its overlays say and
wherever its fonts are.  Between the chains every label is produced once, and read once
unless it is a terminal label.
-/

namespace Montage.Filter

namespace Pad

/-- The stream that a pad reads as it is written, if it reads one. -/
def streamName? : Pad → Option String
  | .stream reference => some reference.toString
  | .label _ => none

theorem perm_map_toString (pads : List Pad) :
    (pads.map Pad.toString).Perm (pads.filterMap streamName? ++ pads.filterMap label?) := by
  induction pads with
  | nil => exact .refl _
  | cons pad pads ih =>
      cases pad with
      | stream reference => exact ih.cons _
      | label name => exact (ih.cons name).trans List.perm_middle.symm

end Pad

namespace Statement

def heldLabels (statement : Statement) : List String :=
  match statement.operation with
  | .concat _ _ => (List.range statement.inputs.length).map (heldLabel statement.output)
  | _ => []

/-- The chains of a statement read what it reads itself, and its held segments. -/
theorem flatMap_wiring_inputs (statement : Statement) :
    statement.wiring.flatMap Prod.fst =
      statement.inputs.map Pad.toString ++ statement.heldLabels := by
  let names := statement.inputs.map Pad.toString
  have each : names.zipIdx.flatMap (fun entry => [entry.1]) = names := by
    rw [← List.map_eq_flatMap]
    exact List.zipIdx_map_fst 0 names
  cases kind : statement.operation
  case concat durations audio =>
    simp only [wiring, heldLabels, kind, List.flatMap_append, List.flatMap_map,
      List.flatMap_singleton, List.length_map]
    exact congrArg (· ++ _) each
  all_goals simp [wiring, heldLabels, kind]

/-- The chains of a statement produce its held segments and its own label. -/
theorem flatMap_wiring_outputs (statement : Statement) :
    statement.wiring.flatMap Prod.snd = statement.heldLabels ++ [statement.output] := by
  let names := statement.inputs.map Pad.toString
  have each : names.zipIdx.flatMap (fun entry => [heldLabel statement.output entry.2]) =
      (List.range statement.inputs.length).map (heldLabel statement.output) := by
    have indices : names.zipIdx.map Prod.snd = List.range statement.inputs.length := by
      simp [names, List.range_eq_range']
    rw [← indices, List.map_map, ← List.map_eq_flatMap]
    rfl
  cases kind : statement.operation
  case concat durations audio =>
    simp only [wiring, heldLabels, kind, List.flatMap_append, List.flatMap_map,
      List.flatMap_singleton]
    exact congrArg (· ++ _) each
  all_goals simp [wiring, heldLabels, kind]

theorem length_wiring_join {statement : Statement} {durations : List Binary64} {audio : Bool}
    (joins : statement.operation = .concat durations audio) :
    statement.wiring.length = statement.inputs.length + 1 := by
  simp [wiring, joins]

theorem length_wiring {statement : Statement}
    (notJoin : ∀ durations audio, statement.operation ≠ .concat durations audio) :
    statement.wiring.length = 1 := by
  unfold wiring
  split
  next durations audio joins => exact absurd joins (notJoin durations audio)
  next => rfl

section Freshness

theorem underscore_mem_of_mem_heldLabels {statement : Statement} {label : String}
    (held : label ∈ statement.heldLabels) : '_' ∈ label.toList := by
  unfold heldLabels at held
  split at held
  · obtain ⟨index, -, rfl⟩ := List.mem_map.mp held
    simp [heldLabel]
  · simp at held

theorem colon_not_mem_of_mem_heldLabels (statement : Statement)
    (named : Alphanumeric statement.output) {label : String}
    (held : label ∈ statement.heldLabels) : ':' ∉ label.toList := by
  unfold heldLabels at held
  split at held
  · obtain ⟨index, -, rfl⟩ := List.mem_map.mp held
    have output : ':' ∉ statement.output.toList := fun member =>
      absurd (named _ member) (by decide)
    have digits : ':' ∉ (Decimal.ofInt index).toList := fun member =>
      absurd (alphanumeric_ofInt index _ member) (by decide)
    simp [heldLabel, output, digits]
  · simp at held

/-- The output of a join is what stands in front of the first underscore of its held
labels. -/
theorem takeWhile_heldLabel {output : String} (alphanumeric : Alphanumeric output)
    (index : Nat) :
    (heldLabel output index).toList.takeWhile (· != '_') = output.toList := by
  have noUnderscore : ∀ character ∈ output.toList, (character != '_') = true := by
    intro character member
    have isAlphanum := alphanumeric character member
    rw [bne_iff_ne]
    rintro rfl
    exact absurd isAlphanum (by decide)
  simp [heldLabel, List.takeWhile_append_of_pos noUnderscore]

theorem heldLabel_injective (output : String) : Function.Injective (heldLabel output) := by
  intro index index' same
  apply Decimal.ofInt_natCast_injective
  simpa [heldLabel] using same

theorem nodup_heldLabels (statement : Statement) : statement.heldLabels.Nodup := by
  unfold heldLabels
  split
  · exact List.nodup_range.map (heldLabel_injective _)
  · exact List.nodup_nil

theorem disjoint_heldLabels {statement other : Statement}
    (named : Alphanumeric statement.output) (named' : Alphanumeric other.output)
    (apart : statement.output ≠ other.output) :
    statement.heldLabels.Disjoint other.heldLabels := by
  have owner : ∀ {statement : Statement} {label : String}, Alphanumeric statement.output →
      label ∈ statement.heldLabels →
      label.toList.takeWhile (· != '_') = statement.output.toList := by
    intro statement label named held
    unfold heldLabels at held
    split at held
    · obtain ⟨index, -, rfl⟩ := List.mem_map.mp held
      exact takeWhile_heldLabel named index
    · simp at held
  intro label held held'
  exact apart (String.toList_inj.mp ((owner named held).symm.trans (owner named' held')))

end Freshness

end Statement

namespace Program

variable {program : Program} {opened : List String}

def wiring (program : Program) : List (List String × List String) :=
  program.statements.flatMap Statement.wiring

def streamNames (program : Program) : List String :=
  program.statements.flatMap fun statement => statement.inputs.filterMap Pad.streamName?

def heldLabels (program : Program) : List String :=
  program.statements.flatMap Statement.heldLabels

theorem Linear.outputs_perm (linear : program.Linear opened) :
    (program.wiring.flatMap Prod.snd).Perm (program.heldLabels ++ program.produced) := by
  rw [wiring, List.flatMap_assoc, heldLabels, linear.produced, List.map_eq_flatMap]
  simp only [Statement.flatMap_wiring_outputs]
  exact (List.flatMap_append_perm ..).symm

theorem Linear.inputs_perm (linear : program.Linear opened) :
    (program.wiring.flatMap Prod.fst).Perm
      (program.streamNames ++ program.consumed ++ program.heldLabels) := by
  rw [wiring, List.flatMap_assoc, heldLabels, linear.consumed, streamNames]
  simp only [Statement.flatMap_wiring_inputs]
  have read := List.Perm.flatMap_left program.statements fun statement _ =>
    Pad.perm_map_toString statement.inputs
  have split := List.flatMap_append_perm program.statements
    (fun statement => statement.inputs.filterMap Pad.streamName?)
    (fun statement => statement.inputs.filterMap Pad.label?)
  exact (List.flatMap_append_perm ..).symm.trans
    ((read.trans split.symm).append_right _)

/-- What the chains read and what is left open are the streams and what the chains
produce. -/
theorem Linear.pads_perm (linear : program.Linear opened) :
    (program.wiring.flatMap Prod.fst ++ opened).Perm
      (program.streamNames ++ program.wiring.flatMap Prod.snd) := by
  have inputs := linear.inputs_perm
  have outputs := linear.outputs_perm
  have balanced := linear.balanced
  rw [List.perm_iff_count] at inputs outputs balanced ⊢
  intro name
  have inputs := inputs name
  have outputs := outputs name
  have balanced := balanced name
  simp only [List.count_append] at inputs outputs balanced ⊢
  omega

/-- Every label is produced by one chain only. -/
theorem Linear.nodup_outputs (linear : program.Linear opened) :
    (program.wiring.flatMap Prod.snd).Nodup := by
  rw [linear.outputs_perm.nodup_iff, List.nodup_append']
  refine ⟨?_, linear.fresh, ?_⟩
  -- A held label tells the output of its join in front of its underscore, and an output has
  -- none.
  · rw [heldLabels, List.nodup_flatMap]
    refine ⟨fun statement _ => statement.nodup_heldLabels, ?_⟩
    have apart := linear.fresh
    rw [linear.produced, List.Nodup, List.pairwise_map] at apart
    exact apart.imp_of_mem fun member member' apart => Statement.disjoint_heldLabels
      (linear.sound _ member).output (linear.sound _ member').output apart
  · intro label held produced
    obtain ⟨statement, -, held⟩ := List.mem_flatMap.mp held
    have underscore := Statement.underscore_mem_of_mem_heldLabels held
    exact absurd (linear.alphanumeric produced _ underscore) (by decide)

theorem Linear.disjoint_streamNames (linear : program.Linear opened) :
    program.streamNames.Disjoint (program.wiring.flatMap Prod.snd) := by
  intro name read produced
  have colon : ':' ∈ name.toList := by
    obtain ⟨statement, -, read⟩ := List.mem_flatMap.mp read
    obtain ⟨pad, -, written⟩ := List.mem_filterMap.mp read
    cases pad with
    | label name => simp [Pad.streamName?] at written
    | stream reference =>
        simp only [Pad.streamName?, Option.some.injEq] at written
        simp [← written, StreamRef.toString]
  rcases List.mem_append.mp (linear.outputs_perm.subset produced) with held | own
  · obtain ⟨statement, member, held⟩ := List.mem_flatMap.mp held
    exact statement.colon_not_mem_of_mem_heldLabels (linear.sound _ member).output held colon
  · exact absurd (linear.alphanumeric own _ colon) (by decide)

/-- Every label that a chain produces is read once, unless it is left open. -/
theorem Linear.count_inputs (linear : program.Linear opened) {label : String}
    (produced : label ∈ program.wiring.flatMap Prod.snd) :
    (program.wiring.flatMap Prod.fst).count label = if label ∈ opened then 0 else 1 := by
  -- Produced once, a label is balanced by one reader or by standing open.
  have balanced := linear.pads_perm.count_eq label
  have once := List.count_eq_one_of_mem linear.nodup_outputs produced
  have noStream : program.streamNames.count label = 0 :=
    List.count_eq_zero.mpr fun read => linear.disjoint_streamNames read produced
  simp only [List.count_append, once, noStream] at balanced
  split
  next member =>
    have positive := List.count_pos_iff.mpr member
    omega
  next absent =>
    have zero := List.count_eq_zero.mpr absent
    omega

end Program

namespace Chain

/-- Whether two chains have the same pads and the same filters, where the options of a
drawing may be different. -/
structure Alike (chain other : Chain) : Prop where
  inputs : chain.inputs = other.inputs
  outputs : chain.outputs = other.outputs
  filters : chain.filters = other.filters ∨ ∃ options options',
    chain.filters = ["drawtext=" ++ options] ∧ other.filters = ["drawtext=" ++ options']

end Chain

namespace Statement

variable {statement other : Statement}

theorem bare_eq_self (noText : ∀ drawing, statement.operation ≠ .drawText drawing) :
    statement.bare = statement := by
  unfold bare
  split
  next drawing draws => exact absurd draws (noText drawing)
  next => rfl

theorem exists_drawText_of_bare {drawing : Drawing}
    (draws : statement.bare.operation = .drawText drawing) :
    ∃ drawing, statement.operation = .drawText drawing := by
  by_contra none
  have noText : ∀ drawing, statement.operation ≠ .drawText drawing := by simpa using none
  rw [bare_eq_self noText] at draws
  exact noText drawing draws

/-- Statements that differ in their wording alone read as chains that are alike. -/
theorem Sound.forall₂_alike (sound : statement.Sound) (sound' : other.Sound)
    (same : statement.bare = other.bare) :
    List.Forall₂ Chain.Alike statement.chains other.chains := by
  by_cases draws : ∃ drawing, statement.operation = .drawText drawing
  · obtain ⟨drawing, draws⟩ := draws
    have drawsBare : ∃ drawing, statement.bare.operation = .drawText drawing := by
      simp [bare, draws]
    obtain ⟨bareDrawing, drawsBare⟩ := drawsBare
    obtain ⟨drawing', draws'⟩ := exists_drawText_of_bare (same ▸ drawsBare)
    obtain ⟨options, chains⟩ := sound.chains_drawText draws
    obtain ⟨options', chains'⟩ := sound'.chains_drawText draws'
    have inputs := congrArg Statement.inputs same
    have output := congrArg Statement.output same
    rw [bare_inputs, bare_inputs] at inputs
    rw [bare_output, bare_output] at output
    rw [chains, chains', inputs, output]
    exact .cons ⟨rfl, rfl, .inr ⟨options, options', rfl, rfl⟩⟩ .nil
  · have noText : ∀ drawing, statement.operation ≠ .drawText drawing := by simpa using draws
    have noText' : ∀ drawing, other.operation ≠ .drawText drawing := by
      intro drawing draws'
      have drawsBare : ∃ drawing, other.bare.operation = .drawText drawing := by
        simp [bare, draws']
      obtain ⟨bareDrawing, drawsBare⟩ := drawsBare
      exact draws (exists_drawText_of_bare (same ▸ drawsBare))
    rw [bare_eq_self noText, bare_eq_self noText'] at same
    rw [same]
    exact List.forall₂_same.mpr fun chain _ => ⟨rfl, rfl, .inl rfl⟩

end Statement

namespace Graph

def terminals (graph : Graph) : List String :=
  graph.videoLabel :: graph.audioLabel.toList

/-- The text of a graph splits into these chains.  They are wired as the statements of the
graph are, in order; every label is produced once, and it is read once, or never if it is a
terminal label; and there is nothing else that they read but streams. -/
structure SplitsInto (graph : Graph) (chains : List Chain) : Prop where
  read : chains? graph.program.render = some chains
  wired : chains.map Chain.pads = graph.program.statements.flatMap Statement.wiring
  produced : (chains.flatMap Chain.outputs).Nodup
  terminal : ∀ label ∈ graph.terminals, label ∈ chains.flatMap Chain.outputs
  consumed : ∀ label ∈ chains.flatMap Chain.outputs,
    (chains.flatMap Chain.inputs).count label = if label ∈ graph.terminals then 0 else 1
  known : ∀ name ∈ chains.flatMap Chain.inputs,
    name ∈ graph.program.streamNames ∨ name ∈ chains.flatMap Chain.outputs

variable {frame : Frame} {timeline : ResolvedTimeline} {graph : Graph}

theorem splitsInto_of_build (built : build frame timeline = .ok graph) :
    graph.SplitsInto (graph.program.statements.flatMap Statement.chains) := by
  have linear : graph.program.Linear graph.terminals := linear_of_build built
  have shown : graph.videoLabel ∈ graph.program.produced :=
    linear.balanced.subset (List.mem_append_right _ List.mem_cons_self)
  have some : graph.program.statements ≠ [] := by
    intro none
    simp [linear.produced, none] at shown
  have wired : (graph.program.statements.flatMap Statement.chains).map Chain.pads =
      graph.program.wiring := by
    rw [List.map_flatMap]
    exact List.flatMap_congr fun statement member => (linear.sound statement member).reads.wired
  have inputs : (graph.program.statements.flatMap Statement.chains).flatMap Chain.inputs =
      graph.program.wiring.flatMap Prod.fst := by
    rw [← wired, List.flatMap_map]
    rfl
  have outputs : (graph.program.statements.flatMap Statement.chains).flatMap Chain.outputs =
      graph.program.wiring.flatMap Prod.snd := by
    rw [← wired, List.flatMap_map]
    rfl
  refine ⟨Program.chains?_render some linear.sound, wired, ?_, ?_, ?_, ?_⟩
  · exact outputs ▸ linear.nodup_outputs
  · intro label member
    rw [outputs]
    have produced := linear.balanced.subset (List.mem_append_right _ member)
    exact linear.outputs_perm.symm.subset (List.mem_append_right _ produced)
  · intro label member
    rw [inputs]
    exact linear.count_inputs (outputs ▸ member)
  · intro name member
    rw [inputs] at member
    rw [outputs]
    exact List.mem_append.mp (linear.pads_perm.subset (List.mem_append_left _ member))

/-- Graphs that differ in their wording alone split into chains that are alike. -/
theorem forall₂_alike_of_bare {graph' : Graph}
    (sound : ∀ statement ∈ graph.program.statements, statement.Sound)
    (sound' : ∀ statement ∈ graph'.program.statements, statement.Sound)
    (same : graph.bare = graph'.bare) :
    List.Forall₂ Chain.Alike (graph.program.statements.flatMap Statement.chains)
      (graph'.program.statements.flatMap Statement.chains) := by
  have statements : graph.program.statements.map Statement.bare =
      graph'.program.statements.map Statement.bare :=
    congrArg (fun graph => graph.program.statements) same
  generalize graph.program.statements = first at sound statements
  generalize graph'.program.statements = second at sound' statements
  induction first generalizing second with
  | nil =>
      cases second with
      | nil => exact .nil
      | cons _ _ => simp at statements
  | cons statement first ih =>
      cases second with
      | nil => simp at statements
      | cons other second =>
          rw [List.map_cons, List.map_cons, List.cons.injEq] at statements
          rw [List.flatMap_cons, List.flatMap_cons]
          refine List.rel_append ?_ (ih ?_ second ?_ statements.2)
          · exact (sound statement List.mem_cons_self).forall₂_alike
              (sound' other List.mem_cons_self) statements.1
          · exact fun later member => sound later (List.mem_cons_of_mem _ member)
          · exact fun later member => sound' later (List.mem_cons_of_mem _ member)

/-- The structure of a graph that is built is that of its statements: its text splits into
one chain for each statement, or into one for each segment of a join and one for the join,
wired by their labels.  Other overlay texts, positions and fonts change nothing but the
options of its drawings. -/
theorem structure_of_build (built : build frame timeline = .ok graph) :
    ∃ chains, graph.SplitsInto chains ∧
      (∀ statement ∈ graph.program.statements, statement.wiring.length =
        match statement.operation with
        | .concat _ _ => statement.segments.length + 1
        | _ => 1) ∧
      ∀ frame' timeline', frame'.bare = frame.bare → timeline'.bare = timeline.bare →
        ∃ graph' chains', build frame' timeline' = .ok graph' ∧ graph'.SplitsInto chains' ∧
          List.Forall₂ Chain.Alike chains chains' := by
  have linear := linear_of_build built
  refine ⟨_, splitsInto_of_build built, ?_, ?_⟩
  · intro statement member
    split
    next durations audio joins =>
      have count : durations.length = statement.inputs.length := by
        simpa [joins, Operation.Sound] using (linear.sound statement member).operation
      rw [Statement.length_wiring_join joins]
      simp [Statement.segments, joins, count]
    next notJoin => exact Statement.length_wiring fun durations audio => notJoin durations audio
  · intro frame' timeline' frames timelines
    have same := build_congr_bare frames timelines
    rw [built] at same
    cases built' : build frame' timeline' with
    | error reason => simp [built', Except.map] at same
    | ok graph' =>
        have graphs : graph'.bare = graph.bare := by
          simpa [built', Except.map] using same
        refine ⟨graph', _, rfl, splitsInto_of_build built', ?_⟩
        exact forall₂_alike_of_bare linear.sound (linear_of_build built').sound graphs.symm

def markedFrame : Frame := { plainFrame with fontsDirectory := some (.ofString "f'[];") }

/-- Two images under a title whose text, place and fonts are full of the marks of filter
graphs. -/
def markedTimeline : ResolvedTimeline where
  items := [
    ⟨.image ⟨"a.png", 2, none⟩, 0, 2, some (.ofString "a.png"), false⟩,
    ⟨.image ⟨"b.png", 2, none⟩, 2, 2, some (.ofString "b.png"), false⟩,
    ⟨.text ⟨"[t0];',\\%", "tiktok", none, .coordinates [("x", "0';[v0]null[vcat]")], 0, 3⟩, 0, 3,
      none, false⟩]
  totalDuration := 4

def unmarkedTimeline : ResolvedTimeline where
  items := [
    ⟨.image ⟨"a.png", 2, none⟩, 0, 2, some (.ofString "a.png"), false⟩,
    ⟨.image ⟨"b.png", 2, none⟩, 2, 2, some (.ofString "b.png"), false⟩,
    ⟨.text ⟨"Title", "tiktok", none, .named "top-left", 0, 3⟩, 0, 3, none, false⟩]
  totalDuration := 4

/-- The marks in the wording do not add to the structure. -/
theorem structure_markedTimeline :
    ∃ graph graph' chains chains',
      build markedFrame markedTimeline = .ok graph ∧ graph.SplitsInto chains ∧
      build plainFrame unmarkedTimeline = .ok graph' ∧ graph'.SplitsInto chains' ∧
      List.Forall₂ Chain.Alike chains chains' := by
  have succeeds : (build markedFrame markedTimeline).toOption.isSome = true := by
    decide
  cases built : build markedFrame markedTimeline with
  | error reason => simp [built, Except.toOption] at succeeds
  | ok graph =>
      obtain ⟨chains, splits, -, unchanged⟩ := structure_of_build built
      obtain ⟨graph', chains', built', splits', alike⟩ :=
        unchanged plainFrame unmarkedTimeline rfl rfl
      exact ⟨graph, graph', chains, chains', rfl, splits, built', splits', alike⟩

end Graph

end Montage.Filter
