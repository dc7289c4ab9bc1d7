import Montage.Proofs.Filter.Reduction

/-!
# What a graph plays

The terminal labels of a graph, unfolded through the statements that produce them, are
the parts of its timeline: the joined pictures under all texts, and the mix of the joined
clip sounds and the placed audio clips.
-/

namespace Montage.Filter

namespace Graph

/-- A graph that plays the items of a timeline, each from its own input. -/
structure Plays (frame : Frame) (graph : Graph) (items : List ResolvedItem) : Prop where
  inputs : graph.inputs = (playedItems items).map fun entry => inputOf frame entry.1
  picture : ∃ picture, Signal.join? false (picturesOf frame items) = some picture ∧
    graph.program.Carries graph.videoLabel (picture.draw (drawingsOf frame items))
  sound : graph.audioLabel.map (fun label => graph.program.signal? (.label label)) =
    (Signal.mix? (sourcesOf items)).map some
  styled : ∀ resolved ∈ items, ∀ overlay, resolved.item = .text overlay →
    (drawingOf? frame resolved).isSome
  delays : ∀ resolved ∈ items, ∀ clip, resolved.item = .audio clip →
    (resolved.start * 1000).round = .ok (startDelay resolved)

variable {frame : Frame} {timeline : ResolvedTimeline} {graph : Graph}

theorem plays_of_build (built : build frame timeline = .ok graph) :
    graph.Plays frame timeline.items := by
  simp only [build, bind_eq_ok_iff, Prod.exists] at built
  obtain ⟨parts, added, joined, lone, reduced, drawn, video, texts, mixed, audio, sound,
    rest⟩ := built
  have tracks := Builder.tracks_of_foldlM added
  obtain ⟨carries, joinedInputs, picture, whole, stands⟩ := tracks.carries.reduceVideo reduced
  obtain ⟨carries, drawnInputs, shown, styled⟩ := carries.addTexts stands texts
  obtain ⟨mixedInputs, kept, heard⟩ := carries.reduceAudio sound
  cases checked : mixed.program.validate video audio with
  | error reason => simp [checked] at rest
  | ok done =>
      simp only [checked, Except.ok.injEq] at rest
      subst rest
      have inputs : mixed.inputs = parts.inputs := by
        rw [mixedInputs, drawnInputs, joinedInputs]
      exact ⟨inputs.trans tracks.inputs, ⟨picture, whole, kept _ _ shown⟩, heard, styled,
        tracks.delays⟩

theorem Plays.input {items : List ResolvedItem} (plays : graph.Plays frame items)
    {resolved : ResolvedItem} {index : Nat} (member : (resolved, index) ∈ playedItems items) :
    graph.inputs[index]? = some (inputOf frame resolved) := by
  have found : (playedItems items)[index]? = some (resolved, index) := by
    rw [playedItems] at member ⊢
    rw [List.getElem?_zipIdx, List.mem_zipIdx_iff_getElem?.mp member]
    simp
  rw [plays.inputs, List.getElem?_map, found, Option.map_some]

/-- A graph is silent exactly when its timeline has no source of sound. -/
theorem Plays.audioLabel_eq_none_iff {items : List ResolvedItem}
    (plays : graph.Plays frame items) :
    graph.audioLabel = none ↔ sourcesOf items = [] := by
  have sound := congrArg Option.isNone plays.sound
  rw [Option.isNone_map, Option.isNone_map] at sound
  rw [← Option.isNone_iff_eq_none, sound, Option.isNone_iff_eq_none, Signal.mix?_eq_none_iff]

/-- The terminal labels of a graph that is built from a timeline unfold to its items.  The
picture is all pictures joined in order, with all texts drawn over it in order.  The sound
is the mix of the joined sounds of the clips that are heard and of the audio clips, and
there is none when there is no such source.  Every item that plays a file does so through
the input that is made from it. -/
theorem terminals_unfold_of_build (built : build frame timeline = .ok graph) :
    (∃ picture, Signal.join? false (picturesOf frame timeline.items) = some picture ∧
      graph.program.signal? (.label graph.videoLabel) =
        some (picture.draw (drawingsOf frame timeline.items))) ∧
    (∀ resolved ∈ timeline.items, ∀ overlay, resolved.item = .text overlay →
      (drawingOf? frame resolved).isSome) ∧
    graph.audioLabel.map (fun label => graph.program.signal? (.label label)) =
      (Signal.mix? (sourcesOf timeline.items)).map some ∧
    (graph.audioLabel = none ↔ sourcesOf timeline.items = []) ∧
    (∀ resolved ∈ timeline.items, ∀ clip, resolved.item = .audio clip →
      (resolved.start * 1000).round = .ok (startDelay resolved)) ∧
    graph.inputs.length = (playedItems timeline.items).length ∧
    ∀ resolved index, (resolved, index) ∈ playedItems timeline.items →
      graph.inputs[index]? = some (inputOf frame resolved) := by
  have plays := plays_of_build built
  refine ⟨plays.picture, plays.styled, plays.sound, plays.audioLabel_eq_none_iff,
    plays.delays, ?_, fun _ _ member => plays.input member⟩
  rw [plays.inputs, List.length_map]

def plainFrame : Frame := ⟨640, 360, none, 25, .cover⟩

/-- A title over a video clip and an image, with a second track that starts between
them. -/
def mixedTimeline : ResolvedTimeline where
  items := [
    ⟨.text ⟨"Title", "basic", none, .named "center", 0, 3⟩, 0, 3, none, false⟩,
    ⟨.video ⟨"a.mp4", none, 100, none⟩, 0, 4, some (.ofString "a.mp4"), true⟩,
    ⟨.audio ⟨"m.mp3", none, none, none, 50⟩, 4, 2, some (.ofString "m.mp3"), true⟩,
    ⟨.image ⟨"b.png", 5, none⟩, 4, 5, some (.ofString "b.png"), false⟩]
  totalDuration := 9

/-- The mixed timeline has a graph, and it unfolds to two pictures under a title. -/
theorem terminals_unfold_mixedTimeline :
    ∃ graph, build plainFrame mixedTimeline = .ok graph ∧
      (∃ picture, Signal.join? false (picturesOf plainFrame mixedTimeline.items) =
          some picture ∧
        graph.program.signal? (.label graph.videoLabel) =
          some (picture.draw (drawingsOf plainFrame mixedTimeline.items))) ∧
      (picturesOf plainFrame mixedTimeline.items).length = 2 ∧
      (drawingsOf plainFrame mixedTimeline.items).length = 1 ∧
      (sourcesOf mixedTimeline.items).length = 2 := by
  have succeeds : (build plainFrame mixedTimeline).toOption.isSome = true := by
    decide +kernel
  cases built : build plainFrame mixedTimeline with
  | error reason => simp [built, Except.toOption] at succeeds
  | ok graph =>
      have unfolds := terminals_unfold_of_build built
      exact ⟨graph, rfl, unfolds.1, by decide +kernel, by decide +kernel,
        by decide +kernel⟩

end Graph

end Montage.Filter
