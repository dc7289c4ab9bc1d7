import Montage.Proofs.Filter.Score
import Montage.Proofs.Sequence

/-!
# Graphs under construction

While a graph is built its labels stand for what the items so far contribute, and its
inputs are theirs.  Each item adds its own part and leaves the labels before it alone.
-/

namespace Montage.Filter

namespace Builder

def CarriesSegment (program : Program) (label : String × Binary64)
    (segment : Signal × Binary64) : Prop :=
  program.Carries label.1 segment.1 ∧ label.2 = segment.2

/-- The labels of a graph under construction stand for these pictures, sounds and audio
clips. -/
structure Carries (builder : Builder) (pictures sounds : List (Signal × Binary64))
    (overlays : List Signal) : Prop where
  tracked : builder.program.Tracked
  pictures : List.Forall₂ (CarriesSegment builder.program) builder.pictures pictures
  sounds : List.Forall₂ (CarriesSegment builder.program) builder.sounds sounds
  overlays : List.Forall₂ builder.program.Carries builder.overlays overlays

variable {frame : Frame} {builder after : Builder} {statement : Statement}
  {pictures sounds : List (Signal × Binary64)} {overlays sources : List Signal}

theorem carries_empty : empty.Carries [] [] [] :=
  ⟨Program.tracked_empty 0, .nil, .nil, .nil⟩

theorem Carries.addInput (carries : builder.Carries pictures sounds overlays)
    (path : Option Path) (options : List String) :
    (builder.addInput path options).1.Carries pictures sounds overlays :=
  ⟨carries.tracked, carries.pictures, carries.sounds, carries.overlays⟩

theorem addStatement_ok (added : builder.addStatement statement = .ok after) :
    ∃ program, builder.program.add? statement = .ok program ∧
      after = { builder with program } := by
  unfold addStatement at added
  cases taken : builder.program.add? statement with
  | error reason => simp [taken] at added
  | ok program =>
      simp only [taken, Except.ok.injEq] at added
      exact ⟨program, rfl, added.symm⟩

/-- Whether the labels of a graph under construction still stand for the same later. -/
def Keeps (builder after : Builder) : Prop :=
  ∀ name signal, builder.program.Carries name signal → after.program.Carries name signal

/-- A further statement changes nothing of what the labels before it stand for. -/
theorem keeps_addStatement (tracked : builder.program.Tracked)
    (added : builder.addStatement statement = .ok after) : builder.Keeps after := by
  obtain ⟨program, taken, rfl⟩ := addStatement_ok added
  exact fun _ _ stands => Program.signal?_add? tracked taken stands

/-- The parts so far are still there after a further statement. -/
theorem Carries.addStatement (carries : builder.Carries pictures sounds overlays)
    (added : builder.addStatement statement = .ok after) :
    after.Carries pictures sounds overlays := by
  have kept := keeps_addStatement carries.tracked added
  obtain ⟨program, taken, rfl⟩ := addStatement_ok added
  have keptSegment : ∀ label segment, CarriesSegment builder.program label segment →
      CarriesSegment program label segment := fun label segment stands =>
    ⟨kept label.1 segment.1 stands.1, stands.2⟩
  exact ⟨carries.tracked.add? taken, carries.pictures.imp keptSegment,
    carries.sounds.imp keptSegment, carries.overlays.imp kept⟩

/-- The label of a further statement stands for its operation on what its inputs stand
for. -/
theorem carries_statement (added : builder.addStatement statement = .ok after)
    (stand : List.Forall₂ (fun pad signal => builder.program.signal? pad = some signal)
      statement.inputs sources) :
    after.program.Carries statement.output (.result statement.operation sources) := by
  obtain ⟨program, taken, rfl⟩ := addStatement_ok added
  exact Program.carries_output taken stand

theorem carries_statement_stream {reference : StreamRef} {label : String}
    {operation : Operation}
    (added : builder.addStatement ⟨[.stream reference], label, operation⟩ = .ok after) :
    after.program.Carries label (.result operation [.stream reference]) :=
  carries_statement added (.cons (by simp [Program.signal?]) .nil)

theorem addStatement_frame (added : builder.addStatement statement = .ok after) :
    after.inputs = builder.inputs ∧ after.pictures = builder.pictures ∧
      after.sounds = builder.sounds ∧ after.overlays = builder.overlays := by
  obtain ⟨program, -, rfl⟩ := addStatement_ok added
  exact ⟨rfl, rfl, rfl, rfl⟩

theorem Carries.addPicture (carries : builder.Carries pictures sounds overlays)
    {index : Nat} {scaling : Option ScalingMode} {duration : Binary64}
    (added : builder.addPicture frame index scaling duration = .ok after) :
    after.Carries (pictures ++ [(fittedPicture frame index scaling, duration)]) sounds
      overlays ∧ after.inputs = builder.inputs := by
  rw [Builder.addPicture, bind_eq_ok_iff] at added
  obtain ⟨middle, scaled, rest⟩ := added
  simp only [Except.ok.injEq] at rest
  subst rest
  have kept := carries.addStatement scaled
  have stands := carries_statement_stream scaled
  refine ⟨⟨kept.tracked, ?_, kept.sounds, kept.overlays⟩,
    (addStatement_frame scaled).1⟩
  exact List.rel_append kept.pictures (.cons ⟨stands, rfl⟩ .nil)

theorem Carries.addVideo (carries : builder.Carries pictures sounds overlays)
    {resolved : ResolvedItem} {clip : VideoClip} (plays : resolved.item = .video clip)
    (added : builder.addVideo frame resolved clip = .ok after) :
    after.Carries
        (pictures ++ (pictureOf? frame (resolved, builder.inputs.length)).toList)
        (sounds ++ (soundOf? (resolved, builder.inputs.length)).toList) overlays ∧
      after.inputs = builder.inputs ++ [inputOf frame resolved] := by
  simp only [Builder.addVideo, bind_eq_ok_iff] at added
  obtain ⟨pictured, fitted, rest⟩ := added
  obtain ⟨keeps, inputs⟩ := (carries.addInput _ _).addPicture fitted
  have extended : pictured.inputs = builder.inputs ++ [inputOf frame resolved] := by
    simpa [Builder.addInput, inputOf, trimOptions, plays] using inputs
  by_cases heard : 0 < clip.volume ∧ resolved.hasAudio
  · rw [if_pos heard, bind_eq_ok_iff] at rest
    obtain ⟨sounded, voiced, rest⟩ := rest
    simp only [Except.ok.injEq] at rest
    subst rest
    have kept := keeps.addStatement voiced
    have stands := carries_statement_stream voiced
    simp only [pictureOf?, soundOf?, plays, if_pos heard, Option.toList_some]
    refine ⟨⟨kept.tracked, kept.pictures, ?_, kept.overlays⟩, ?_⟩
    · exact List.rel_append kept.sounds (.cons ⟨stands, rfl⟩ .nil)
    · rw [← extended]
      exact (addStatement_frame voiced).1
  · rw [if_neg heard, Except.ok.injEq] at rest
    subst rest
    simp only [pictureOf?, soundOf?, plays, if_neg heard, Option.toList_some,
      Option.toList_none, List.append_nil]
    exact ⟨keeps, extended⟩

theorem Carries.addImage (carries : builder.Carries pictures sounds overlays)
    {resolved : ResolvedItem} {clip : ImageClip} (shows : resolved.item = .image clip)
    (added : builder.addImage frame resolved clip = .ok after) :
    after.Carries
        (pictures ++ (pictureOf? frame (resolved, builder.inputs.length)).toList)
        sounds overlays ∧
      after.inputs = builder.inputs ++ [inputOf frame resolved] := by
  obtain ⟨keeps, inputs⟩ := (carries.addInput _ _).addPicture added
  have extended : after.inputs = builder.inputs ++ [inputOf frame resolved] := by
    simpa [Builder.addInput, inputOf, trimOptions, shows] using inputs
  simp only [pictureOf?, shows, Option.toList_some]
  exact ⟨keeps, extended⟩

/-- An audio clip is placed at its start, which has to be a finite time. -/
theorem Carries.addAudio (carries : builder.Carries pictures sounds overlays)
    {resolved : ResolvedItem} {clip : AudioClip} (plays : resolved.item = .audio clip)
    (added : builder.addAudio resolved clip = .ok after) :
    (after.Carries pictures sounds
        (overlays ++ (placementOf? (resolved, builder.inputs.length)).toList) ∧
      after.inputs = builder.inputs ++ [inputOf frame resolved]) ∧
      (resolved.start * 1000).round = .ok (startDelay resolved) := by
  simp only [Builder.addAudio] at added
  cases rounded : (resolved.start * 1000).round with
  | error reason => simp [rounded] at added
  | ok delay =>
      simp only [rounded, bind_eq_ok_iff] at added
      obtain ⟨placed, moved, rest⟩ := added
      simp only [Except.ok.injEq] at rest
      subst rest
      have kept := (carries.addInput _ _).addStatement moved
      have stands := carries_statement_stream moved
      have delayEq : startDelay resolved = delay := by simp [startDelay, rounded]
      simp only [placementOf?, plays, delayEq, Option.toList_some]
      refine ⟨⟨⟨kept.tracked, kept.pictures, kept.sounds, ?_⟩, ?_⟩, trivial⟩
      · exact List.rel_append kept.overlays (.cons stands .nil)
      · have inputs := (addStatement_frame moved).1
        simpa [Builder.addInput, inputOf, trimOptions, plays] using inputs

/-- A graph under construction that holds the inputs and the parts of the items so far,
whose audio clips start at finite times. -/
structure Tracks (frame : Frame) (builder : Builder) (items : List ResolvedItem) :
    Prop where
  inputs : builder.inputs = (playedItems items).map fun entry => inputOf frame entry.1
  carries : builder.Carries (picturesOf frame items) (soundsOf items) (placementsOf items)
  delays : ∀ resolved ∈ items, ∀ clip, resolved.item = .audio clip →
    (resolved.start * 1000).round = .ok (startDelay resolved)

theorem tracks_empty : empty.Tracks frame [] :=
  ⟨rfl, carries_empty, by simp⟩

variable {items : List ResolvedItem} {resolved : ResolvedItem}

/-- The parts of an item that plays a file come from the input with its index. -/
theorem Tracks.extend (tracks : builder.Tracks frame items)
    (plays : resolved.item.filename?.isSome)
    (carries : after.Carries
      (picturesOf frame items ++ (pictureOf? frame (resolved, builder.inputs.length)).toList)
      (soundsOf items ++ (soundOf? (resolved, builder.inputs.length)).toList)
      (placementsOf items ++ (placementOf? (resolved, builder.inputs.length)).toList))
    (inputs : after.inputs = builder.inputs ++ [inputOf frame resolved])
    (delay : ∀ clip, resolved.item = .audio clip →
      (resolved.start * 1000).round = .ok (startDelay resolved)) :
    after.Tracks frame (items ++ [resolved]) := by
  have index : builder.inputs.length = (playedItems items).length := by
    simp [tracks.inputs]
  rw [index] at carries
  refine ⟨?_, ?_, ?_⟩
  · rw [inputs, tracks.inputs, playedItems_concat plays]
    simp
  · simpa only [picturesOf, soundsOf, placementsOf, filterMap_playedItems_concat _ plays]
      using carries
  · intro other member clip isAudio
    rcases List.mem_append.mp member with earlier | last
    · exact tracks.delays other earlier clip isAudio
    · obtain rfl := List.mem_singleton.mp last
      exact delay clip isAudio

/-- Every item keeps a graph under construction in step with the items so far. -/
theorem Tracks.addItem (tracks : builder.Tracks frame items)
    (added : builder.addItem frame resolved = .ok after) :
    after.Tracks frame (items ++ [resolved]) := by
  cases kind : resolved.item with
  | video clip =>
      simp only [Builder.addItem, kind] at added
      obtain ⟨carries, inputs⟩ := tracks.carries.addVideo kind added
      refine tracks.extend (by simp [kind, TimelineItem.filename?]) ?_ inputs (by simp [kind])
      simpa [placementOf?, kind] using carries
  | image clip =>
      simp only [Builder.addItem, kind] at added
      obtain ⟨carries, inputs⟩ := tracks.carries.addImage kind added
      refine tracks.extend (by simp [kind, TimelineItem.filename?]) ?_ inputs (by simp [kind])
      simpa [soundOf?, placementOf?, kind] using carries
  | audio clip =>
      simp only [Builder.addItem, kind] at added
      obtain ⟨⟨carries, inputs⟩, delay⟩ := tracks.carries.addAudio kind added
      refine tracks.extend (by simp [kind, TimelineItem.filename?]) ?_ inputs
        fun _ _ => delay
      simpa [pictureOf?, soundOf?, kind] using carries
  | text overlay =>
      simp only [Builder.addItem, kind, Except.ok.injEq] at added
      subst added
      refine ⟨?_, ?_, ?_⟩
      · rw [playedItems_concat_text kind, tracks.inputs]
      · simpa only [picturesOf, soundsOf, placementsOf, playedItems_concat_text kind]
          using tracks.carries
      · intro other member clip isAudio
        rcases List.mem_append.mp member with earlier | last
        · exact tracks.delays other earlier clip isAudio
        · obtain rfl := List.mem_singleton.mp last
          simp [kind] at isAudio

theorem tracks_of_foldlM (added : items.foldlM (Builder.addItem frame) empty = .ok after) :
    after.Tracks frame items := by
  have run := foldlM_invariant (fun builder items => builder.Tracks frame items)
    (fun _ _ _ _ tracks step => tracks.addItem step) tracks_empty added
  simpa using run

end Builder

end Montage.Filter
