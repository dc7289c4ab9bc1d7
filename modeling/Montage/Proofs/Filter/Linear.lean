import Montage.Proofs.Filter.Construction
import Montage.Proofs.Filter.Wiring
import Mathlib.Data.List.Nodup

/-!
# Labels used once

While a graph is built, the labels that its statements read and those that are still open
are together the labels that its statements produce, each once.  A statement moves the
labels that it reads from the open ones and leaves its own open.  At the end only the
terminal labels are open.
-/

namespace Montage.Filter

namespace Program

/-- A program of sound statements whose labels are each produced once, and of which the
open ones are those that no statement reads. -/
structure Linear (program : Program) (opened : List String) : Prop where
  produced : program.produced = program.statements.map Statement.output
  consumed : program.consumed =
    program.statements.flatMap fun statement => statement.inputs.filterMap Pad.label?
  fresh : program.produced.Nodup
  balanced : (program.consumed ++ opened).Perm program.produced
  sound : ∀ statement ∈ program.statements, statement.Sound

variable {program after : Program} {opened remaining : List String} {statement : Statement}

theorem linear_empty (inputCount : Int) : (empty inputCount).Linear [] :=
  ⟨rfl, rfl, List.nodup_nil, .refl _, by simp [empty]⟩

theorem Linear.perm (linear : program.Linear opened) (same : opened.Perm remaining) :
    program.Linear remaining :=
  ⟨linear.produced, linear.consumed, linear.fresh,
    (same.symm.append_left _).trans linear.balanced, linear.sound⟩

theorem Linear.alphanumeric (linear : program.Linear opened) {label : String}
    (produced : label ∈ program.produced) : Alphanumeric label := by
  rw [linear.produced, List.mem_map] at produced
  obtain ⟨statement, member, rfl⟩ := produced
  exact (linear.sound statement member).output

/-- A further statement reads open labels and leaves its own label open. -/
theorem Linear.add? (linear : program.Linear opened)
    (added : program.add? statement = .ok after)
    (reads : (statement.inputs.filterMap Pad.label? ++ remaining).Perm opened)
    (streams : ∀ reference, .stream reference ∈ statement.inputs →
      Alphanumeric reference.kind)
    (output : Alphanumeric statement.output)
    (operation : statement.operation.Sound statement.inputs.length) :
    after.Linear (remaining ++ [statement.output]) := by
  obtain ⟨fresh, rfl⟩ := add?_ok added
  -- What is read was open, and everything open was produced before.
  have known : ∀ label ∈ statement.inputs.filterMap Pad.label?, label ∈ program.produced :=
    fun label member => linear.balanced.subset <|
      List.mem_append_right _ (reads.subset (List.mem_append_left _ member))
  have sound : statement.Sound := by
    refine ⟨fun pad member => ?_, output, operation⟩
    cases pad with
    | stream reference => exact streams reference member
    | label name =>
        exact linear.alphanumeric (known name (List.mem_filterMap.mpr ⟨_, member, rfl⟩))
  constructor
  case produced => simp [linear.produced]
  case consumed => simp [linear.consumed]
  case fresh =>
    rw [List.nodup_append]
    refine ⟨linear.fresh, List.nodup_singleton _, fun label produced other last => ?_⟩
    rintro rfl
    exact fresh (List.mem_singleton.mp last ▸ produced)
  case balanced =>
    have balanced := ((reads.append_left program.consumed).trans linear.balanced).append_right
      [statement.output]
    simpa only [List.append_assoc] using balanced
  case sound =>
    intro other member
    rcases List.mem_append.mp member with earlier | last
    · exact linear.sound other earlier
    · exact List.mem_singleton.mp last ▸ sound

end Program

namespace Builder

/-- The labels of pictures, clip sounds and audio clips that nothing has read so far. -/
def opened (builder : Builder) : List String :=
  builder.pictures.map Prod.fst ++ builder.sounds.map Prod.fst ++ builder.overlays

variable {frame : Frame} {builder after : Builder} {statement : Statement}
  {opened remaining : List String}

/-- A statement on one raw stream leaves its label open with the others. -/
theorem linear_stream {index : Int} {kind letter : String} {number : Nat}
    {operation : Operation} (linear : builder.program.Linear opened)
    (added : builder.addStatement
      ⟨[.stream ⟨index, kind⟩], numbered letter number, operation⟩ = .ok after)
    (kindNamed : Alphanumeric kind) (named : Alphanumeric letter)
    (sound : operation.Sound 1) :
    after.program.Linear (opened ++ [numbered letter number]) := by
  obtain ⟨program, taken, rfl⟩ := addStatement_ok added
  refine linear.add? taken ?_ ?_ (alphanumeric_numbered named number) sound
  · simp [List.filterMap_cons, Pad.label?]
  · simpa using kindNamed

theorem linear_labels {output : String} {operation : Operation}
    (labels remaining : List String) (linear : builder.program.Linear opened)
    (added : builder.addStatement ⟨labels.map .label, output, operation⟩ = .ok after)
    (reads : (labels ++ remaining).Perm opened) (named : Alphanumeric output)
    (sound : operation.Sound labels.length) :
    after.program.Linear (remaining ++ [output]) := by
  obtain ⟨program, taken, rfl⟩ := addStatement_ok added
  refine linear.add? taken ?_ (by simp) named (by simpa using sound)
  simpa [List.filterMap_map, Function.comp_def, Pad.label?] using reads

/-- A join leaves its own label open in place of the labels of its segments. -/
theorem linear_segments {segments : List (String × Binary64)} {audio : Bool} {output : String}
    (remaining : List String) (linear : builder.program.Linear opened)
    (added : builder.addStatement ⟨segments.map fun segment => .label segment.1, output,
      .concat (segments.map fun segment => segment.2) audio⟩ = .ok after)
    (reads : (segments.map Prod.fst ++ remaining).Perm opened) (named : Alphanumeric output) :
    after.program.Linear (remaining ++ [output]) := by
  have labels : segments.map (fun segment => Pad.label segment.1) =
      (segments.map Prod.fst).map .label := by simp
  rw [labels] at added
  exact linear_labels _ remaining linear added reads named (by simp [Operation.Sound])

/-- A new label may stand before some of the open ones. -/
theorem perm_insert (front back : List String) (label : String) :
    (front ++ back ++ [label]).Perm (front ++ [label] ++ back) := by
  rw [List.append_assoc, List.append_assoc]
  exact List.perm_append_comm.append_left front

section Items

/-- Whether the labels of a graph under construction are the open ones. -/
def Linear (builder : Builder) : Prop :=
  builder.program.Linear builder.opened

theorem Linear.addInput (linear : builder.Linear) (path : Option Path)
    (options : List String) : (builder.addInput path options).1.Linear :=
  ⟨linear.produced, linear.consumed, linear.fresh, linear.balanced, linear.sound⟩

theorem Linear.addPicture (linear : builder.Linear) {index : Int}
    {scaling : Option ScalingMode} {duration : Binary64}
    (added : builder.addPicture frame index scaling duration = .ok after) : after.Linear := by
  rw [Builder.addPicture, bind_eq_ok_iff] at added
  obtain ⟨middle, scaled, rest⟩ := added
  simp only [Except.ok.injEq] at rest
  subst rest
  have further := linear_stream linear scaled (by decide) (by decide) ⟨_, _, _, rfl⟩
  obtain ⟨-, pictures, sounds, overlays⟩ := addStatement_frame scaled
  refine further.perm ?_
  simpa [Builder.opened, pictures, sounds, overlays] using
    perm_insert (builder.pictures.map Prod.fst) (builder.sounds.map Prod.fst ++ builder.overlays)
      _

theorem Linear.addVideo (linear : builder.Linear) {resolved : ResolvedItem}
    {clip : VideoClip} (added : builder.addVideo frame resolved clip = .ok after) :
    after.Linear := by
  simp only [Builder.addVideo, bind_eq_ok_iff] at added
  obtain ⟨pictured, fitted, rest⟩ := added
  have linear := (linear.addInput _ _).addPicture fitted
  by_cases heard : 0 < clip.volume ∧ resolved.hasAudio
  · rw [if_pos heard, bind_eq_ok_iff] at rest
    obtain ⟨sounded, voiced, rest⟩ := rest
    simp only [Except.ok.injEq] at rest
    subst rest
    have further := linear_stream linear voiced (by decide) (by decide) trivial
    obtain ⟨-, pictures, sounds, overlays⟩ := addStatement_frame voiced
    refine further.perm ?_
    simpa [Builder.opened, pictures, sounds, overlays] using
      perm_insert (pictured.pictures.map Prod.fst ++ pictured.sounds.map Prod.fst)
        pictured.overlays _
  · rw [if_neg heard, Except.ok.injEq] at rest
    exact rest ▸ linear

theorem Linear.addAudio (linear : builder.Linear) {resolved : ResolvedItem}
    {clip : AudioClip} (added : builder.addAudio resolved clip = .ok after) :
    after.Linear := by
  simp only [Builder.addAudio] at added
  cases rounded : (resolved.start * 1000).round with
  | error reason => simp [rounded] at added
  | ok delay =>
      simp only [rounded, bind_eq_ok_iff] at added
      obtain ⟨placed, moved, rest⟩ := added
      simp only [Except.ok.injEq] at rest
      subst rest
      have further := linear_stream (linear.addInput _ _) moved (by decide) (by decide) trivial
      obtain ⟨-, pictures, sounds, overlays⟩ := addStatement_frame moved
      refine further.perm ?_
      simp [Builder.opened, pictures, sounds, overlays]

/-- Every item leaves the labels of its own statements open. -/
theorem Linear.addItem (linear : builder.Linear) {resolved : ResolvedItem}
    (added : builder.addItem frame resolved = .ok after) : after.Linear := by
  cases kind : resolved.item with
  | video clip =>
      simp only [Builder.addItem, kind] at added
      exact linear.addVideo added
  | image clip =>
      simp only [Builder.addItem, kind] at added
      exact (linear.addInput _ _).addPicture added
  | audio clip =>
      simp only [Builder.addItem, kind] at added
      exact linear.addAudio added
  | text overlay =>
      simp only [Builder.addItem, kind, Except.ok.injEq] at added
      exact added ▸ linear

theorem Linear.addItems (linear : builder.Linear) {items : List ResolvedItem}
    (added : items.foldlM (Builder.addItem frame) builder = .ok after) : after.Linear := by
  induction items generalizing builder with
  | nil =>
      simp only [List.foldlM_nil, pure, Except.pure, Except.ok.injEq] at added
      exact added ▸ linear
  | cons item items ih =>
      rw [List.foldlM_cons, bind_eq_ok_iff] at added
      obtain ⟨middle, first, rest⟩ := added
      exact ih (linear.addItem first) rest

end Items

section Reductions

variable {label final : String}

theorem Linear.reduceVideo (linear : builder.Linear)
    (reduced : builder.reduceVideo = .ok (after, label)) :
    after.program.Linear (label :: (after.sounds.map Prod.fst ++ after.overlays)) := by
  have start : builder.program.Linear builder.opened := linear
  unfold Builder.reduceVideo at reduced
  split at reduced
  next => simp at reduced
  next lone duration single =>
    simp only [Except.ok.injEq, Prod.mk.injEq] at reduced
    obtain ⟨rfl, rfl⟩ := reduced
    simpa [Builder.opened, single] using start
  next =>
    rw [bind_eq_ok_iff] at reduced
    obtain ⟨joined, taken, rest⟩ := reduced
    simp only [Except.ok.injEq, Prod.mk.injEq] at rest
    obtain ⟨rfl, rfl⟩ := rest
    obtain ⟨-, -, sounds, overlays⟩ := addStatement_frame taken
    rw [sounds, overlays]
    have further := linear_segments (builder.sounds.map Prod.fst ++ builder.overlays) start
      taken (by simp [Builder.opened]) (by decide)
    exact further.perm List.perm_append_comm

/-- A text is drawn over the open picture and leaves its own label open. -/
theorem linear_addText {resolved : ResolvedItem} {overlay : TextOverlay} {number : Nat}
    (linear : builder.program.Linear (label :: remaining))
    (drawn : builder.addText frame label number resolved overlay = .ok (after, final)) :
    after.program.Linear (final :: remaining) ∧ after.sounds = builder.sounds ∧
      after.overlays = builder.overlays := by
  unfold Builder.addText at drawn
  cases styled : TextStyle.find? overlay.style overlay.fontSize with
  | none => simp [styled] at drawn
  | some style =>
      simp only [styled, bind_eq_ok_iff] at drawn
      obtain ⟨written, taken, rest⟩ := drawn
      simp only [Except.ok.injEq, Prod.mk.injEq] at rest
      obtain ⟨rfl, rfl⟩ := rest
      obtain ⟨-, -, sounds, overlays⟩ := addStatement_frame taken
      have further := linear_labels [label] remaining linear taken (.refl _)
        (alphanumeric_numbered (by decide) number)
        (TextStyle.isPlain_of_find? styled)
      exact ⟨further.perm List.perm_append_comm, sounds, overlays⟩

theorem linear_addTexts {items : List ResolvedItem} {number : Nat}
    (linear : builder.program.Linear (label :: remaining))
    (drawn : builder.addTexts frame label number items = .ok (after, final)) :
    after.program.Linear (final :: remaining) ∧ after.sounds = builder.sounds ∧
      after.overlays = builder.overlays := by
  induction items generalizing builder label number with
  | nil =>
      simp only [Builder.addTexts, Except.ok.injEq, Prod.mk.injEq] at drawn
      obtain ⟨rfl, rfl⟩ := drawn
      exact ⟨linear, rfl, rfl⟩
  | cons resolved items ih =>
      cases kind : resolved.item with
      | text overlay =>
          simp only [Builder.addTexts, kind, bind_eq_ok_iff, Prod.exists] at drawn
          obtain ⟨middle, drawnOn, first, rest⟩ := drawn
          obtain ⟨linear, sounds, overlays⟩ := linear_addText linear first
          obtain ⟨linear, sounds', overlays'⟩ := ih linear rest
          exact ⟨linear, sounds'.trans sounds, overlays'.trans overlays⟩
      | video _ | image _ | audio _ =>
          simp only [Builder.addTexts, kind] at drawn
          exact ih linear drawn

theorem linear_reduceSounds {labels : List String}
    (linear : builder.program.Linear
      (label :: (builder.sounds.map Prod.fst ++ builder.overlays)))
    (reduced : builder.reduceSounds = .ok (after, labels)) :
    after.program.Linear (label :: (labels ++ after.overlays)) := by
  unfold Builder.reduceSounds at reduced
  split at reduced
  next none =>
    simp only [Except.ok.injEq, Prod.mk.injEq] at reduced
    obtain ⟨rfl, rfl⟩ := reduced
    simpa [none] using linear
  next lone duration single =>
    simp only [Except.ok.injEq, Prod.mk.injEq] at reduced
    obtain ⟨rfl, rfl⟩ := reduced
    simpa [single] using linear
  next =>
    rw [bind_eq_ok_iff] at reduced
    obtain ⟨joined, taken, rest⟩ := reduced
    simp only [Except.ok.injEq, Prod.mk.injEq] at rest
    obtain ⟨rfl, rfl⟩ := rest
    obtain ⟨-, -, -, overlays⟩ := addStatement_frame taken
    have further := linear_segments (label :: builder.overlays) linear taken List.perm_middle
      (by decide)
    rw [overlays]
    exact further.perm (perm_insert [label] builder.overlays _)

/-- All open sounds are read at last, and only the terminal labels are left. -/
theorem linear_reduceAudio {audio : Option String}
    (linear : builder.program.Linear
      (label :: (builder.sounds.map Prod.fst ++ builder.overlays)))
    (reduced : builder.reduceAudio = .ok (after, audio)) :
    after.program.Linear (label :: audio.toList) := by
  simp only [Builder.reduceAudio, bind_eq_ok_iff, Prod.exists] at reduced
  obtain ⟨joined, labels, first, rest⟩ := reduced
  have linear := linear_reduceSounds linear first
  split at rest
  next none =>
    simp only [Except.ok.injEq, Prod.mk.injEq] at rest
    obtain ⟨rfl, rfl⟩ := rest
    simpa [none] using linear
  next lone single =>
    rw [bind_eq_ok_iff] at rest
    obtain ⟨mixed, taken, rest⟩ := rest
    simp only [Except.ok.injEq, Prod.mk.injEq] at rest
    obtain ⟨rfl, rfl⟩ := rest
    rw [single] at linear
    exact linear_labels [lone] [label] linear taken
      (List.Perm.swap _ _ _) (by decide) trivial
  next =>
    rw [bind_eq_ok_iff] at rest
    obtain ⟨mixed, taken, rest⟩ := rest
    simp only [Except.ok.injEq, Prod.mk.injEq] at rest
    obtain ⟨rfl, rfl⟩ := rest
    exact linear_labels _ [label] linear taken List.perm_append_comm
      (by decide) trivial

end Reductions

end Builder

namespace Graph

variable {frame : Frame} {timeline : ResolvedTimeline} {graph : Graph}

/-- A graph that is built leaves its terminal labels open and no other. -/
theorem linear_of_build (built : build frame timeline = .ok graph) :
    graph.program.Linear (graph.videoLabel :: graph.audioLabel.toList) := by
  simp only [build, bind_eq_ok_iff, Prod.exists] at built
  obtain ⟨parts, added, joined, lone, reduced, drawn, video, texts, mixed, audio, sound,
    rest⟩ := built
  have start : Builder.empty.Linear := Program.linear_empty 0
  have linear := (start.addItems added).reduceVideo reduced
  obtain ⟨linear, sounds, overlays⟩ := Builder.linear_addTexts linear texts
  rw [← sounds, ← overlays] at linear
  have linear := Builder.linear_reduceAudio linear sound
  cases checked : mixed.program.validate video audio with
  | error reason => simp [checked] at rest
  | ok done =>
      simp only [checked, Except.ok.injEq] at rest
      exact rest ▸ linear

end Graph

end Montage.Filter
