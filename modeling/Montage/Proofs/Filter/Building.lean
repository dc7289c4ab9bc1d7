import Montage.Proofs.Filter.Labels
import Montage.Proofs.Filter.Structure
import Montage.Proofs.Filter.Turns
import Montage.Proofs.Numeric.Order

/-!
# When a timeline has a graph

The statements of a graph fit together by the way in which they are made: each reads open
labels or an input that is there, and its own label is new.  So a timeline has a graph unless
it shows no picture, names a style that is not known, or places sound at a time that is not
finite.
-/

namespace Montage.Filter

namespace Program

variable {program after : Program} {opened remaining : List String} {statement : Statement}

/-- A program whose statements read labels of earlier ones and streams of its inputs. -/
structure Causal (program : Program) : Prop where
  earlier : ∀ before statement behind, program.statements = before ++ statement :: behind →
    ∀ label, .label label ∈ statement.inputs → label ∈ before.map Statement.output
  indexed : ∀ statement ∈ program.statements, ∀ reference,
    .stream reference ∈ statement.inputs →
      0 ≤ reference.index ∧ reference.index < program.inputCount

theorem Causal.add? (causal : program.Causal) (tracked : program.Tracked)
    (added : program.add? statement = .ok after) : after.Causal := by
  obtain ⟨readable, -, rfl⟩ := add?_ok_iff.mp added
  refine ⟨fun before other behind split label member => ?_, fun other member => ?_⟩
  · -- The statement in question is the new one, or it stands among the others.
    rcases List.eq_nil_or_concat behind with rfl | ⟨front, last, rfl⟩
    · obtain ⟨rfl, same⟩ := List.append_inj' split rfl
      obtain rfl := List.singleton_inj.mp same
      rw [← show program.produced = program.statements.map Statement.output from tracked]
      exact readable.produced label (List.mem_filterMap.mpr ⟨_, member, rfl⟩)
    · have split : program.statements ++ [statement] = (before ++ other :: front) ++ [last] := by
        simpa using split
      exact causal.earlier before other front (List.append_inj' split rfl).1 label member
  · rcases List.mem_append.mp member with old | new
    · exact causal.indexed other old
    · exact List.mem_singleton.mp new ▸ readable.streams

/-- A statement on open labels and known streams is taken if its own label is new. -/
theorem Linear.exists_add? (linear : program.Linear opened)
    (reads : (statement.inputs.filterMap Pad.label? ++ remaining).Perm opened)
    (streams : ∀ reference, .stream reference ∈ statement.inputs →
      0 ≤ reference.index ∧ reference.index < program.inputCount)
    (fresh : statement.output ∉ program.produced) :
    ∃ after, program.add? statement = .ok after := by
  -- Whatever is open was produced, and has not been read.
  have whole : (program.consumed ++ opened).Nodup :=
    linear.balanced.symm.nodup linear.fresh
  have once : (statement.inputs.filterMap Pad.label? ++ remaining).Nodup :=
    reads.symm.nodup whole.of_append_right
  refine ⟨_, add?_ok_iff.mpr ⟨⟨streams, fun label member => ?_, fun label member read => ?_,
    once.of_append_left⟩, fresh, rfl⟩⟩
  · exact linear.balanced.subset
      (List.mem_append_right _ (reads.subset (List.mem_append_left _ member)))
  · exact List.disjoint_of_nodup_append whole read
      (reads.subset (List.mem_append_left _ member))

end Program

namespace Builder

/-- A graph under construction whose statements read earlier labels and streams of its inputs,
and which has given out no label but these. -/
structure Regular (builder : Builder) (later : List String) : Prop where
  causal : builder.program.Causal
  counted : builder.program.inputCount = builder.inputs.length
  named : ∀ label ∈ builder.program.produced, label ∈ builder.given ++ later

section Steps

variable {frame : Frame} {builder other : Builder} {statement : Statement}
  {opened remaining later more : List String}

theorem regular_empty : empty.Regular [] :=
  ⟨⟨by simp [empty, Program.empty], by simp [empty, Program.empty]⟩, rfl,
    by simp [empty, Program.empty]⟩

theorem given_subset (pictures : builder.pictures.length ≤ other.pictures.length)
    (sounds : builder.sounds.length ≤ other.sounds.length)
    (overlays : builder.overlays.length ≤ other.overlays.length) :
    builder.given ⊆ other.given := by
  have grows : ∀ (letter : String) {count count' : Nat}, count ≤ count' →
      (List.range count).map (numbered letter) ⊆ (List.range count').map (numbered letter) :=
    fun letter count count' within => List.map_subset _ (List.range_subset.mpr within)
  intro label member
  simp only [given, List.mem_append] at member ⊢
  exact member.imp (.imp (fun member => grows "v" pictures member)
    fun member => grows "a" sounds member) fun member => grows "o" overlays member

/-- The label of the last statement may be one of the given ones from then on. -/
theorem Regular.adopt {label : String} (regular : builder.Regular (later ++ [label]))
    (program : other.program = builder.program) (inputs : other.inputs = builder.inputs)
    (within : builder.given ⊆ other.given) (adopted : label ∈ other.given) :
    other.Regular later := by
  refine ⟨program ▸ regular.causal, ?_, fun name produced => ?_⟩
  · rw [program, inputs, regular.counted]
  · have known := regular.named name (program ▸ produced)
    rw [← List.append_assoc, List.mem_append, List.mem_append, List.mem_singleton] at known
    rcases known with (old | old) | rfl
    · exact List.mem_append_left _ (within old)
    · exact List.mem_append_right _ old
    · exact List.mem_append_left _ adopted

theorem Regular.exists_addStatement (regular : builder.Regular later)
    (linear : builder.program.Linear opened)
    (reads : (statement.inputs.filterMap Pad.label? ++ remaining).Perm opened)
    (streams : ∀ reference, .stream reference ∈ statement.inputs →
      0 ≤ reference.index ∧ reference.index < (builder.inputs.length : Int))
    (fresh : statement.output ∉ builder.given ++ later) :
    ∃ after, builder.addStatement statement = .ok after ∧
      after.Regular (later ++ [statement.output]) := by
  have unused : statement.output ∉ builder.program.produced := fun produced =>
    fresh (regular.named _ produced)
  obtain ⟨program, taken⟩ := linear.exists_add? reads (regular.counted ▸ streams) unused
  have causal := regular.causal.add? linear.produced taken
  refine ⟨{ builder with program }, by simp only [addStatement, taken], causal, ?_, ?_⟩
  all_goals obtain ⟨-, rfl⟩ := Program.add?_ok taken
  · exact regular.counted
  · intro label produced
    rcases List.mem_append.mp produced with old | new
    · have known := regular.named label old
      change label ∈ builder.given ++ (later ++ [statement.output])
      rw [← List.append_assoc]
      exact List.mem_append_left _ known
    · exact List.mem_append_right _ (List.mem_append_right _ new)

theorem Regular.exists_stream (regular : builder.Regular later)
    (linear : builder.program.Linear opened) {index : Int} {label : String}
    (known : 0 ≤ index ∧ index < builder.inputs.length)
    (fresh : label ∉ builder.given ++ later) (kind : String) (operation : Operation) :
    ∃ after, builder.addStatement ⟨[.stream ⟨index, kind⟩], label, operation⟩ = .ok after ∧
      after.Regular (later ++ [label]) := by
  refine regular.exists_addStatement linear (.refl _) (fun reference member => ?_) fresh
  obtain rfl := Pad.stream.inj (List.mem_singleton.mp member)
  exact known

theorem Regular.addInput (regular : builder.Regular later) (path : Option Path)
    (options : List String) : (builder.addInput path options).1.Regular later := by
  refine ⟨⟨regular.causal.earlier, fun statement member reference reads => ?_⟩, rfl, regular.named⟩
  have known := regular.causal.indexed statement member reference reads
  have counted := regular.counted
  simp only [Builder.addInput, List.length_append, List.length_singleton]
  omega

theorem known_addInput (builder : Builder) (path : Option Path) (options : List String) :
    0 ≤ (builder.inputs.length : Int) ∧
      (builder.inputs.length : Int) < (builder.addInput path options).1.inputs.length := by
  simp only [Builder.addInput, List.length_append, List.length_singleton]
  omega

theorem Regular.exists_addPicture (regular : builder.Regular []) (linear : builder.Linear)
    (frame : Frame) {index : Int} (known : 0 ≤ index ∧ index < builder.inputs.length)
    (scaling : Option ScalingMode) (duration : Binary64) :
    ∃ after, builder.addPicture frame index scaling duration = .ok after ∧
      after.inputs = builder.inputs ∧ after.Regular [] := by
  have fresh : numbered "v" builder.pictures.length ∉ builder.given ++ [] := by
    rw [List.append_nil]
    exact picture_not_mem_given
  obtain ⟨scaled, taken, regular⟩ := regular.exists_stream linear known fresh "v"
    (.scale ((scaling.getD frame.scaling).chain frame.width frame.height))
  obtain ⟨inputs, pictures, -, -⟩ := addStatement_frame taken
  refine ⟨_, bind_eq_ok_iff.mpr ⟨scaled, taken, rfl⟩, inputs, ?_⟩
  refine regular.adopt rfl rfl (given_subset (by simp) (by simp) (by simp)) ?_
  simp [given, pictures]

theorem Regular.exists_addVideo (regular : builder.Regular []) (linear : builder.Linear)
    (frame : Frame) (resolved : ResolvedItem) (clip : VideoClip) :
    ∃ after, builder.addVideo frame resolved clip = .ok after ∧ after.Regular [] := by
  let options := ["-ss", Decimal.amount resolved.cutStart, "-t", Decimal.amount resolved.duration]
  have known := known_addInput builder resolved.path options
  have regular := regular.addInput resolved.path options
  have linear := linear.addInput resolved.path options
  obtain ⟨pictured, fitted, inputs, regular⟩ :=
    regular.exists_addPicture linear frame known clip.scaling resolved.duration
  have linear := linear.addPicture fitted
  by_cases heard : 0 < clip.volume ∧ resolved.hasAudio
  · have fresh : numbered "a" pictured.sounds.length ∉ pictured.given ++ [] := by
      rw [List.append_nil]
      exact sound_not_mem_given
    obtain ⟨voiced, taken, regular⟩ := regular.exists_stream linear (inputs ▸ known) fresh "a"
      (.volume (clip.volume / 100))
    obtain ⟨-, -, sounds, -⟩ := addStatement_frame taken
    let after := { voiced with
      sounds := voiced.sounds ++ [(numbered "a" pictured.sounds.length, resolved.duration)] }
    refine ⟨after, bind_eq_ok_iff.mpr ⟨pictured, fitted, ?_⟩, ?_⟩
    · rw [if_pos heard]
      exact bind_eq_ok_iff.mpr ⟨voiced, taken, rfl⟩
    · have keeps : voiced.given ⊆ after.given :=
        given_subset (by simp [after]) (by simp [after]) (by simp [after])
      refine regular.adopt rfl rfl keeps ?_
      simp [after, given, sounds]
  · refine ⟨pictured, bind_eq_ok_iff.mpr ⟨pictured, fitted, ?_⟩, regular⟩
    rw [if_neg heard]

theorem Regular.exists_addAudio (regular : builder.Regular []) (linear : builder.Linear)
    (resolved : ResolvedItem) (clip : AudioClip) {delay : Int}
    (rounded : (resolved.start * 1000).round = .ok delay) :
    ∃ after, builder.addAudio resolved clip = .ok after ∧ after.Regular [] := by
  let options := (if 0 < resolved.cutStart then ["-ss", Decimal.amount resolved.cutStart]
    else []) ++ ["-t", Decimal.amount resolved.duration]
  have known := known_addInput builder resolved.path options
  have regular := regular.addInput resolved.path options
  have linear := linear.addInput resolved.path options
  have fresh : numbered "o" builder.overlays.length ∉ builder.given ++ [] := by
    rw [List.append_nil]
    exact overlay_not_mem_given
  obtain ⟨placed, taken, regular⟩ := regular.exists_stream linear known fresh "a"
    (.place delay (if clip.volume.equal fullVolume then none else some (clip.volume / 100)))
  obtain ⟨-, -, -, overlays⟩ := addStatement_frame taken
  let after := { placed with
    overlays := placed.overlays ++ [numbered "o" builder.overlays.length] }
  refine ⟨after, ?_, ?_⟩
  · simp only [addAudio, rounded]
    exact bind_eq_ok_iff.mpr ⟨placed, taken, rfl⟩
  · have keeps : placed.given ⊆ after.given :=
      given_subset (by simp [after]) (by simp [after]) (by simp [after])
    refine regular.adopt rfl rfl keeps ?_
    have counted : (builder.addInput resolved.path options).1.overlays = builder.overlays := rfl
    simp [after, given, overlays, counted]

/-- Every item is taken if it does not have to be placed at a time that is not finite. -/
theorem Regular.exists_addItem (regular : builder.Regular []) (linear : builder.Linear)
    (frame : Frame) (resolved : ResolvedItem) (finite : ∀ clip, resolved.item = .audio clip →
      ∃ delay, (resolved.start * 1000).round = .ok delay) :
    ∃ after, builder.addItem frame resolved = .ok after ∧ after.Regular [] := by
  cases kind : resolved.item with
  | video clip =>
      simp only [addItem, kind]
      exact regular.exists_addVideo linear frame resolved clip
  | image clip =>
      simp only [addItem, kind]
      obtain ⟨after, taken, -, regular⟩ := (regular.addInput resolved.path _).exists_addPicture
        (linear.addInput _ _) frame (known_addInput builder resolved.path _) clip.scaling
        resolved.duration
      exact ⟨after, taken, regular⟩
  | audio clip =>
      obtain ⟨delay, rounded⟩ := finite clip kind
      simp only [addItem, kind]
      exact regular.exists_addAudio linear resolved clip rounded
  | text overlay =>
      simp only [addItem, kind]
      exact ⟨builder, rfl, regular⟩

theorem Regular.exists_addItems (regular : builder.Regular []) (linear : builder.Linear)
    (frame : Frame) {items : List ResolvedItem} (finite : ∀ resolved ∈ items, ∀ clip,
      resolved.item = .audio clip → ∃ delay, (resolved.start * 1000).round = .ok delay) :
    ∃ after, items.foldlM (addItem frame) builder = .ok after ∧ after.Regular [] := by
  induction items generalizing builder with
  | nil => exact ⟨builder, rfl, regular⟩
  | cons resolved items ih =>
      obtain ⟨middle, taken, next⟩ := regular.exists_addItem linear frame resolved
        (finite resolved List.mem_cons_self)
      obtain ⟨after, others, last⟩ := ih next (linear.addItem taken) fun other member =>
        finite other (List.mem_cons_of_mem _ member)
      refine ⟨after, ?_, last⟩
      rw [List.foldlM_cons]
      exact bind_eq_ok_iff.mpr ⟨middle, taken, others⟩

end Steps

section Reductions

variable {frame : Frame} {builder after : Builder} {later opened : List String}
  {items : List ResolvedItem} {label final : String}

theorem Regular.exists_labels (regular : builder.Regular later)
    (linear : builder.program.Linear opened) (labels remaining : List String) {output : String}
    (reads : (labels ++ remaining).Perm opened) (fresh : output ∉ builder.given ++ later)
    (operation : Operation) :
    ∃ after, builder.addStatement ⟨labels.map .label, output, operation⟩ = .ok after ∧
      after.Regular (later ++ [output]) := by
  have consumes : ((labels.map Pad.label).filterMap Pad.label? ++ remaining).Perm opened := by
    simpa [List.filterMap_map, Function.comp_def, Pad.label?] using reads
  exact regular.exists_addStatement linear consumes (by simp) fresh

theorem Regular.exists_segments (regular : builder.Regular later)
    (linear : builder.program.Linear opened) (segments : List (String × Binary64))
    (remaining : List String) {output : String}
    (reads : (segments.map Prod.fst ++ remaining).Perm opened)
    (fresh : output ∉ builder.given ++ later) (audio : Bool) :
    ∃ after, builder.addStatement ⟨segments.map fun segment => .label segment.1, output,
        .concat (segments.map fun segment => segment.2) audio⟩ = .ok after ∧
      after.Regular (later ++ [output]) := by
  have labels : segments.map (fun segment => Pad.label segment.1) =
      (segments.map Prod.fst).map .label := by simp
  rw [labels]
  exact regular.exists_labels linear _ remaining reads fresh _

theorem Regular.widen {more : List String} (regular : builder.Regular later)
    (within : later ⊆ more) : builder.Regular more := by
  refine ⟨regular.causal, regular.counted, fun label produced => ?_⟩
  rcases List.mem_append.mp (regular.named label produced) with known | known
  · exact List.mem_append_left _ known
  · exact List.mem_append_right _ (within known)

theorem Regular.exists_reduceVideo (regular : builder.Regular []) (linear : builder.Linear)
    (some : builder.pictures ≠ []) :
    ∃ after label, builder.reduceVideo = .ok (after, label) ∧ after.Regular ["vcat"] := by
  unfold reduceVideo
  split
  next none => exact absurd none some
  next lone duration single =>
    exact ⟨builder, lone, rfl, regular.widen (List.nil_subset _)⟩
  next =>
    have fresh : "vcat" ∉ builder.given ++ [] := by
      simpa using word_not_mem_given (by decide)
    obtain ⟨joined, taken, regular⟩ := regular.exists_segments linear builder.pictures
      (builder.sounds.map Prod.fst ++ builder.overlays) (by simp [Builder.opened]) fresh false
    exact ⟨joined, "vcat", bind_eq_ok_iff.mpr ⟨joined, taken, rfl⟩, regular⟩

/-- The first style that a timeline names and that is none of the presets. -/
def unknownStyle? (items : List ResolvedItem) : Option String :=
  items.findSome? fun resolved =>
    match resolved.item with
    | .text overlay =>
        if (TextStyle.find? overlay.style overlay.fontSize).isNone then some overlay.style
        else none
    | _ => none

/-- A text in a known style is drawn, and its picture gets the next label of the texts. -/
theorem Regular.exists_addText {number : Nat} {remaining : List String}
    (regular : builder.Regular ("vcat" :: textLabels number)) (frame : Frame)
    (resolved : ResolvedItem) {overlay : TextOverlay} {style : TextStyle}
    (styled : TextStyle.find? overlay.style overlay.fontSize = some style)
    (linear : builder.program.Linear (label :: remaining)) :
    ∃ written, builder.addText frame label number resolved overlay =
        .ok (written, numbered "t" number) ∧
      written.Regular ("vcat" :: textLabels (number + 1)) := by
  have fresh : numbered "t" number ∉ builder.given ++ ("vcat" :: textLabels number) := by
    simp only [List.mem_append, List.mem_cons, not_or]
    exact ⟨text_not_mem_given _, numbered_ne_word (by decide) (by decide),
      numbered_not_mem_own _ _⟩
  obtain ⟨written, taken, regular⟩ := regular.exists_labels linear [label] remaining
    (.refl _) fresh (.drawText ⟨overlay.text, style, frame.fontsDirectory.map
      fun directory => (style.fontPath directory).toString,
      overlay.position.expressions.1, overlay.position.expressions.2,
      resolved.start, resolved.duration⟩)
  have counted : "vcat" :: textLabels number ++ [numbered "t" number] =
      "vcat" :: textLabels (number + 1) := by
    simp [textLabels, List.range_succ]
  refine ⟨written, ?_, counted ▸ regular⟩
  simp only [addText, styled]
  exact bind_eq_ok_iff.mpr ⟨written, taken, rfl⟩

/-- Texts are drawn one after the other unless the style of one of them is unknown. -/
theorem Regular.exists_addTexts {number : Nat} {remaining : List String}
    (regular : builder.Regular ("vcat" :: textLabels number)) (frame : Frame)
    (items : List ResolvedItem)
    (linear : builder.program.Linear (label :: remaining)) :
    match unknownStyle? items with
    | some name => builder.addTexts frame label number items = .error (.graph (.unknownStyle name))
    | none => ∃ after final count, builder.addTexts frame label number items = .ok (after, final) ∧
        after.Regular ("vcat" :: textLabels count) := by
  induction items generalizing builder label number with
  | nil => exact ⟨builder, label, number, rfl, regular⟩
  | cons resolved items ih =>
      cases kind : resolved.item with
      | text overlay =>
          cases styled : TextStyle.find? overlay.style overlay.fontSize with
          | none => simp [unknownStyle?, addTexts, addText, kind, styled, bind, Except.bind]
          | some style =>
              obtain ⟨written, drawn, regular⟩ :=
                regular.exists_addText frame resolved styled linear
              have later := ih regular (linear_addText linear drawn).1
              have known : unknownStyle? (resolved :: items) = unknownStyle? items := by
                simp [unknownStyle?, kind, styled]
              have steps : builder.addTexts frame label number (resolved :: items) =
                  written.addTexts frame (numbered "t" number) (number + 1) items := by
                simp only [addTexts, kind, drawn]
                rfl
              rw [known, steps]
              exact later
      | video _ | image _ | audio _ =>
          have known : unknownStyle? (resolved :: items) = unknownStyle? items := by
            simp [unknownStyle?, kind]
          have steps : builder.addTexts frame label number (resolved :: items) =
              builder.addTexts frame label number items := by
            simp only [addTexts, kind]
          rw [known, steps]
          exact ih regular linear

theorem Regular.exists_reduceSounds {count : Nat}
    (regular : builder.Regular ("vcat" :: textLabels count))
    (linear : builder.program.Linear
      (label :: (builder.sounds.map Prod.fst ++ builder.overlays))) :
    ∃ after labels, builder.reduceSounds = .ok (after, labels) ∧
      after.Regular ("vcat" :: textLabels count ++ ["acat"]) := by
  unfold reduceSounds
  split
  next => exact ⟨builder, [], rfl, regular.widen (List.subset_append_left _ _)⟩
  next lone duration single =>
    exact ⟨builder, [lone], rfl, regular.widen (List.subset_append_left _ _)⟩
  next =>
    have fresh : "acat" ∉ builder.given ++ ("vcat" :: textLabels count) := by
      simp only [List.mem_append, List.mem_cons, not_or]
      exact ⟨word_not_mem_given (by decide), by decide, word_not_mem (by decide) (by decide) _⟩
    obtain ⟨joined, taken, regular⟩ := regular.exists_segments linear builder.sounds
      (label :: builder.overlays) List.perm_middle fresh true
    exact ⟨joined, ["acat"], bind_eq_ok_iff.mpr ⟨joined, taken, rfl⟩, regular⟩

theorem Regular.exists_reduceAudio {count : Nat}
    (regular : builder.Regular ("vcat" :: textLabels count))
    (linear : builder.program.Linear
      (label :: (builder.sounds.map Prod.fst ++ builder.overlays))) :
    ∃ after audio, builder.reduceAudio = .ok (after, audio) ∧
      after.Regular ("vcat" :: textLabels count ++ ["acat"] ++ ["aout"]) ∧
      ∀ name ∈ audio, name = "aout" := by
  obtain ⟨joined, labels, first, regular⟩ :=
    regular.exists_reduceSounds linear
  have linear := linear_reduceSounds linear first
  have fresh : "aout" ∉ joined.given ++ ("vcat" :: textLabels count ++ ["acat"]) := by
    simp only [List.cons_append, List.mem_append, List.mem_cons, List.not_mem_nil, not_or, or_false]
    exact ⟨word_not_mem_given (by decide), by decide, word_not_mem (by decide) (by decide) _,
      by decide⟩
  have statement := regular.exists_labels linear (labels ++ joined.overlays) [label]
    List.perm_append_comm fresh
  match sources : labels ++ joined.overlays with
  | [] =>
      refine ⟨joined, none, bind_eq_ok_iff.mpr ⟨(joined, labels), first, ?_⟩,
        regular.widen (List.subset_append_left _ _), by simp⟩
      simp only [sources]
  | [source] =>
      obtain ⟨mixed, taken, regular⟩ := statement .resample
      refine ⟨mixed, some "aout", bind_eq_ok_iff.mpr ⟨(joined, labels), first, ?_⟩, regular,
        by simp⟩
      rw [sources] at taken
      simp only [sources]
      exact bind_eq_ok_iff.mpr ⟨mixed, taken, rfl⟩
  | source :: other :: sources' =>
      obtain ⟨mixed, taken, regular⟩ := statement .mix
      refine ⟨mixed, some "aout", bind_eq_ok_iff.mpr ⟨(joined, labels), first, ?_⟩, regular,
        by simp⟩
      rw [sources] at taken
      simp only [sources]
      exact bind_eq_ok_iff.mpr ⟨mixed, taken, rfl⟩

end Reductions

end Builder

/-- A program in which only the terminal labels are open is valid. -/
theorem Program.Linear.validate {program : Program} {video : String} {audio : Option String}
    (linear : program.Linear (video :: audio.toList)) (named : ∀ name ∈ audio, name ≠ "") :
    program.validate video audio = .ok () := by
  have whole : (program.consumed ++ (video :: audio.toList)).Nodup :=
    linear.balanced.symm.nodup linear.fresh
  have apart := whole.of_append_right
  have terminal : Program.terminals video audio = video :: audio.toList := by
    cases audio with
    | none => rfl
    | some name =>
        have different : name ≠ video := by
          rintro rfl
          simp at apart
        simp [Program.terminals, named name rfl, different]
  have missing : (video :: audio.toList).filter (· ∉ program.produced) = [] := by
    refine List.filter_eq_nil_iff.mpr fun label member => ?_
    simpa using linear.balanced.subset (List.mem_append_right _ member)
  have dangling : program.produced.filter (fun label =>
      label ∉ program.consumed ∧ label ∉ video :: audio.toList) = [] := by
    refine List.filter_eq_nil_iff.mpr fun label member => ?_
    have known := List.mem_append.mp (linear.balanced.symm.subset member)
    simpa [or_iff_not_imp_left] using known
  simp only [Program.validate, terminal, missing, dangling, List.isEmpty_nil, not_true_eq_false,
    if_false]

namespace Graph

open Builder

variable {frame : Frame} {timeline : ResolvedTimeline} {graph : Graph}

/-- Whether the audio clips among items start at finite times, counted in milliseconds. -/
def FiniteDelays (items : List ResolvedItem) : Prop :=
  ∀ resolved ∈ items, ∀ clip, resolved.item = .audio clip →
    (resolved.start * 1000).toRat?.isSome

/-- A timeline with an audio clip that starts at no finite time breaks off the building. -/
theorem build_of_not_finiteDelays (frame : Frame) (infinite : ¬ FiniteDelays timeline.items) :
    ∃ reason, build frame timeline = .error (.fault (.ofNumeric reason)) := by
  have breaks : ∀ (items : List ResolvedItem) (builder : Builder), builder.Regular [] →
      builder.Linear → ¬ FiniteDelays items →
      ∃ reason, items.foldlM (addItem frame) builder = .error (.fault (.ofNumeric reason)) := by
    intro items
    induction items with
    | nil => exact fun _ _ _ infinite => absurd (by simp [FiniteDelays]) infinite
    | cons resolved items ih =>
        intro builder regular linear infinite
        rw [List.foldlM_cons]
        by_cases finite : ∀ clip, resolved.item = .audio clip →
            (resolved.start * 1000).toRat?.isSome
        -- The item in front is taken, and so one behind it breaks the building off.
        · obtain ⟨after, taken, next⟩ := regular.exists_addItem linear frame resolved
            fun clip kind => Binary64.isSome_toRat?_iff.mp (finite clip kind)
          have behind : ¬ FiniteDelays items := fun behind => infinite fun other member => by
            rcases List.mem_cons.mp member with rfl | later
            · exact finite
            · exact behind other later
          obtain ⟨reason, broken⟩ := ih after next (linear.addItem taken) behind
          exact ⟨reason, by rw [taken]; exact broken⟩
        · push Not at finite
          obtain ⟨clip, kind, unknown⟩ := finite
          obtain ⟨reason, refused⟩ := Binary64.exists_round_error unknown
          exact ⟨reason, by simp [addItem, kind, addAudio, refused, bind, Except.bind]⟩
  obtain ⟨reason, broken⟩ := breaks timeline.items .empty regular_empty (Program.linear_empty 0)
    infinite
  exact ⟨reason, by simp [build, broken, bind, Except.bind]⟩

theorem pictures_eq_nil_iff {builder : Builder} {items : List ResolvedItem}
    (added : items.foldlM (addItem frame) empty = .ok builder) :
    builder.pictures = [] ↔ ∀ resolved ∈ items, ¬ resolved.isShown := by
  have lengths := (tracks_of_foldlM added).carries.pictures.length_eq
  have shown : (picturesOf frame items).length = (items.filter ResolvedItem.isShown).length := by
    have durations := congrArg List.length (durations_picturesOf frame items)
    simpa [ResolvedItem.shownDurations] using durations
  rw [← List.length_eq_zero_iff, lengths, shown, List.length_eq_zero_iff, List.filter_eq_nil_iff]

/-- What becomes of a timeline whose audio clips start at finite times: it has no graph without a
picture or with an unknown style, and it has one otherwise. -/
theorem build_of_finiteDelays (frame : Frame) (finite : FiniteDelays timeline.items) :
    if ∀ resolved ∈ timeline.items, ¬ resolved.isShown then
      build frame timeline = .error (.graph .noVideo)
    else
      match unknownStyle? timeline.items with
      | some name => build frame timeline = .error (.graph (.unknownStyle name))
      | none => ∃ graph, build frame timeline = .ok graph ∧ graph.program.Causal ∧
          graph.program.inputCount = graph.inputs.length := by
  have start : Builder.empty.Linear := Program.linear_empty 0
  obtain ⟨parts, added, regular⟩ := regular_empty.exists_addItems start frame
    fun resolved member clip kind =>
      Binary64.isSome_toRat?_iff.mp (finite resolved member clip kind)
  have linear := start.addItems added
  have pictured := pictures_eq_nil_iff added
  split
  next none =>
    have nothing := pictured.mpr none
    simp [build, added, reduceVideo, nothing, bind, Except.bind]
  next some =>
    obtain ⟨joined, label, reduced, regular⟩ :=
      regular.exists_reduceVideo linear (some ∘ pictured.mp)
    have linear := linear.reduceVideo reduced
    have untitled : joined.Regular ("vcat" :: textLabels 0) := regular
    have texts := untitled.exists_addTexts frame timeline.items linear
    split at texts
    next name unknown =>
      simp [build, added, reduced, texts, bind, Except.bind]
    next known =>
      obtain ⟨drawn, video, count, shown, regular⟩ := texts
      obtain ⟨linear, sounds, overlays⟩ := linear_addTexts linear shown
      rw [← sounds, ← overlays] at linear
      obtain ⟨mixed, audio, heard, regular, named⟩ := regular.exists_reduceAudio linear
      have linear := linear_reduceAudio linear heard
      have valid := linear.validate fun name member => named name member ▸ by decide
      refine ⟨⟨mixed.inputs, mixed.program, video, audio⟩, ?_, regular.causal, regular.counted⟩
      simp [build, added, reduced, shown, heard, valid, bind, Except.bind]

end Graph

end Filter

end Montage
