import Montage.Proofs.Filter.Signal
import Montage.Filter.Graph

/-!
# Scores

What the items of a timeline contribute to its graph: inputs, fitted pictures, sounds at
their volume, placed audio clips, and drawings.  An item that plays a file does so
through the input with its own index.
-/

namespace Montage.Filter

/-- The items that play a file, in order, each with the index of its input. -/
def playedItems (items : List ResolvedItem) : List (ResolvedItem × Nat) :=
  (items.filter fun resolved => resolved.item.filename?.isSome).zipIdx

/-- The options that trim a file to what its item plays of it. -/
def trimOptions (frame : Frame) (resolved : ResolvedItem) : List String :=
  let duration := ["-t", Decimal.amount resolved.duration]
  match resolved.item with
  | .video _ => ["-ss", Decimal.amount resolved.cutStart] ++ duration
  | .image _ =>
      ["-framerate", Decimal.ofInt frame.imageFrameRate, "-loop", "1"] ++ duration
  | .audio _ =>
      (if 0 < resolved.cutStart then ["-ss", Decimal.amount resolved.cutStart]
        else []) ++ duration
  | .text _ => []

def inputOf (frame : Frame) (resolved : ResolvedItem) : MediaInput :=
  ⟨resolved.path.getD Builder.absentFile, trimOptions frame resolved⟩

def fittedPicture (frame : Frame) (index : Nat) (scaling : Option ScalingMode) :
    Signal :=
  .result (.scale ((scaling.getD frame.scaling).chain frame.width frame.height))
    [.stream ⟨index, "v"⟩]

/-- The picture of a video clip or an image, with its duration. -/
def pictureOf? (frame : Frame) : ResolvedItem × Nat → Option (Signal × Binary64)
  | (resolved, index) =>
      match resolved.item with
      | .video clip => some (fittedPicture frame index clip.scaling, resolved.duration)
      | .image clip => some (fittedPicture frame index clip.scaling, resolved.duration)
      | .audio _ => none
      | .text _ => none

/-- The sound of a video clip that is heard, at its volume and with its duration. -/
def soundOf? : ResolvedItem × Nat → Option (Signal × Binary64)
  | (resolved, index) =>
      match resolved.item with
      | .video clip =>
          if 0 < clip.volume ∧ resolved.hasAudio then
            some (.result (.volume (clip.volume / 100)) [.stream ⟨index, "a"⟩],
              resolved.duration)
          else none
      | _ => none

def startDelay (resolved : ResolvedItem) : Int :=
  match (resolved.start * 1000).round with
  | .ok delay => delay
  | .error _ => 0

/-- The factor of an audio clip whose volume is not the full one. -/
def placementFactor (clip : AudioClip) : Option Binary64 :=
  if clip.volume.equal fullVolume then none else some (clip.volume / 100)

/-- An audio clip, moved to its start and rescaled to its volume. -/
def placementOf? : ResolvedItem × Nat → Option Signal
  | (resolved, index) =>
      match resolved.item with
      | .audio clip =>
          some (.result (.place (startDelay resolved) (placementFactor clip))
            [.stream ⟨index, "a"⟩])
      | _ => none

/-- The drawing of a text overlay whose style is known. -/
def drawingOf? (frame : Frame) (resolved : ResolvedItem) : Option Drawing :=
  match resolved.item with
  | .text overlay =>
      (TextStyle.find? overlay.style overlay.fontSize).map fun style =>
        { text := overlay.text
          style
          fontFile := frame.fontsDirectory.map fun directory =>
            (style.fontPath directory).toString
          x := overlay.position.expressions.1
          y := overlay.position.expressions.2
          start := resolved.start
          duration := resolved.duration }
  | _ => none

/-- The pictures of a timeline in order, with their durations. -/
def picturesOf (frame : Frame) (items : List ResolvedItem) : List (Signal × Binary64) :=
  (playedItems items).filterMap (pictureOf? frame)

/-- The sounds of the clips that are heard, in order, with their durations. -/
def soundsOf (items : List ResolvedItem) : List (Signal × Binary64) :=
  (playedItems items).filterMap soundOf?

/-- The audio clips of a timeline in order, each at its place. -/
def placementsOf (items : List ResolvedItem) : List Signal :=
  (playedItems items).filterMap placementOf?

def drawingsOf (frame : Frame) (items : List ResolvedItem) : List Drawing :=
  items.filterMap (drawingOf? frame)

/-- The sources of the sound of a timeline: the joined sound of its clips, if there is
any, and then its audio clips. -/
def sourcesOf (items : List ResolvedItem) : List Signal :=
  (Signal.join? true (soundsOf items)).toList ++ placementsOf items

section Extension

variable {frame : Frame} {items : List ResolvedItem} {resolved : ResolvedItem}

theorem playedItems_concat (plays : resolved.item.filename?.isSome) :
    playedItems (items ++ [resolved]) =
      playedItems items ++ [(resolved, (playedItems items).length)] := by
  simp [playedItems, plays, List.zipIdx_append]

theorem playedItems_concat_text {overlay : TextOverlay}
    (shows : resolved.item = .text overlay) :
    playedItems (items ++ [resolved]) = playedItems items := by
  simp [playedItems, shows, TimelineItem.filename?]

theorem filterMap_playedItems_concat {α : Type} (part? : ResolvedItem × Nat → Option α)
    (plays : resolved.item.filename?.isSome) :
    (playedItems (items ++ [resolved])).filterMap part? =
      (playedItems items).filterMap part? ++
        (part? (resolved, (playedItems items).length)).toList := by
  rw [playedItems_concat plays, List.filterMap_append]
  cases part : part? (resolved, (playedItems items).length) <;> simp [part]

end Extension

end Montage.Filter
