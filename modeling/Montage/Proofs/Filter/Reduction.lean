import Montage.Proofs.Filter.Construction

/-!
# From parts to terminal labels

The pictures of a graph under construction become one picture with all texts drawn over
it, and its sounds become one mix.
-/

namespace Montage.Filter.Builder

variable {frame : Frame} {builder after : Builder} {label final : String}
  {pictures sounds : List (Signal × Binary64)} {overlays : List Signal}
  {items : List ResolvedItem}

section Segments

variable {program : Program} {labels : List (String × Binary64)}
  {segments : List (Signal × Binary64)}

theorem signals_of_carriesSegment
    (stand : List.Forall₂ (CarriesSegment program) labels segments) :
    List.Forall₂ (fun pad signal => program.signal? pad = some signal)
      (labels.map fun label => Pad.label label.1) (segments.map (·.1)) := by
  rw [List.forall₂_map_left_iff, List.forall₂_map_right_iff]
  exact stand.imp fun _ _ carried => carried.1

theorem join?_of_lone {lone : String} {duration : Binary64} (audio : Bool)
    (stand : List.Forall₂ (CarriesSegment program) [(lone, duration)] segments) :
    ∃ segment, Signal.join? audio segments = some segment ∧ program.Carries lone segment := by
  obtain ⟨segment, rest, carried, nothing, rfl⟩ := List.forall₂_cons_left_iff.mp stand
  obtain rfl := List.forall₂_nil_left_iff.mp nothing
  exact ⟨segment.1, rfl, carried.1⟩

theorem join?_of_several (audio : Bool) (notNone : labels ≠ [])
    (notLone : ∀ lone duration, labels ≠ [(lone, duration)])
    (stand : List.Forall₂ (CarriesSegment program) labels segments) :
    Signal.join? audio segments =
      some (.result (.concat (segments.map (·.2)) audio) (segments.map (·.1))) := by
  match labels, stand with
  | [], _ => exact absurd rfl notNone
  | [(lone, duration)], _ => exact absurd rfl (notLone lone duration)
  | _ :: _ :: _, .cons _ (.cons _ _) => rfl

theorem durations_of_carriesSegment
    (stand : List.Forall₂ (CarriesSegment program) labels segments) :
    labels.map (·.2) = segments.map (·.2) := by
  induction stand with
  | nil => rfl
  | cons carried _ ih => simp [carried.2, ih]

end Segments

/-- The statement that joins segments stands for all of them in order. -/
theorem carries_concat {labels : List (String × Binary64)} {audio : Bool}
    {segments : List (Signal × Binary64)}
    (stand : List.Forall₂ (CarriesSegment builder.program) labels segments)
    (joined : builder.addStatement ⟨labels.map fun (label, _) => .label label, label,
      .concat (labels.map (·.2)) audio⟩ = .ok after) :
    after.program.Carries label
      (.result (.concat (segments.map (·.2)) audio) (segments.map (·.1))) := by
  rw [← durations_of_carriesSegment stand]
  exact carries_statement joined (signals_of_carriesSegment stand)

theorem Carries.reduceVideo (carries : builder.Carries pictures sounds overlays)
    (reduced : builder.reduceVideo = .ok (after, label)) :
    after.Carries pictures sounds overlays ∧ after.inputs = builder.inputs ∧
      ∃ picture, Signal.join? false pictures = some picture ∧
        after.program.Carries label picture := by
  have stand := carries.pictures
  unfold Builder.reduceVideo at reduced
  split at reduced
  next => simp at reduced
  next lone duration single =>
    simp only [Except.ok.injEq, Prod.mk.injEq] at reduced
    obtain ⟨rfl, rfl⟩ := reduced
    exact ⟨carries, rfl, join?_of_lone false (single ▸ stand)⟩
  next labels notNone notLone =>
    rw [bind_eq_ok_iff] at reduced
    obtain ⟨joined, taken, rest⟩ := reduced
    simp only [Except.ok.injEq, Prod.mk.injEq] at rest
    obtain ⟨rfl, rfl⟩ := rest
    exact ⟨carries.addStatement taken, (addStatement_frame taken).1, _,
      join?_of_several false notNone notLone stand, carries_concat stand taken⟩

/-- A text is drawn over the picture before it, in a style that is known. -/
theorem Carries.addText (carries : builder.Carries pictures sounds overlays)
    {picture : Signal} {number : Nat} {resolved : ResolvedItem} {overlay : TextOverlay}
    (shows : resolved.item = .text overlay)
    (shown : builder.program.Carries label picture)
    (drawn : builder.addText frame label number resolved overlay = .ok (after, final)) :
    after.Carries pictures sounds overlays ∧ after.inputs = builder.inputs ∧
      ∃ drawing, drawingOf? frame resolved = some drawing ∧
        after.program.Carries final (.result (.drawText drawing) [picture]) := by
  unfold Builder.addText at drawn
  cases styled : TextStyle.find? overlay.style overlay.fontSize with
  | none => simp [styled] at drawn
  | some style =>
      simp only [styled, bind_eq_ok_iff] at drawn
      obtain ⟨written, taken, rest⟩ := drawn
      simp only [Except.ok.injEq, Prod.mk.injEq] at rest
      obtain ⟨rfl, rfl⟩ := rest
      refine ⟨carries.addStatement taken, (addStatement_frame taken).1, _, ?_,
        carries_statement taken (.cons shown .nil)⟩
      simp [drawingOf?, shows, styled]

/-- All texts are drawn over the picture in order, each in a style that is known. -/
theorem Carries.addTexts (carries : builder.Carries pictures sounds overlays)
    {picture : Signal} {number : Nat} (shown : builder.program.Carries label picture)
    (drawn : builder.addTexts frame label number items = .ok (after, final)) :
    after.Carries pictures sounds overlays ∧ after.inputs = builder.inputs ∧
      after.program.Carries final (picture.draw (drawingsOf frame items)) ∧
      ∀ resolved ∈ items, ∀ overlay, resolved.item = .text overlay →
        (drawingOf? frame resolved).isSome := by
  induction items generalizing builder label picture number with
  | nil =>
      simp only [Builder.addTexts, Except.ok.injEq, Prod.mk.injEq] at drawn
      obtain ⟨rfl, rfl⟩ := drawn
      exact ⟨carries, rfl, shown, by simp⟩
  | cons resolved items ih =>
      by_cases isText : ∃ overlay, resolved.item = .text overlay
      · obtain ⟨overlay, shows⟩ := isText
        simp only [Builder.addTexts, shows, bind_eq_ok_iff, Prod.exists] at drawn
        obtain ⟨middle, drawnOn, first, rest⟩ := drawn
        obtain ⟨keeps, inputs, drawing, found, stands⟩ := carries.addText shows shown first
        obtain ⟨keeps, inputs', stands, styled⟩ := ih keeps stands rest
        refine ⟨keeps, inputs'.trans inputs, ?_, ?_⟩
        · simpa [drawingsOf, found, Signal.draw] using stands
        · simpa [found] using styled
      · have noText : ∀ overlay, resolved.item ≠ .text overlay := fun overlay shows =>
          isText ⟨overlay, shows⟩
        have skipped : drawingOf? frame resolved = none := by
          cases kind : resolved.item with
          | text overlay => exact absurd kind (noText overlay)
          | video _ | image _ | audio _ => simp [drawingOf?, kind]
        have rest : builder.addTexts frame label number items = .ok (after, final) := by
          cases kind : resolved.item with
          | text overlay => exact absurd kind (noText overlay)
          | video _ | image _ | audio _ => simpa [Builder.addTexts, kind] using drawn
        obtain ⟨keeps, inputs, stands, styled⟩ := ih carries shown rest
        refine ⟨keeps, inputs, ?_, ?_⟩
        · simpa [drawingsOf, skipped] using stands
        · simpa [noText] using styled

/-- The sounds of the clips are reduced to all of them joined, if there are any. -/
theorem Carries.reduceSounds (carries : builder.Carries pictures sounds overlays)
    {labels : List String} (reduced : builder.reduceSounds = .ok (after, labels)) :
    after.Carries pictures sounds overlays ∧ after.inputs = builder.inputs ∧
      builder.Keeps after ∧
      List.Forall₂ after.program.Carries labels (Signal.join? true sounds).toList := by
  have stand := carries.sounds
  unfold Builder.reduceSounds at reduced
  split at reduced
  next none =>
    simp only [Except.ok.injEq, Prod.mk.injEq] at reduced
    obtain ⟨rfl, rfl⟩ := reduced
    rw [none, List.forall₂_nil_left_iff] at stand
    subst stand
    exact ⟨carries, rfl, fun _ _ stands => stands, .nil⟩
  next lone duration single =>
    simp only [Except.ok.injEq, Prod.mk.injEq] at reduced
    obtain ⟨rfl, rfl⟩ := reduced
    obtain ⟨segment, join, carried⟩ := join?_of_lone true (single ▸ stand)
    rw [join]
    exact ⟨carries, rfl, fun _ _ stands => stands, .cons carried .nil⟩
  next labels notNone notLone =>
    rw [bind_eq_ok_iff] at reduced
    obtain ⟨joined, taken, rest⟩ := reduced
    simp only [Except.ok.injEq, Prod.mk.injEq] at rest
    obtain ⟨rfl, rfl⟩ := rest
    rw [join?_of_several true notNone notLone stand]
    exact ⟨carries.addStatement taken, (addStatement_frame taken).1,
      keeps_addStatement carries.tracked taken, .cons (carries_concat stand taken) .nil⟩

/-- All sound becomes one mix of the joined sounds and the audio clips, unless there is
none; the picture is left alone. -/
theorem Carries.reduceAudio (carries : builder.Carries pictures sounds overlays)
    {audio : Option String} (reduced : builder.reduceAudio = .ok (after, audio)) :
    after.inputs = builder.inputs ∧ builder.Keeps after ∧
      audio.map (fun label => after.program.signal? (.label label)) =
        (Signal.mix? ((Signal.join? true sounds).toList ++ overlays)).map some := by
  simp only [Builder.reduceAudio, bind_eq_ok_iff, Prod.exists] at reduced
  obtain ⟨joined, labels, first, rest⟩ := reduced
  obtain ⟨keeps, inputs, kept, stand⟩ := carries.reduceSounds first
  have stand : List.Forall₂ joined.program.Carries (labels ++ joined.overlays)
      ((Signal.join? true sounds).toList ++ overlays) :=
    List.rel_append stand keeps.overlays
  generalize (Signal.join? true sounds).toList ++ overlays = sources at stand ⊢
  split at rest
  next none =>
    simp only [Except.ok.injEq, Prod.mk.injEq] at rest
    obtain ⟨rfl, rfl⟩ := rest
    rw [none, List.forall₂_nil_left_iff] at stand
    subst stand
    exact ⟨inputs, kept, rfl⟩
  next lone single =>
    rw [bind_eq_ok_iff] at rest
    obtain ⟨mixed, taken, rest⟩ := rest
    simp only [Except.ok.injEq, Prod.mk.injEq] at rest
    obtain ⟨rfl, rfl⟩ := rest
    rw [single, List.forall₂_cons_left_iff] at stand
    obtain ⟨source, others, carried, nothing, rfl⟩ := stand
    rw [List.forall₂_nil_left_iff] at nothing
    subst nothing
    have stands := carries_statement taken (.cons carried .nil)
    have keptOn := keeps_addStatement keeps.tracked taken
    refine ⟨(addStatement_frame taken).1.trans inputs,
      fun name signal held => keptOn name signal (kept name signal held), ?_⟩
    exact congrArg some stands
  next several notNone notLone =>
    rw [bind_eq_ok_iff] at rest
    obtain ⟨mixed, taken, rest⟩ := rest
    simp only [Except.ok.injEq, Prod.mk.injEq] at rest
    obtain ⟨rfl, rfl⟩ := rest
    have stands := carries_statement taken (List.forall₂_map_left_iff.mpr stand)
    have keptOn := keeps_addStatement keeps.tracked taken
    refine ⟨(addStatement_frame taken).1.trans inputs,
      fun name signal held => keptOn name signal (kept name signal held), ?_⟩
    match labelsEq : labels ++ joined.overlays, stand with
    | [], _ => exact absurd labelsEq notNone
    | [lone], _ => exact absurd labelsEq (notLone lone)
    | _ :: _ :: _, .cons _ (.cons _ _) => exact congrArg some stands

end Montage.Filter.Builder
