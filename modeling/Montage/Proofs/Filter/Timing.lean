import Montage.Proofs.Filter.Unfolding

/-!
# Onsets

When the raw streams behind a signal begin to play.  Joined segments play one after the
other, each held to its duration; a placed sound is delayed; every other operation leaves
its sources where they are.
-/

namespace Montage.Filter

/-- A way to count time: what a moment becomes after a duration. -/
structure Clock (Time : Type) where
  zero : Time
  advance : Time → Binary64 → Time

namespace Clock

def rounded : Clock Binary64 := ⟨.zero, fun time duration => time + duration⟩

/-- Time counted exactly.  A duration that is not finite takes no time. -/
def exact : Clock Rat := ⟨0, fun time duration => time + duration.toRat?.getD 0⟩

variable {Time : Type}

def after (clock : Clock Time) (durations : List Binary64) (time : Time) : Time :=
  durations.foldl clock.advance time

end Clock

/-- A moment: some time on a clock, and a delay in whole milliseconds after it. -/
structure Moment (Time : Type) where
  time : Time
  delay : Int

namespace Moment

variable {Time : Type}

/-- The moment after a delay; delays that are not positive are left out. -/
def delayed (moment : Moment Time) (delay : Int) : Moment Time :=
  if 0 < delay then { moment with delay := moment.delay + delay } else moment

def advanced (clock : Clock Time) (moment : Moment Time) (duration : Binary64) :
    Moment Time :=
  { moment with time := clock.advance moment.time duration }

theorem delayed_of_nonneg {moment : Moment Time} {delay : Int} (nonneg : 0 ≤ delay) :
    moment.delayed delay = { moment with delay := moment.delay + delay } := by
  unfold delayed
  split
  next => rfl
  next notPositive =>
    have zero : delay = 0 := by omega
    rw [zero, Int.add_zero]

end Moment

variable {Time : Type}

mutual

/-- When the streams behind a signal begin, if the signal begins at some moment. -/
def Signal.onsets (clock : Clock Time) :
    Signal → Moment Time → List (StreamRef × Moment Time)
  | .stream reference, moment => [(reference, moment)]
  | .result operation sources, moment =>
      match operation with
      | .place delay _ => onsetsTogether clock sources (moment.delayed delay)
      | .concat durations _ => onsetsInTurn clock durations sources moment
      | _ => onsetsTogether clock sources moment

/-- When the streams behind signals begin that all begin at the same moment. -/
def onsetsTogether (clock : Clock Time) :
    List Signal → Moment Time → List (StreamRef × Moment Time)
  | [], _ => []
  | source :: sources, moment =>
      source.onsets clock moment ++ onsetsTogether clock sources moment

/-- When the streams behind signals begin that follow one another, each held to its
duration. -/
def onsetsInTurn (clock : Clock Time) :
    List Binary64 → List Signal → Moment Time → List (StreamRef × Moment Time)
  | duration :: durations, source :: sources, moment =>
      source.onsets clock moment ++
        onsetsInTurn clock durations sources (moment.advanced clock duration)
  | _, _, _ => []

end

namespace Signal

variable {clock : Clock Time} {moment : Moment Time}

/-- Texts that are drawn over a picture do not move it. -/
theorem onsets_draw (picture : Signal) (drawings : List Drawing) :
    (picture.draw drawings).onsets clock moment = picture.onsets clock moment := by
  induction drawings generalizing picture with
  | nil => rfl
  | cons drawing drawings ih =>
      have step : (result (.drawText drawing) [picture]).onsets clock moment =
          picture.onsets clock moment := by
        simp [onsets, onsetsTogether]
      rw [← step]
      exact ih _

/-- Segments that are joined follow one another, also when there is only one. -/
theorem onsets_join {audio : Bool} {segments : List (Signal × Binary64)} {joined : Signal}
    (whole : join? audio segments = some joined) :
    joined.onsets clock moment =
      onsetsInTurn clock (segments.map (·.2)) (segments.map (·.1)) moment := by
  match segments, whole with
  | [(segment, duration)], rfl => simp [onsetsInTurn]
  | _ :: _ :: _, rfl => simp [onsets]

/-- Sources that are mixed begin together, also when there is only one. -/
theorem onsets_mix {sources : List Signal} {mixed : Signal}
    (whole : mix? sources = some mixed) :
    mixed.onsets clock moment = onsetsTogether clock sources moment := by
  match sources, whole with
  | [source], rfl => simp [onsets]
  | _ :: _ :: _, rfl => simp [onsets]

end Signal

section Membership

variable {clock : Clock Time} {moment : Moment Time} {reference : StreamRef}

theorem mem_onsetsTogether {sources : List Signal} {onset : StreamRef × Moment Time} :
    onset ∈ onsetsTogether clock sources moment ↔
      ∃ source ∈ sources, onset ∈ source.onsets clock moment := by
  induction sources with
  | nil => simp [onsetsTogether]
  | cons source sources ih => simp [onsetsTogether, ih]

/-- The segments after others begin when those have played. -/
theorem onsetsInTurn_append (clock : Clock Time) (earlier later : List (Signal × Binary64))
    (moment : Moment Time) :
    onsetsInTurn clock ((earlier ++ later).map (·.2)) ((earlier ++ later).map (·.1)) moment =
      onsetsInTurn clock (earlier.map (·.2)) (earlier.map (·.1)) moment ++
        onsetsInTurn clock (later.map (·.2)) (later.map (·.1))
          { moment with time := clock.after (earlier.map (·.2)) moment.time } := by
  induction earlier generalizing moment with
  | nil => simp [onsetsInTurn, Clock.after]
  | cons segment earlier ih =>
      simp only [List.cons_append, List.map_cons, onsetsInTurn, List.append_assoc]
      rw [ih]
      rfl

/-- A stream that no segment reads is not heard in any of their turns. -/
theorem not_mem_onsetsInTurn (moment : Moment Time) {segments : List (Signal × Binary64)}
    (silent : ∀ segment ∈ segments, ∀ begin finish,
      (reference, finish) ∉ segment.1.onsets clock begin) (finish : Moment Time) :
    (reference, finish) ∉
      onsetsInTurn clock (segments.map (·.2)) (segments.map (·.1)) moment := by
  induction segments generalizing moment with
  | nil => simp [onsetsInTurn]
  | cons segment segments ih =>
      simp only [List.map_cons, onsetsInTurn, List.mem_append, not_or]
      exact ⟨silent segment (by simp) moment finish,
        ih _ fun other member => silent other (by simp [member])⟩

end Membership

end Montage.Filter
