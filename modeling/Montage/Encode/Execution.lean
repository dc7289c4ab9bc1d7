import Montage.Encode.Progress
import Montage.Encode.Run

/-!
# Encodes

A run of the encoder for a known total duration.  Its elapsed times are passed on as
growing percentages, and its last event becomes the result.
-/

namespace Montage.Encode

/-- Ways in which an encode gives no output file. -/
inductive EncodeError where
  | failed (failure : Failure)
  | fault (fault : Fault)
  deriving DecidableEq, Repr, Inhabited

/-- What the watcher of an encode knows: its translator, the last event, and what has
become of the percentages. -/
structure Watch (τ : Type) where
  translator : Translator Binary64
  last : Option Event
  receiver : τ

namespace Watch

def start {τ : Type} (total : Binary64) (receiver : τ) : Watch τ :=
  ⟨.start total, none, receiver⟩

/-- The watcher after an event.  A percentage above all earlier ones is received. -/
def listen {τ : Type} (receive : τ → Int → τ) : Listener (Watch τ) :=
  fun watch event =>
    match event with
    | .progress elapsed =>
        match watch.translator.update elapsed with
        | .error reason => .error (.ofNumeric reason)
        | .ok (translator, percent) =>
            let receiver := match percent with
              | some percent => receive watch.receiver percent
              | none => watch.receiver
            .ok ⟨translator, some event, receiver⟩
    | _ => .ok { watch with last := some event }

/-- The output file of an encode whose last event is known. -/
def result {τ : Type} (watch : Watch τ) (fault : Option Fault) :
    Except EncodeError Path :=
  match fault, watch.last with
  | some fault, _ => .error (.fault fault)
  | none, some (.finished output) => .ok output
  | none, some (.failed failure) => .error (.failed failure)
  | none, _ => .error (.failed (.encode "ffmpeg ended without a result"))

end Watch

/-- Runs an invocation whose output lasts a given time.  Percentages go to `receive`. -/
def execute {τ : Type} (receive : τ → Int → τ) (total : Binary64)
    (workplace : Workplace) (invocation : Invocation) (behavior : Behavior)
    (course : Course τ) (table : Media.ProcessTable) :
    Aftermath τ × Except EncodeError Path :=
  let watched := run (Watch.listen receive) workplace invocation behavior
    ⟨.start total course.listener, course.output, course.cancelled⟩ table
  let watch := watched.course.listener
  (⟨⟨watch.receiver, watched.course.output, watched.course.cancelled⟩, watched.table,
      watched.command, watched.fault⟩, watch.result watched.fault)

end Montage.Encode
