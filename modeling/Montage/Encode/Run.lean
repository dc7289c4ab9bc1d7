import Montage.Console.Log
import Montage.Encode.Diagnosis
import Montage.Encode.Marker
import Montage.Media.ProcessTable
import Montage.Path

/-!
# Supervised encoder runs

One run of the encoder as a stream of events: a start, the elapsed times it reports,
and one end.  A run that is stopped or fails leaves no output file.
-/

namespace Montage.Encode

/-- What an encoder process does next, as its supervisor sees it. -/
inductive Action where
  | line (text : String)
  | write (content : String)
  | hang
  | cancel
  deriving DecidableEq, Repr, Inhabited

/-- The behaviour of one encoder process. -/
inductive Behavior where
  | refused (reason : String)
  | started (actions : List Action) (errors : List String) (code : Int)
  deriving DecidableEq, Repr, Inhabited

inductive StopReason where
  | cancelled
  | timeout
  deriving DecidableEq, Repr, Inhabited

namespace StopReason

def name : StopReason → String
  | .cancelled => "cancelled"
  | .timeout => "timeout"

def message : StopReason → String
  | .cancelled => "Render cancelled"
  | .timeout => "Render timed out"

end StopReason

inductive Failure where
  | stopped (reason : StopReason)
  | encode (message : String)
  deriving DecidableEq, Repr, Inhabited

namespace Failure

def message : Failure → String
  | .stopped reason => reason.message
  | .encode message => message

def kind : Failure → String
  | .stopped reason => reason.name
  | .encode _ => "encode"

end Failure

inductive Event where
  | started
  | progress (elapsed : Binary64)
  | finished (output : Path)
  | failed (failure : Failure)
  deriving DecidableEq, Inhabited

namespace Event

def isTerminal : Event → Bool
  | .started => false
  | .progress _ => false
  | .finished _ => true
  | .failed _ => true

end Event

/-- How the actions of a process end. -/
inductive Ending where
  | exited
  | stopped (reason : StopReason)
  | broken (fault : Fault)
  deriving DecidableEq, Repr, Inhabited

/-- A run under way: what its listener knows, the content of its output file, and
whether cancellation was requested. -/
structure Course (σ : Type) where
  listener : σ
  output : Option String
  cancelled : Bool

abbrev Listener (σ : Type) := σ → Event → Except Fault σ

/-- Actions followed one by one. -/
def follow {σ : Type} (listen : Listener σ) (course : Course σ) :
    List Action → Course σ × Ending
  | [] => (course, .exited)
  | .write content :: rest => follow listen { course with output := some content } rest
  -- What a process would do after it hangs never happens.
  | .hang :: _ =>
      (course, .stopped (if course.cancelled then .cancelled else .timeout))
  | .cancel :: _ => ({ course with cancelled := true }, .stopped .cancelled)
  | .line text :: rest =>
      match Marker.read text with
      | .error fault => (course, .broken fault)
      | .ok none => follow listen course rest
      | .ok (some elapsed) =>
          -- A time below zero is no number of seconds, and is passed over like any other line.
          if 0 ≤ elapsed then
            match listen course.listener (.progress elapsed) with
            | .ok listener => follow listen { course with listener } rest
            | .error fault => (course, .broken fault)
          else follow listen course rest

def keptErrorLines : Nat := 200

def errorText (errors : List String) : String :=
  String.join ((Text.takeLast keptErrorLines errors).map (· ++ "\n"))

/-- A run of the encoder: its command, its output file, what to call it, and how much
the console prints. -/
structure Invocation where
  command : List String
  output : Path
  description : String
  verbosity : Console.Verbosity
  deriving Inhabited

/-- Where runs take place. -/
structure Workplace where
  settings : Media.Settings := {}
  host : Media.Host := {}
  deriving Inhabited

/-- What a run leaves behind. -/
structure Aftermath (σ : Type) where
  course : Course σ
  table : Media.ProcessTable
  command : List String
  fault : Option Fault

def stoppedCode : Int := -15

/-- The last event of a run whose actions ended without a fault, and the output file it
leaves. -/
def conclude (invocation : Invocation) (output : Option String) (ending : Ending)
    (errors : List String) (code : Int) : Except Fault (Event × Option String) :=
  match ending with
  | .broken fault => .error fault
  | .stopped reason => .ok (.failed (.stopped reason), none)
  | .exited =>
      if code ≠ 0 then do
        let message := Diagnosis.ofOutput (errorText errors)
        Console.announce invocation.verbosity .error
          ("[render] Render failed:\n" ++ message)
        .ok (.failed (.encode message), none)
      else match output with
        | none => .ok (.failed (.encode "Output file not created"), none)
        | some content => .ok (.finished invocation.output, some content)

def announceStart (invocation : Invocation) : Except Fault Unit := do
  let name := invocation.output.name
  let command := Text.join " " invocation.command
  Console.announce invocation.verbosity .info
    s!"[render] {invocation.description} → {name}"
  Console.announce invocation.verbosity .debug s!"[render] Full CMD:\n{command}"

/-- A run of a started process, from its first event to its last. -/
def runStarted {σ : Type} (listen : Listener σ) (invocation : Invocation)
    (course : Course σ) (table : Media.ProcessTable) (process : Media.ToolProcess)
    (actions : List Action) (errors : List String) (code : Int) :
    Course σ × Media.ProcessTable × Option Fault :=
  match listen course.listener .started with
  | .error fault => (course, table, some fault)
  | .ok listener =>
      let (course, ending) := follow listen { course with listener } actions
      match ending with
      | .broken fault => (course, table, some fault)
      | _ =>
          let code' := match ending with
            | .stopped _ => stoppedCode
            | _ => code
          let table := table.finish process.number code' (errorText errors)
          match conclude invocation course.output ending errors code with
          | .error fault => (course, table, some fault)
          | .ok (event, output) =>
              let course := { course with output }
              match listen course.listener event with
              | .error fault => (course, table, some fault)
              | .ok listener => ({ course with listener }, table, none)

/-- Runs an invocation, passing every event to a listener. -/
def run {σ : Type} (listen : Listener σ) (workplace : Workplace)
    (invocation : Invocation) (behavior : Behavior) (course : Course σ)
    (table : Media.ProcessTable) : Aftermath σ :=
  let command := workplace.settings.decorate workplace.host invocation.command
  match announceStart invocation with
  | .error fault => ⟨course, table, [], some fault⟩
  | .ok () =>
      match behavior with
      | .refused reason =>
          -- The output file is left alone, and the failure is the only event.
          let (table, _) := table.start "ffmpeg" invocation.description (some reason)
          let outcome := do
            Console.announce invocation.verbosity .error
              s!"[render] Could not start ffmpeg: {reason}"
            listen course.listener
              (.failed (.encode s!"ffmpeg could not be started: {reason}"))
          match outcome with
          | .error fault => ⟨course, table, command, some fault⟩
          | .ok listener => ⟨{ course with listener }, table, command, none⟩
      | .started actions errors code =>
          let (table, process) := table.start "ffmpeg" invocation.description none
          let (course, table, fault) :=
            runStarted listen invocation course table process actions errors code
          ⟨course, table, command, fault⟩

def keepEvents : Listener (List Event) := fun events event => .ok (events ++ [event])

end Montage.Encode
