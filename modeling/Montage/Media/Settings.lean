import Montage.Numeric.Decimal
import Montage.Text.Basic

/-!
# Running media tools

How commands of the media tools are started: with a thread limit for the encoder, and
at low priority where the system offers it.
-/

namespace Montage.Media

/-- Limits and priorities of media processes. -/
structure Settings where
  threads : Int := 0
  nice : Int := 10
  ioClass : Int := 2
  ioLevel : Int := 7
  deriving DecidableEq, Repr, Inhabited

/-- What the system offers: whether priorities apply, and the tools on its path. -/
structure Host where
  prioritizes : Bool := false
  tools : List String := []
  deriving DecidableEq, Repr, Inhabited

namespace Settings

/-- Settings after a configuration. -/
def configure (settings : Settings) (environment : List String)
    (threads nice : Option Int) : Settings :=
  -- A setting that the environment names stays as it is, whatever value it has there.
  let threads := if "FFMPEG_THREADS" ∈ environment then none else threads
  let nice := if "MEDIA_NICE" ∈ environment then none else nice
  { settings with
    threads := threads.getD settings.threads, nice := nice.getD settings.nice }

def priority (settings : Settings) (host : Host) : List String :=
  if !host.prioritizes then []
  else
    (if 0 < settings.nice ∧ "nice" ∈ host.tools then
      ["nice", "-n", Decimal.ofInt settings.nice] else []) ++
    (if "ionice" ∈ host.tools then
      ["ionice", "-c", Decimal.ofInt settings.ioClass, "-n",
        Decimal.ofInt settings.ioLevel] else [])

/-- A command with its thread limit, which only encoder commands take. -/
def limitThreads (settings : Settings) (command : List String) : List String :=
  match command with
  | "ffmpeg" :: arguments =>
      -- A command that sets its own limit keeps it.
      if settings.threads ≤ 0 ∨ "-threads" ∈ arguments then command
      else
        let count := Decimal.ofInt settings.threads
        let graph := if "-filter_complex" ∈ arguments then
          ["-filter_complex_threads", count] else []
        "ffmpeg" :: "-threads" :: count :: graph ++ arguments
  | _ => command

def decorate (settings : Settings) (host : Host) (command : List String) :
    List String :=
  settings.priority host ++ settings.limitThreads command

end Settings

end Montage.Media
