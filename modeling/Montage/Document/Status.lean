import Montage.Document.Basic
import Montage.Encode.Run
import Montage.Jobs.Registry
import Montage.Media.Settings

/-!
# Documents of jobs and processes

What those who ask are told about jobs, their events, the queue, encoder runs and media
processes.
-/

namespace Montage

open Document

namespace Jobs

def Status.document (status : Status) : Json :=
  .object [
    ("status", .text status.state.name),
    ("progress", .integer status.progress),
    ("error", ofText? (status.failure.map (·.message))),
    ("errorKind", ofText? (status.failure.map (·.kind.name))),
    ("duration", .integer status.duration)]

def Job.members (job : Job) : List (String × Json) := [
  ("id", .text job.id),
  ("settled", .boolean job.settled),
  ("admitted", .boolean job.admitted),
  ("cancelled", .boolean job.cancelRequested),
  ("output", ofText? (job.output.map Path.name))]

def Event.document : Event → Json
  | .created job => .object [
      ("type", .text "job_created"),
      ("job_id", .text job)]
  | .progress job state percent => .object [
      ("type", .text "job_progress"),
      ("job_id", .text job),
      ("status", .text state.name),
      ("progress", .integer percent)]
  | .finished job output => .object [
      ("type", .text "job_finished"),
      ("job_id", .text job),
      ("output", .text output)]
  | .failed job failure => .object [
      ("type", .text "job_failed"),
      ("job_id", .text job),
      ("error", .text failure.message),
      ("kind", .text failure.kind.name)]

def Occupancy.members (occupancy : Occupancy) : List (String × Json) := [
  ("max_concurrent", ofCount occupancy.maxConcurrent),
  ("running", ofCount occupancy.running),
  ("waiting", .integer occupancy.waiting),
  ("jobs", ofCount occupancy.jobs)]

end Jobs

namespace Encode

/-- The document of an event of a run.  The last event of a run is terminal. -/
def Event.document : Event → Json
  | .started => .object [
      ("kind", .text "started"),
      ("terminal", .boolean false)]
  | .progress elapsed => .object [
      ("kind", .text "progress"),
      ("terminal", .boolean false),
      ("elapsed", ofNumber elapsed)]
  | .finished output => .object [
      ("kind", .text "finished"),
      ("terminal", .boolean true),
      ("output", .text output.name)]
  | .failed failure => .object [
      ("kind", .text "failed"),
      ("terminal", .boolean true),
      ("message", .text failure.message),
      ("error_kind", .text failure.kind)]

end Encode

namespace Media

def ToolProcess.document (process : ToolProcess) : Json :=
  .object [
    ("id", .text process.id),
    ("tool", .text process.tool),
    ("description", .text process.description),
    ("pid", ofCount process.systemId)]

def ProcessTable.document (table : ProcessTable) (settings : Settings) : Json :=
  .object [
    ("ffmpeg_threads", .integer settings.threads),
    ("nice", .integer settings.nice),
    ("running", ofCount table.running.length),
    ("processes", .array (table.running.map (·.document)))]

end Media

end Montage
