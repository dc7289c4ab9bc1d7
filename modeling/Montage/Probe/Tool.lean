import Montage.Path
import Montage.Probe.Report

/-!
# The probing tool

One run of the probing tool on a file, and what its outcome says about the file.
Most failures only degrade a probe, so that callers can go on with fallback values.
-/

namespace Montage

/-- Reasons why a probe is degraded. -/
inductive ProbeFailure where
  | notRun (filename cause : String)
  | exited (code : Int) (filename : String)
  | unreadable (filename cause : String)
  deriving DecidableEq, Repr, Inhabited

namespace ProbeFailure

def message : ProbeFailure → String
  | .notRun filename cause => s!"ffprobe failed for {filename}: {cause}"
  | .exited code filename =>
      let status := Decimal.ofInt code
      s!"ffprobe exited with {status} for {filename}"
  | .unreadable filename cause => s!"unreadable ffprobe output for {filename}: {cause}"

end ProbeFailure

/-- Ways in which a probe gives no result. -/
inductive ProbeError where
  /-- The file cannot be inspected; fallback values take its place. -/
  | degraded (failure : ProbeFailure)
  /-- The report has a shape that the reader does not handle. -/
  | fault (fault : Fault)
  deriving DecidableEq, Repr, Inhabited

/-- Outcomes of running a tool to its end. -/
inductive ToolRun where
  | notStarted
  | timedOut
  | exited (code : Int) (output : String)
  deriving DecidableEq, Repr, Inhabited

namespace ProbeTool

def command (path : Path) : List String :=
  ["ffprobe", "-v", "quiet", "-print_format", "json", "-show_format",
    "-show_streams", path.toString]

def timeoutText (command : List String) (limit : Json) : String :=
  let words := Text.literalList command
  s!"Command '{words}' timed out after {limit.literal} seconds"

def missingText (command : List String) : String :=
  "[Errno 2] No such file or directory: " ++ Text.literal (command.headD "")

/-- What a run of the tool says about a file, for which it was given so much time. -/
def interpret (path : Path) (limit : Json) : ToolRun → Except ProbeError ProbeResult
  | .notStarted => .error (.degraded (.notRun path.name (missingText (command path))))
  | .timedOut => .error (.degraded (.notRun path.name (timeoutText (command path) limit)))
  | .exited code output =>
      if code ≠ 0 then .error (.degraded (.exited code path.name))
      else match ProbeResult.ofText output with
        | .ok result => .ok result
        | .error fault =>
            if fault.kind ∈ [.json, .value, .type] then
              .error (.degraded (.unreadable path.name fault.message))
            else .error (.fault fault)

end ProbeTool

end Montage
