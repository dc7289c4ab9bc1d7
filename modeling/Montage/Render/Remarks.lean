import Montage.Console.Log
import Montage.Render.Plan

/-!
# Remarks on compilation

What is said on the console while a composition is compiled.  A remark that the console
cannot print takes the place of the result.
-/

namespace Montage

/-- A message and its level. -/
structure Remark where
  level : Console.Level
  message : String
  deriving DecidableEq, Repr, Inhabited

namespace Remark

/-- What a console prints of remarks, up to the first one that it cannot print. -/
def printAll (verbosity : Console.Verbosity) :
    List Remark → String × Option Fault
  | [] => ("", none)
  | remark :: rest =>
      match Console.line verbosity remark.level remark.message with
      | .error reason => ("", some reason.fault)
      | .ok line =>
          let (lines, fault) := printAll verbosity rest
          (line ++ lines, fault)

end Remark

namespace Render

def subtitleRemarks (spec : RenderSpec) : List Remark :=
  (Resolution.subtitleWarnings spec).map fun message => ⟨.warning, message⟩

def probeRemarks (prober : Prober) (path : Path) : List Remark :=
  let name := path.name
  let ended : Remark := ⟨.debug, "[media-exec] probe " ++ name ++ ": done (1.0s)"⟩
  match prober path with
  | .ok result =>
      let duration := Decimal.fixedText 2 result.duration
      let audio := if result.hasAudio then "True" else "False"
      [ended, ⟨.debug, "[probe] " ++ name ++ ": duration=" ++ duration ++ "s audio=" ++
        audio⟩]
  | .error (.degraded (.unreadable filename cause)) =>
      [ended, ⟨.warning, ProbeCache.warning (.unreadable filename cause)⟩]
  | .error (.degraded failure) => [⟨.warning, ProbeCache.warning failure⟩]
  | .error (.fault _) => [ended]

def timelineRemark (timeline : ResolvedTimeline) : Remark :=
  let count := Decimal.ofInt timeline.items.length
  let total := Decimal.fixedText 2 timeline.totalDuration
  ⟨.debug, "[timeline] " ++ count ++ " items, total " ++ total ++ "s"⟩

def graphRemark (graph : Filter.Graph) : Remark :=
  let inputs := Decimal.ofInt graph.inputs.length
  let statements := Decimal.ofInt graph.program.statements.length
  ⟨.debug, "[graph] " ++ inputs ++ " inputs, " ++ statements ++ " statements"⟩

/-- The remarks on a resolution, in order, after those on the subtitles. -/
def resolutionRemarks (prober : Prober) (cache : ProbeCache)
    (result : Except ResolutionError ResolvedTimeline) : List Remark :=
  cache.asked.flatMap (probeRemarks prober) ++
    (match result with
      | .ok timeline => [timelineRemark timeline]
      | .error _ => [])

/-- Resolution with its remarks printed. -/
def resolveAloud (verbosity : Console.Verbosity) (config : Config)
    (assets : AssetLookup) (prober : Prober) (spec : RenderSpec) :
    ProbeCache × String × Except ResolutionError ResolvedTimeline :=
  -- The subtitles are remarked on before anything is probed, but only where there are items.
  let remarks := if spec.timeline.isEmpty then [] else subtitleRemarks spec
  match Remark.printAll verbosity remarks with
  | (printed, some fault) => (.empty, printed, .error (.fault fault))
  | (printed, none) =>
      let (cache, result) := resolve config assets prober spec
      match Remark.printAll verbosity (resolutionRemarks prober cache result) with
      | (lines, none) => (cache, printed ++ lines, result)
      | (lines, some fault) => (cache, printed ++ lines, .error (.fault fault))

def compileAloud (verbosity : Console.Verbosity) (config : Config)
    (assets : AssetLookup) (prober : Prober) (directory : Path) (name : String)
    (spec : RenderSpec) : String × Except PlanError RenderPlan :=
  let (_, printed, result) := resolveAloud verbosity config assets prober spec
  match result with
  | .error reason => (printed, .error (.ofResolution reason))
  | .ok timeline =>
      match plan config directory name spec timeline with
      | .error reason => (printed, .error reason)
      | .ok plan =>
          match Remark.printAll verbosity [graphRemark plan.graph] with
          | (line, none) => (printed ++ line, .ok plan)
          | (line, some fault) => (printed ++ line, .error (.fault fault))

end Render

end Montage
