import Montage.Encode.Command
import Montage.Probe.Cache

/-!
# Render plans

From a composition to the command that encodes it: placement in time, then the filter
graph, then the command.  Planning is split, so that a composition can be turned down
before there is a job for it.
-/

namespace Montage

/-- All that is needed to encode a composition. -/
structure RenderPlan where
  spec : RenderSpec
  timeline : ResolvedTimeline
  graph : Filter.Graph
  command : List String
  output : Path
  deriving Inhabited

/-- Reasons why a composition has no plan. -/
inductive PlanError where
  | rejected (reason : Rejection)
  | graph (reason : Filter.GraphError)
  | fault (fault : Fault)
  deriving DecidableEq, Repr, Inhabited

namespace PlanError

def message : PlanError → String
  | .rejected reason => reason.message
  | .graph reason => reason.message
  | .fault cause => cause.message

def ofResolution : ResolutionError → PlanError
  | .rejected reason => .rejected reason
  | .fault cause => .fault cause

def ofBuild : Filter.BuildError → PlanError
  | .graph reason => .graph reason
  | .fault cause => .fault cause

end PlanError

namespace Render

def resolutionOptions (config : Config) : Resolution.Options :=
  ⟨config.probe.fallbackDuration, config.probe.parallelism⟩

/-- The composition with every item placed in time, and the probes made for it. -/
def resolve (config : Config) (assets : AssetLookup) (prober : Prober)
    (spec : RenderSpec) : ProbeCache × Except ResolutionError ResolvedTimeline :=
  Resolution.resolve (resolutionOptions config) assets prober spec

def frameOf (config : Config) (spec : RenderSpec) : Filter.Frame :=
  ⟨spec.width, spec.height, some (Path.ofString config.storage.fontsDirectory),
    config.encoding.imageFrameRate, spec.scaling⟩

def outputPath (directory : Path) (name : String) (spec : RenderSpec) : Path :=
  directory.child s!"{name}.{spec.extension}"

def plan (config : Config) (directory : Path) (name : String) (spec : RenderSpec)
    (timeline : ResolvedTimeline) : Except PlanError RenderPlan :=
  match Filter.Graph.build (frameOf config spec) timeline with
  | .error reason => .error (.ofBuild reason)
  | .ok graph =>
      let output := outputPath directory name spec
      let command := Encode.command config.encoding graph output spec.quality
        spec.extension
      .ok ⟨spec, timeline, graph, command, output⟩

def compile (config : Config) (assets : AssetLookup) (prober : Prober)
    (directory : Path) (name : String) (spec : RenderSpec) :
    ProbeCache × Except PlanError RenderPlan :=
  let (cache, result) := resolve config assets prober spec
  match result with
  | .error reason => (cache, .error (.ofResolution reason))
  | .ok timeline => (cache, plan config directory name spec timeline)

end Render

end Montage
