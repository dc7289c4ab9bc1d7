import Montage.Probe.Tool

/-!
# Probe caches

Within one compilation every path is probed at most once.  A degraded probe is
remembered as such and not tried again.
-/

namespace Montage

abbrev Prober := Path → Except ProbeError ProbeResult

/-- The probes of one compilation: the remembered outcomes, the paths that were asked
for, in order, and the warnings about degraded probes. -/
structure ProbeCache where
  outcomes : List (Path × Option ProbeResult) := []
  asked : List Path := []
  warnings : List String := []
  deriving Inhabited

namespace ProbeCache

def empty : ProbeCache := ⟨[], [], []⟩

def warning (failure : ProbeFailure) : String :=
  "[probe] " ++ failure.message ++ ", using fallback values"

/-- The outcome for a path, probing it if it is not remembered. -/
def probe (prober : Prober) (cache : ProbeCache) (path : Path) :
    ProbeCache × Except Fault (Option ProbeResult) :=
  match cache.outcomes.lookup path with
  | some outcome => (cache, .ok outcome)
  | none =>
      let asked := cache.asked ++ [path]
      match prober path with
      | .ok result =>
          ({ cache with outcomes := cache.outcomes ++ [(path, some result)], asked },
            .ok (some result))
      | .error (.degraded failure) =>
          (⟨cache.outcomes ++ [(path, none)], asked,
              cache.warnings ++ [warning failure]⟩, .ok none)
      | .error (.fault fault) => ({ cache with asked }, .error fault)

/-- Elements in the order of their first appearance, each once. -/
def distinct (paths : List Path) : List Path :=
  paths.foldl (fun seen path => if path ∈ seen then seen else seen ++ [path]) []

/-- The outcomes for paths, in order. -/
def probeEach (prober : Prober) (together : Bool) :
    ProbeCache → List Path →
      ProbeCache × Except Fault (List (Path × Option ProbeResult))
  | cache, [] => (cache, .ok [])
  | cache, path :: rest =>
      match probe prober cache path with
      | (cache, .ok outcome) =>
          match probeEach prober together cache rest with
          | (cache, .ok outcomes) => (cache, .ok ((path, outcome) :: outcomes))
          | (cache, .error fault) => (cache, .error fault)
      | (cache, .error fault) =>
          -- Probes that run at once are not held up by a fault of one, but the first fault is
          -- reported either way.
          if together then ((probeEach prober together cache rest).1, .error fault)
          else (cache, .error fault)

/-- The outcomes for the distinct paths of a list, in the order of their first
appearance. -/
def probeMany (prober : Prober) (parallelism : Int) (cache : ProbeCache)
    (paths : List Path) :
    ProbeCache × Except Fault (List (Path × Option ProbeResult)) :=
  let unique := distinct paths
  probeEach prober (1 < unique.length ∧ 1 < parallelism) cache unique

end ProbeCache

end Montage
