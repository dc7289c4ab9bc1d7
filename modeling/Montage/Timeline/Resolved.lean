import Montage.Probe.Cache
import Montage.Timeline.Subtitles

/-!
# Resolved timelines

Resolution gives every item of a composition an absolute start and a duration.
Video clips and images play back to back and advance the cursor.  Audio clips and
overlays stand at absolute times; audio may extend the total, text never does.
-/

namespace Montage

/-- An item with its place in time. -/
structure ResolvedItem where
  item : TimelineItem
  start : Binary64
  duration : Binary64
  path : Option Path
  hasAudio : Bool
  deriving DecidableEq, Inhabited

namespace ResolvedItem

def finish (resolved : ResolvedItem) : Binary64 :=
  resolved.start + resolved.duration

def cutStart (resolved : ResolvedItem) : Binary64 :=
  match resolved.item.cut? with
  | some (.between start _) => start
  | some .whole => .zero
  | none => .zero

end ResolvedItem

/-- A composition with every item placed in time. -/
structure ResolvedTimeline where
  items : List ResolvedItem
  totalDuration : Binary64
  deriving Inhabited

/-- Reasons why a composition cannot be resolved. -/
inductive ResolutionError where
  | rejected (reason : Rejection)
  | fault (fault : Fault)
  deriving DecidableEq, Repr, Inhabited

/-- Ways to find the file of an asset.  A rejection means that there is none. -/
abbrev AssetLookup := String → Except ResolutionError Path

namespace Resolution

/-- Whether the asset of an item is probed: its length is needed without a cut, and the sound
of an audible clip has to be known. -/
def needsProbe : TimelineItem → Bool
  -- A cut of all counts as a cut here, so such a clip gets the fallback length unless something
  -- else asks for the same asset.
  | .video clip => clip.cut.isNone || decide (0 < clip.volume)
  | .audio clip => clip.duration.isNone && clip.cut.isNone
  | .image _ => false
  | .text _ => false

/-- The file of every item, in order; the first missing asset is reported. -/
def locate (assets : AssetLookup) :
    List TimelineItem → Except ResolutionError (List (TimelineItem × Option Path))
  | [] => .ok []
  | item :: rest =>
      match item.filename? with
      | none => do
          let located ← locate assets rest
          .ok ((item, none) :: located)
      | some filename =>
          match assets filename with
          | .error (.rejected _) => .error (.rejected (.unresolvedAsset filename))
          | .error (.fault cause) => .error (.fault cause)
          | .ok path => do
              let located ← locate assets rest
              .ok ((item, some path) :: located)

def probedPaths (located : List (TimelineItem × Option Path)) : List Path :=
  located.filterMap fun (item, path) => if needsProbe item then path else none

/-- The length of the section that a cut names, none if it names none. -/
def cutLength (filename : String) (cut : Option Cut) :
    Except Rejection (Option Binary64) :=
  match cut with
  | none => .ok none
  | some .whole => .ok none
  | some (.between start finish) =>
      if start < 0 then .error (.negativeCut filename)
      else .ok (some (finish - start))

/-- The probed duration, or the fallback when there is none above zero. -/
def probedDuration (fallback : Binary64) (probe : Option ProbeResult) : Binary64 :=
  match probe with
  | none => fallback
  | some result => if result.duration ≤ 0 then fallback else result.duration

/-- The cursor after the items placed so far, and the total duration. -/
structure Progress where
  cursor : Binary64
  total : Binary64

/-- An item after the backbone so far. -/
def appendBackbone (progress : Progress) (item : TimelineItem)
    (path : Option Path) (duration : Binary64) (hasAudio : Bool) :
    Progress × ResolvedItem :=
  let cursor := progress.cursor + duration
  (⟨cursor, progress.total.larger cursor⟩,
    ⟨item, progress.cursor, duration, path, hasAudio⟩)

def place (fallback : Binary64) (progress : Progress) (item : TimelineItem)
    (path : Option Path) (probe : Option ProbeResult) :
    Except Rejection (Progress × ResolvedItem) :=
  match item with
  | .video clip => do
      let cut ← cutLength clip.filename clip.cut
      let duration := cut.getD (probedDuration fallback probe)
      if duration ≤ 0 then .error (.nonPositiveSegment clip.filename)
      else
        let hasAudio := (probe.map (·.hasAudio)).getD false
        .ok (appendBackbone progress item path duration hasAudio)
  | .image clip =>
      if clip.duration ≤ 0 then .error (.nonPositiveSegment clip.filename)
      else .ok (appendBackbone progress item path clip.duration false)
  | .audio clip => do
      let cut ← cutLength clip.filename clip.cut
      let duration := clip.duration.getD (cut.getD (probedDuration fallback probe))
      if duration ≤ 0 then .error (.nonPositiveSegment clip.filename)
      else
        let start := clip.startTime.getD progress.cursor
        if start < 0 then .error (.negativeStart clip.filename)
        else
          let resolved := ⟨item, start, duration, path, true⟩
          .ok (⟨progress.cursor, progress.total.larger resolved.finish⟩, resolved)
  | .text overlay =>
      .ok (progress, ⟨item, Binary64.zero.larger overlay.startTime,
        Binary64.zero.larger overlay.duration, none, false⟩)

def placeAll (fallback : Binary64)
    (probes : List (Path × Option ProbeResult)) :
    Progress → List (TimelineItem × Option Path) →
      Except Rejection (Progress × List ResolvedItem)
  | progress, [] => .ok (progress, [])
  | progress, (item, path) :: rest => do
      let probe := (path.bind fun found => probes.lookup found).join
      let (progress, resolved) ← place fallback progress item path probe
      let (progress, others) ← placeAll fallback probes progress rest
      .ok (progress, resolved :: others)

def itemsOf (spec : RenderSpec) : List TimelineItem :=
  spec.timeline ++ (((spec.subtitles.map Subtitles.parse).getD []).map .text)

def subtitleWarnings (spec : RenderSpec) : List String :=
  ((spec.subtitles.map Subtitles.entries).getD []).filterMap
    Subtitles.Entry.warning?

structure Options where
  fallbackDuration : Binary64
  parallelism : Int

/-- Places every item of a composition in time. -/
def resolve (options : Options) (assets : AssetLookup) (prober : Prober)
    (spec : RenderSpec) : ProbeCache × Except ResolutionError ResolvedTimeline :=
  if spec.timeline.isEmpty then (.empty, .error (.rejected .emptyTimeline))
  else
    -- Every asset has to exist before anything is probed.
    match locate assets (itemsOf spec) with
    | .error reason => (.empty, .error reason)
    | .ok located =>
        match ProbeCache.probeMany prober options.parallelism .empty
            (probedPaths located) with
        | (cache, .error fault) => (cache, .error (.fault fault))
        | (cache, .ok probes) =>
            match placeAll options.fallbackDuration probes ⟨.zero, .zero⟩ located with
            | .error reason => (cache, .error (.rejected reason))
            | .ok (progress, items) => (cache, .ok ⟨items, progress.total⟩)

end Resolution

end Montage
