import Montage.Proofs.Render.Degradation
import Montage.Proofs.Render.Subsumption

/-!
# What one resolution probes

A resolution asks the prober for nothing before all files are found, and then once for every
path from which a clip needs its length or has to be heard.  Each such clip is placed by what was
said of its own path, whether or not paths are probed together.
-/

namespace Montage

namespace TimelineItem

/-- Whether a clip needs to know its length, or whether there is anything to be heard. -/
def IsProbed : TimelineItem → Prop
  | .video clip => clip.cut = none ∨ 0 < clip.volume
  | .image _ => False
  | .audio clip => clip.duration = none ∧ clip.cut = none
  | .text _ => False

def LiesAt (assets : AssetLookup) (item : TimelineItem) (path : Path) : Prop :=
  ∃ name, item.filename? = some name ∧ assets name = .ok path

def IsFound (assets : AssetLookup) (item : TimelineItem) : Prop :=
  ∀ name, item.filename? = some name → ∃ path, assets name = .ok path

end TimelineItem

namespace Resolution

variable {options : Options} {assets : AssetLookup} {prober : Prober} {spec : RenderSpec}
  {timeline : ResolvedTimeline} {item : TimelineItem} {resolved : ResolvedItem} {path : Path}
  {located : List (TimelineItem × Option Path)}

/-- What a failed lookup makes of a composition. -/
def refusal (filename : String) : ResolutionError → ResolutionError
  | .rejected _ => .rejected (.unresolvedAsset filename)
  | .fault cause => .fault cause

/-- An item that is placed by an answer of the prober, none if the probe was degraded. -/
def UsesProbe (fallback : Binary64) (answer : Option ProbeResult) (resolved : ResolvedItem) :
    Prop :=
  match resolved.item with
  | .video clip =>
      resolved.hasAudio = (answer.map (·.hasAudio)).getD false ∧
        (clip.cut = none ∨ clip.cut = some .whole →
          resolved.duration = probedDuration fallback answer)
  | .audio clip =>
      clip.duration = none → clip.cut = none → resolved.duration = probedDuration fallback answer
  | .image _ => True
  | .text _ => True

/-- How a resolution deals with the prober, and what comes of it. -/
structure ProbesOnce (fallback : Binary64) (assets : AssetLookup) (prober : Prober)
    (spec : RenderSpec) (outcome : ProbeCache × Except ResolutionError ResolvedTimeline) :
    Prop where
  empty : spec.timeline = [] → outcome = (.empty, .error (.rejected .emptyTimeline))
  missing : ∀ before item behind filename reason, spec.timeline = before ++ item :: behind →
    (∀ earlier ∈ before, earlier.IsFound assets) → item.filename? = some filename →
      assets filename = .error reason → outcome = (.empty, .error (refusal filename reason))
  once : outcome.1.asked.Nodup
  asked : spec.timeline ≠ [] → (∀ item ∈ spec.timeline, item.IsFound assets) →
    ∀ path, path ∈ outcome.1.asked ↔
      ∃ item ∈ spec.timeline, item.IsProbed ∧ item.LiesAt assets path
  used : ∀ timeline, outcome.2 = .ok timeline → timeline.items.map (·.item) = itemsOf spec ∧
    ∀ resolved ∈ timeline.items, resolved.item.IsProbed → ∃ path, resolved.path = some path ∧
      resolved.item.LiesAt assets path ∧
      UsesProbe fallback (prober path).toOption resolved

section Locating

theorem needsProbe_iff : needsProbe item = true ↔ item.IsProbed := by
  cases item <;> simp [needsProbe, TimelineItem.IsProbed]

theorem pathOf?_eq_some_some_iff :
    pathOf? assets item = some (some path) ↔ item.LiesAt assets path := by
  unfold pathOf? TimelineItem.LiesAt
  cases item.filename? with
  | none => simp
  | some filename => cases given : assets filename <;> simp [given]

theorem not_isText_of_isProbed (probed : item.IsProbed) : ¬ item.isText := by
  cases item with
  | video _ | image _ | audio _ => simp [TimelineItem.isText]
  | text _ => exact absurd probed id

theorem exists_liesAt {found : Option Path} (probed : item.IsProbed)
    (place : pathOf? assets item = some found) :
    ∃ path, found = some path ∧ item.LiesAt assets path := by
  cases found with
  | some path => exact ⟨path, rfl, pathOf?_eq_some_some_iff.mp place⟩
  | none =>
      unfold pathOf? at place
      cases item with
      | video clip | audio clip => cases given : assets clip.filename <;>
          simp [TimelineItem.filename?, given] at place
      | image _ | text _ => exact absurd probed id

theorem isFound_of_mem_itemsOf (found : ∀ item ∈ spec.timeline, item.IsFound assets) :
    ∀ item ∈ itemsOf spec, item.IsFound assets := by
  intro item member
  by_cases text : item.isText
  · cases item with
    | text overlay =>
        intro name named
        cases named
    | video _ | image _ | audio _ => simp [TimelineItem.isText] at text
  · exact found item (mem_timeline_of_mem_itemsOf member text)

/-- The first lookup that fails is the one that counts. -/
theorem locate_eq_error {before : List TimelineItem} {filename : String}
    {reason : ResolutionError} (found : ∀ earlier ∈ before, earlier.IsFound assets)
    (named : item.filename? = some filename) (fails : assets filename = .error reason)
    (behind : List TimelineItem) :
    locate assets (before ++ item :: behind) = .error (refusal filename reason) := by
  induction before with
  | nil => cases reason <;> simp [locate, named, fails, refusal]
  | cons first before ih =>
      obtain ⟨here, others⟩ := List.forall_mem_cons.mp found
      have later := ih others
      rw [List.cons_append, locate]
      cases given : first.filename? with
      | none => simp [later, bind, Except.bind]
      | some name =>
          obtain ⟨path, known⟩ := here name given
          simp [known, later, bind, Except.bind]

theorem mem_probedPaths_iff (locates : locate assets (itemsOf spec) = .ok located) :
    path ∈ probedPaths located ↔
      ∃ item ∈ spec.timeline, item.IsProbed ∧ item.LiesAt assets path := by
  rw [mem_probedPaths]
  constructor
  · rintro ⟨entry, member, asks, place⟩
    have listed : entry.1 ∈ itemsOf spec := by
      rw [← map_fst_of_locate locates]
      exact List.mem_map_of_mem member
    have probed := needsProbe_iff.mp asks
    refine ⟨entry.1, mem_timeline_of_mem_itemsOf listed (not_isText_of_isProbed probed), probed, ?_⟩
    rw [← pathOf?_eq_some_some_iff, pathOf?_of_mem locates member, place]
  · rintro ⟨item, member, probed, lies⟩
    have listed : item ∈ located.map Prod.fst := by
      rw [map_fst_of_locate locates]
      exact List.mem_append_left _ member
    obtain ⟨entry, present, rfl⟩ := List.mem_map.mp listed
    have place := pathOf?_of_mem locates present
    rw [pathOf?_eq_some_some_iff.mpr lies] at place
    exact ⟨entry, present, needsProbe_iff.mpr probed, (Option.some.inj place).symm⟩

end Locating

section Probing

variable (answering : ∀ path fault, prober path ≠ .error (.fault fault))

theorem usesProbe_settle {fallback cursor duration : Binary64} {place : Option Path}
    {answer : Option ProbeResult} (taken : lengthOf fallback answer item = .ok duration) :
    UsesProbe fallback answer (settle cursor item place answer duration) := by
  cases item with
  | video clip =>
      refine ⟨rfl, fun whole => ?_⟩
      rw [lengthOf, cutLength_of_whole whole] at taken
      exact (Except.ok.inj taken).symm
  | audio clip =>
      intro unset uncut
      rw [lengthOf, cutLength_of_whole (.inl uncut), unset] at taken
      exact (Except.ok.inj taken).symm
  | image _ => trivial
  | text _ => trivial

include answering

theorem outcome?_join (path : Path) :
    (ProbeCache.outcome? prober path).join = (prober path).toOption := by
  unfold ProbeCache.outcome?
  split
  next result said => rw [said]; rfl
  next failure said => rw [said]; rfl
  next fault said => exact absurd said (answering path fault)

theorem asked_resolve (filled : spec.timeline ≠ [])
    (locates : locate assets (itemsOf spec) = .ok located) :
    (resolve options assets prober spec).1.asked =
      ProbeCache.distinct (probedPaths located) := by
  have asked := ProbeCache.asked_probeMany answering options.parallelism (probedPaths located)
  have some : ¬ spec.timeline.isEmpty := by simpa using filled
  rw [← asked, resolve, if_neg some, locates]
  dsimp only
  split
  next cache fault probed => rw [probed]
  next cache probes probed =>
    rw [probed]
    dsimp only
    split <;> rfl

theorem nodup_asked_resolve (options : Options) (assets : AssetLookup) (spec : RenderSpec) :
    (resolve options assets prober spec).1.asked.Nodup := by
  by_cases filled : spec.timeline = []
  · simp [resolve, filled, ProbeCache.empty]
  · cases locates : locate assets (itemsOf spec) with
    | error reason => simp [resolve, filled, locates, ProbeCache.empty]
    | ok located =>
        rw [asked_resolve answering filled locates]
        exact ProbeCache.nodup_distinct _

theorem usesProbe_of_resolve (resolves : (resolve options assets prober spec).2 = .ok timeline)
    (member : resolved ∈ timeline.items) (probed : resolved.item.IsProbed) :
    ∃ path, resolved.path = some path ∧ resolved.item.LiesAt assets path ∧
      UsesProbe options.fallbackDuration (prober path).toOption resolved := by
  obtain ⟨located, entry, before, after, locates, present, placed⟩ :=
    exists_place_of_resolve resolves member
  obtain ⟨duration, taken, -, -, rfl, -⟩ := place_ok_iff.mp placed
  have probed : entry.1.IsProbed := probed
  obtain ⟨path, known, lies⟩ := exists_liesAt probed (pathOf?_of_mem locates present)
  rw [probeAt_answers present (needsProbe_iff.mpr probed), known, Option.bind_some,
    outcome?_join answering] at taken ⊢
  exact ⟨path, if_neg (not_isText_of_isProbed probed), lies, usesProbe_settle taken⟩

theorem resolve_congr (fallback : Binary64) (assets : AssetLookup) (spec : RenderSpec)
    (parallelism parallelism' : Int) :
    resolve ⟨fallback, parallelism⟩ assets prober spec =
      resolve ⟨fallback, parallelism'⟩ assets prober spec := by
  simp only [resolve, ProbeCache.probeMany_congr answering .empty _ parallelism parallelism']

theorem probesOnce_resolve (options : Options) (assets : AssetLookup) (spec : RenderSpec) :
    ProbesOnce options.fallbackDuration assets prober spec
      (resolve options assets prober spec) where
  empty := fun none => by simp [resolve, none]
  missing := fun before item behind filename reason split found named fails => by
    have filled : ¬ spec.timeline.isEmpty := by simp [split]
    have first := locate_eq_error found named fails
      (behind ++ ((spec.subtitles.map Subtitles.parse).getD []).map .text)
    have listed : itemsOf spec = before ++ item :: (behind ++
        ((spec.subtitles.map Subtitles.parse).getD []).map .text) := by
      rw [itemsOf, split, List.append_assoc, List.cons_append]
    rw [← listed] at first
    rw [resolve, if_neg filled, first]
  once := nodup_asked_resolve answering options assets spec
  asked := fun filled found path => by
    obtain ⟨located, locates⟩ := exists_locate (isFound_of_mem_itemsOf found)
    rw [asked_resolve answering filled locates, ProbeCache.mem_distinct,
      mem_probedPaths_iff locates]
  used := fun timeline resolves => ⟨(laid_of_resolve resolves).2, fun resolved member probed =>
    usesProbe_of_resolve answering resolves member probed⟩

end Probing

end Resolution

namespace Render

variable {verbosity : Console.Verbosity} {config : Config} {assets : AssetLookup}
  {prober : Prober} {spec : RenderSpec}

theorem resolveAloud_fst_of_remarksTaken
    (taken : RemarksTaken verbosity config assets prober spec) :
    (resolveAloud verbosity config assets prober spec).1 =
      (resolve config assets prober spec).1 := by
  have subtitles := printAll_subtitleRemarks_iff.mpr taken.subtitles
  have probes : (Remark.printAll verbosity (resolutionRemarks prober
      (resolve config assets prober spec).1 (resolve config assets prober spec).2)).2 = none :=
    printAll_resolutionRemarks_iff.mpr taken.probes
  rcases said : Remark.printAll verbosity
    (if spec.timeline.isEmpty then [] else subtitleRemarks spec) with ⟨printed, fault⟩
  rcases resolved : resolve config assets prober spec with ⟨cache, result⟩
  rw [resolved] at probes
  rcases said' : Remark.printAll verbosity (resolutionRemarks prober cache result) with
    ⟨lines, fault'⟩
  rw [said] at subtitles
  rw [said'] at probes
  obtain rfl : fault = none := subtitles
  obtain rfl : fault' = none := probes
  simp only [resolveAloud, said, resolved, said']

/-- One resolution asks a prober that does not break off once for each path that it has to know
of, and for nothing before all files are found; the parallelism makes no difference.  Aloud it
does the same exactly if the console takes all remarks. -/
theorem resolve_probes_once (answering : ∀ path fault, prober path ≠ .error (.fault fault))
    (verbosity : Console.Verbosity) (config : Config) (assets : AssetLookup)
    (spec : RenderSpec) :
    Resolution.ProbesOnce config.probe.fallbackDuration assets prober spec
      (resolve config assets prober spec) ∧
    (∀ parallelism, Resolution.resolve ⟨config.probe.fallbackDuration, parallelism⟩ assets prober
      spec = resolve config assets prober spec) ∧
    (RemarksTaken verbosity config assets prober spec →
      ((resolveAloud verbosity config assets prober spec).1,
        (resolveAloud verbosity config assets prober spec).2.2) =
          resolve config assets prober spec) ∧
    (¬ RemarksTaken verbosity config assets prober spec →
      ∃ fault, (resolveAloud verbosity config assets prober spec).2.2 =
        .error (.fault fault)) := by
  refine ⟨Resolution.probesOnce_resolve answering (resolutionOptions config) assets spec,
    fun parallelism => Resolution.resolve_congr answering _ assets spec _ _, fun taken => ?_,
    exists_fault_of_not_remarksTaken⟩
  rw [resolveAloud_fst_of_remarksTaken taken, resolveAloud_of_remarksTaken taken]

/-- A clip that is shown whole and then in part, a clip in part without its sound, and a song of
unknown length. -/
def sharedClips : RenderSpec where
  width := 640
  height := 360
  timeline := [.video ⟨"a.mp4", none, fullVolume, none⟩,
    .video ⟨"a.mp4", some (.between 1 2), fullVolume, none⟩,
    .video ⟨"b.mp4", some (.between 1 2), 0, none⟩, .audio ⟨"c.mp3", none, none, none, 50⟩]
  quality := "medium"
  extension := "mp4"
  scaling := .cover
  subtitles := none

/-- The clip and the song are asked for once, and the silent clip is not. -/
theorem resolve_probes_once_sharedClips :
    (∀ path fault, Resolution.nothingFound path ≠ .error (.fault fault)) ∧
    let cache := (resolve {} Resolution.everyFile Resolution.nothingFound sharedClips).1
    cache.asked.Nodup ∧ ∀ path, path ∈ cache.asked ↔
      path = .ofString "a.mp4" ∨ path = .ofString "c.mp3" := by
  have answering : ∀ path fault, Resolution.nothingFound path ≠ .error (.fault fault) := by
    simp [Resolution.nothingFound]
  obtain ⟨probes, -⟩ := resolve_probes_once answering .silent {} Resolution.everyFile sharedClips
  have found : ∀ item ∈ sharedClips.timeline, item.IsFound Resolution.everyFile :=
    fun _ _ name _ => ⟨.ofString name, rfl⟩
  refine ⟨answering, probes.once, fun path => ?_⟩
  rw [probes.asked (by simp [sharedClips]) found]
  have heard : (0 : Binary64) < fullVolume := by decide +kernel
  have unheard : ¬ (0 : Binary64) < 0 := by decide +kernel
  simp [sharedClips, TimelineItem.IsProbed, TimelineItem.LiesAt, TimelineItem.filename?,
    Resolution.everyFile, heard, unheard, eq_comm]

/-- A composition of a missing image, with a closing tag in its subtitles. -/
def missingStill : RenderSpec where
  width := 640
  height := 360
  timeline := [.image ⟨"gone.png", 1, none⟩]
  quality := "medium"
  extension := "mp4"
  scaling := .cover
  subtitles := some closingTagBlock

/-- The warning about the subtitles keeps the missing image from being named. -/
theorem not_named_missingStill :
    let nowhere : AssetLookup := fun name => .error (.rejected (.fileNotFound name))
    (resolve {} nowhere Resolution.nothingFound missingStill).2 =
        .error (.rejected (.unresolvedAsset "gone.png")) ∧
      ∃ fault, (resolveAloud .normal {} nowhere Resolution.nothingFound missingStill).2.2 =
        .error (.fault fault) := by
  have filled : missingStill.timeline ≠ [] := by simp [missingStill]
  exact ⟨rfl, exists_fault_of_not_remarksTaken (not_remarksTaken_closingTag filled rfl)⟩

end Render

end Montage
