import Montage.Proofs.Probe.Reports
import Montage.Proofs.Render.Faults

/-!
# Degraded probes

Whatever becomes of the probing tool, a probe gives a result or is degraded, unless the report
derails its reader.  A degraded probe costs an item its own length and its sound, and nothing else.
-/

namespace Montage

namespace Resolution

variable {options : Options} {assets : AssetLookup} {prober : Prober} {spec : RenderSpec}
  {timeline : ResolvedTimeline} {resolved : ResolvedItem} {path : Path}

/-- What becomes of an item whose file cannot be inspected: a video clip has no sound, and a clip
that is not cut has the fallback length. -/
def FallsBack (fallback : Binary64) (resolved : ResolvedItem) : Prop :=
  match resolved.item with
  | .video clip =>
      resolved.hasAudio = false ∧
        (clip.cut = none ∨ clip.cut = some .whole → resolved.duration = fallback)
  | .audio clip =>
      clip.duration = none → clip.cut = none ∨ clip.cut = some .whole →
        resolved.duration = fallback
  | .image _ => True
  | .text _ => True

theorem cutLength_of_whole {cut : Option Cut} (whole : cut = none ∨ cut = some .whole)
    (filename : String) : cutLength filename cut = .ok none := by
  rcases whole with rfl | rfl <;> rfl

theorem fallsBack_settle {fallback cursor duration : Binary64} {item : TimelineItem}
    {place : Option Path} (taken : lengthOf fallback none item = .ok duration) :
    FallsBack fallback (settle cursor item place none duration) := by
  cases item with
  | video clip =>
      refine ⟨rfl, fun whole => ?_⟩
      rw [lengthOf, cutLength_of_whole whole] at taken
      exact (Except.ok.inj taken).symm
  | audio clip =>
      intro unset whole
      rw [lengthOf, cutLength_of_whole whole, unset] at taken
      exact (Except.ok.inj taken).symm
  | image _ => trivial
  | text _ => trivial

theorem probeAt_of_degraded {failure : ProbeFailure} {paths : List Path}
    (degrades : prober path = .error (.degraded failure)) :
    probeAt (ProbeCache.answers prober paths) (some path) = none := by
  have outcome : ProbeCache.outcome? prober path = some none := by
    simp [ProbeCache.outcome?, degrades]
  rw [probeAt, Option.bind_some, ProbeCache.lookup_answers, outcome]
  split <;> rfl

theorem fallsBack_of_resolve {failure : ProbeFailure}
    (resolves : (resolve options assets prober spec).2 = .ok timeline)
    (member : resolved ∈ timeline.items) (given : resolved.path = some path)
    (degrades : prober path = .error (.degraded failure)) :
    FallsBack options.fallbackDuration resolved := by
  obtain ⟨located, entry, before, after, -, -, placed⟩ := exists_place_of_resolve resolves member
  obtain ⟨duration, taken, -, -, rfl, -⟩ := place_ok_iff.mp placed
  have known : entry.2 = some path := by
    rw [settle] at given
    dsimp only at given
    split at given
    · simp at given
    · exact given
  rw [known, probeAt_of_degraded degrades] at taken ⊢
  exact fallsBack_settle taken

end Resolution

namespace Render

open ProbeTool

/-- Where every lookup answers, a resolution does not break off exactly if the console takes all
remarks and every path that is asked for has an outcome. -/
theorem forall_ne_resolveAloud_iff {verbosity : Console.Verbosity} {config : Config}
    {assets : AssetLookup} {prober : Prober} {spec : RenderSpec}
    (answered : ∀ item ∈ spec.timeline, ∀ name, item.filename? = some name →
      ∀ fault, assets name ≠ .error (.fault fault)) :
    (∀ fault, (resolveAloud verbosity config assets prober spec).2.2 ≠ .error (.fault fault)) ↔
      RemarksTaken verbosity config assets prober spec ∧
        ProbeCache.Answered prober (resolve config assets prober spec).1 := by
  by_cases taken : RemarksTaken verbosity config assets prober spec
  · have silent : (∃ fault, (resolve config assets prober spec).2 = .error (.fault fault)) ↔
        ¬ ProbeCache.Answered prober (resolve config assets prober spec).1 :=
      Resolution.resolve_fault_iff answered (resolutionOptions config)
    rw [resolveAloud_of_remarksTaken taken, iff_true_intro taken, true_and]
    exact not_exists.symm.trans ((not_congr silent).trans not_not)
  · obtain ⟨fault, broken⟩ := exists_fault_of_not_remarksTaken taken
    exact iff_of_false (fun unbroken => unbroken fault broken) fun all => taken all.1

/-- Whatever becomes of the probing tool, a probe gives a result or is degraded exactly if the
report does not derail its reader.  Then a cache never breaks off, and resolution does not where the
console takes all remarks; what is degraded falls back. -/
theorem probes_answer_unless_derailed (limit : Json) (runs : Path → ToolRun) :
    let prober : Prober := fun path => interpret path limit (runs path)
    (∀ path fault, prober path = .error (.fault fault) ↔ Derails (runs path) fault) ∧
    (∀ cache path, (∃ outcome, (ProbeCache.probe prober cache path).2 = .ok outcome) ↔
      (cache.outcomes.lookup path).isSome ∨ ∀ fault, ¬ Derails (runs path) fault) ∧
    ∀ verbosity config assets spec,
      (∀ item ∈ spec.timeline, ∀ name, item.filename? = some name →
        ∀ fault, assets name ≠ .error (.fault fault)) →
      ((∀ fault, (resolveAloud verbosity config assets prober spec).2.2 ≠ .error (.fault fault)) ↔
        RemarksTaken verbosity config assets prober spec ∧
        ∀ path ∈ (resolve config assets prober spec).1.asked,
          ∀ fault, ¬ Derails (runs path) fault) ∧
      ∀ timeline, (resolveAloud verbosity config assets prober spec).2.2 = .ok timeline →
        ∀ resolved ∈ timeline.items, ∀ path, resolved.path = some path →
          ∀ failure, prober path = .error (.degraded failure) →
            Resolution.FallsBack config.probe.fallbackDuration resolved := by
  intro prober
  have breaks : ∀ path fault, prober path = .error (.fault fault) ↔ Derails (runs path) fault :=
    fun path fault => interpret_eq_fault_iff path limit (runs path) fault
  refine ⟨breaks, fun cache path => ?_, fun verbosity config assets spec answered => ⟨?_, ?_⟩⟩
  · simp only [ProbeCache.probe_ok_iff, ne_eq, breaks]
  · rw [forall_ne_resolveAloud_iff answered]
    refine and_congr_right fun _ => forall₂_congr fun path _ => ?_
    simp only [ProbeCache.isSome_outcome?_iff, ne_eq, breaks]
  · intro timeline resolves resolved member path given failure degrades
    have taken : RemarksTaken verbosity config assets prober spec := by
      by_contra refused
      obtain ⟨fault, broken⟩ := exists_fault_of_not_remarksTaken refused
      simp [resolves] at broken
    rw [resolveAloud_of_remarksTaken taken] at resolves
    exact Resolution.fallsBack_of_resolve resolves member given degrades

def clipSpec : RenderSpec where
  width := 640
  height := 360
  timeline := [.video ⟨"a.mp4", none, fullVolume, none⟩]
  quality := "medium"
  extension := "mp4"
  scaling := .cover
  subtitles := none

/-- A probing tool that takes too long leaves the clip silent and of the fallback length. -/
theorem probes_answer_timedOut :
    let prober : Prober := fun path => interpret path (.integer 30) .timedOut
    (∀ item ∈ clipSpec.timeline, ∀ name, item.filename? = some name →
      ∀ fault, Resolution.everyFile name ≠ .error (.fault fault)) ∧
    ∃ timeline, (resolveAloud .silent {} Resolution.everyFile prober clipSpec).2.2 = .ok timeline ∧
      ∀ resolved ∈ timeline.items, Resolution.FallsBack 5 resolved := by
  intro prober
  have answered : ∀ item ∈ clipSpec.timeline, ∀ name, item.filename? = some name →
      ∀ fault, Resolution.everyFile name ≠ .error (.fault fault) := by
    simp [Resolution.everyFile]
  obtain ⟨-, -, resolution⟩ := probes_answer_unless_derailed (.integer 30) fun _ => .timedOut
  obtain ⟨-, falls⟩ := resolution .silent {} Resolution.everyFile clipSpec answered
  have paths : (resolveAloud .silent {} Resolution.everyFile prober clipSpec).2.2.toOption.map
      (fun timeline => timeline.items.map (·.path)) = some [some (.ofString "a.mp4")] := by
    decide +kernel
  obtain ⟨timeline, found, paths⟩ := Option.map_eq_some_iff.mp paths
  have resolves := toOption_eq_some_iff.mp found
  refine ⟨answered, timeline, resolves, fun resolved member => ?_⟩
  have given : resolved.path = some (.ofString "a.mp4") := by
    have listed : resolved.path ∈ timeline.items.map (·.path) := List.mem_map_of_mem member
    rw [paths] at listed
    exact List.mem_singleton.mp listed
  exact falls timeline resolves resolved member _ given _ rfl

/-- A report that is a list derails the reader, and with it everything that asked for the probe. -/
theorem probe_derails_emptyList :
    let path : Path := .ofString "/x/a.mp4"
    let prober : Prober := fun path => interpret path (.integer 30) (.exited 0 "[]")
    prober path = .error (.fault .notARecord) ∧
    (ProbeCache.probe prober .empty path).2 = .error .notARecord ∧
    (resolveAloud .silent {} Resolution.everyFile prober clipSpec).2.2 =
      .error (.fault .notARecord) :=
  ⟨rfl, rfl, rfl⟩

end Render

end Montage
