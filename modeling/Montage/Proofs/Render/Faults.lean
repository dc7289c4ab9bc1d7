import Montage.CommandLine.Session
import Montage.Proofs.Filter.Building
import Montage.Proofs.Jobs.Announcement
import Montage.Proofs.Render.Remarks
import Montage.Proofs.Timeline.Invariant

/-!
# Where compilation breaks off

A composition has a plan, or a reason why it has none.  Besides that there is only what no rule
foresees: a remark that the console does not take, and an audio clip whose start is no finite
number of milliseconds.
-/

namespace Montage

namespace Render

open Filter.Graph

variable {verbosity : Console.Verbosity} {config : Config} {assets : AssetLookup}
  {prober : Prober} {directory : Path} {name : String} {spec : RenderSpec}
  {timeline : ResolvedTimeline}

/-- Whether a composition has a plan, or is turned down for one of the reasons that there are. -/
def Foreseen (result : Except PlanError RenderPlan) : Prop :=
  ∀ fault, result ≠ .error (.fault fault)

/-- Whether the console takes what is said while a composition is resolved. -/
structure RemarksTaken (verbosity : Console.Verbosity) (config : Config) (assets : AssetLookup)
    (prober : Prober) (spec : RenderSpec) : Prop where
  subtitles : spec.timeline ≠ [] → ∀ remark ∈ subtitleRemarks spec, remark.IsTaken verbosity
  probes : ∀ path ∈ (resolve config assets prober spec).1.asked,
    ∀ remark ∈ probeRemarks prober path, remark.IsTaken verbosity

/-- What it takes for a compilation not to break off. -/
structure Uninterrupted (verbosity : Console.Verbosity) (config : Config) (assets : AssetLookup)
    (prober : Prober) (spec : RenderSpec) : Prop
    extends RemarksTaken verbosity config assets prober spec where
  delays : ∀ timeline, (resolve config assets prober spec).2 = .ok timeline →
    FiniteDelays timeline.items

/-- A silent console takes all that is said, so that only the delays are left. -/
theorem uninterrupted_silent_iff : Uninterrupted .silent config assets prober spec ↔
    ∀ timeline, (resolve config assets prober spec).2 = .ok timeline →
      FiniteDelays timeline.items :=
  ⟨Uninterrupted.delays, fun finite => ⟨⟨fun _ => isTaken_subtitleRemarks_silent,
    fun _ _ => isTaken_probeRemarks_silent⟩, finite⟩⟩

theorem foreseen_plan_iff (config : Config) (directory : Path) (name : String)
    (spec : RenderSpec) (timeline : ResolvedTimeline) :
    Foreseen (plan config directory name spec timeline) ↔ FiniteDelays timeline.items := by
  constructor
  · intro foreseen
    by_contra infinite
    obtain ⟨reason, broken⟩ := build_of_not_finiteDelays (frameOf config spec) infinite
    exact foreseen (.ofNumeric reason) (by simp [plan, broken, PlanError.ofBuild])
  · intro finite fault
    have built := build_of_finiteDelays (frameOf config spec) finite
    unfold plan
    split at built
    next => simp [built, PlanError.ofBuild]
    next =>
      split at built
      next => simp [built, PlanError.ofBuild]
      next =>
        obtain ⟨graph, built, -⟩ := built
        simp [built]

theorem printAll_resolutionRemarks_iff {cache : ProbeCache}
    {result : Except ResolutionError ResolvedTimeline} :
    (Remark.printAll verbosity (resolutionRemarks prober cache result)).2 = none ↔
      ∀ path ∈ cache.asked, ∀ remark ∈ probeRemarks prober path, remark.IsTaken verbosity := by
  rw [Remark.printAll_eq_none_iff, ← List.forall_mem_flatMap]
  unfold resolutionRemarks
  rw [List.forall_mem_append]
  cases result with
  | error reason => simp
  | ok timeline => simp [isTaken_timelineRemark]

theorem printAll_subtitleRemarks_iff :
    (Remark.printAll verbosity (if spec.timeline.isEmpty then [] else subtitleRemarks spec)).2 =
        none ↔
      (spec.timeline ≠ [] → ∀ remark ∈ subtitleRemarks spec, remark.IsTaken verbosity) := by
  rw [Remark.printAll_eq_none_iff]
  by_cases none : spec.timeline = []
  · simp [none]
  · simp [none]

/-- What comes of a resolution is told by whether its remarks are printed. -/
theorem resolveAloud_eq :
    (resolveAloud verbosity config assets prober spec).2.2 =
      match (Remark.printAll verbosity
          (if spec.timeline.isEmpty then [] else subtitleRemarks spec)).2 with
      | some fault => .error (.fault fault)
      | none =>
          match (Remark.printAll verbosity (resolutionRemarks prober
              (resolve config assets prober spec).1 (resolve config assets prober spec).2)).2 with
          | some fault => .error (.fault fault)
          | none => (resolve config assets prober spec).2 := by
  dsimp only [resolveAloud]
  rcases Remark.printAll verbosity
    (if spec.timeline.isEmpty then [] else subtitleRemarks spec) with ⟨printed, _ | fault⟩
  · rcases resolve config assets prober spec with ⟨cache, result⟩
    dsimp only
    rcases Remark.printAll verbosity (resolutionRemarks prober cache result) with
      ⟨lines, _ | fault⟩ <;> rfl
  · rfl

theorem resolveAloud_of_remarksTaken
    (taken : RemarksTaken verbosity config assets prober spec) :
    (resolveAloud verbosity config assets prober spec).2.2 =
      (resolve config assets prober spec).2 := by
  rw [resolveAloud_eq, printAll_subtitleRemarks_iff.mpr taken.subtitles,
    printAll_resolutionRemarks_iff.mpr taken.probes]

theorem exists_fault_of_not_remarksTaken
    (refused : ¬ RemarksTaken verbosity config assets prober spec) :
    ∃ fault, (resolveAloud verbosity config assets prober spec).2.2 = .error (.fault fault) := by
  rw [resolveAloud_eq]
  split
  next fault _ => exact ⟨fault, rfl⟩
  next first =>
    split
    next fault _ => exact ⟨fault, rfl⟩
    next second =>
      exact absurd ⟨printAll_subtitleRemarks_iff.mp first,
        printAll_resolutionRemarks_iff.mp second⟩ refused

/-- The remark on a graph is always printed, so a plan is kept. -/
theorem compileAloud_eq :
    (compileAloud verbosity config assets prober directory name spec).2 =
      match (resolveAloud verbosity config assets prober spec).2.2 with
      | .error reason => .error (.ofResolution reason)
      | .ok timeline => plan config directory name spec timeline := by
  unfold compileAloud
  rcases resolveAloud verbosity config assets prober spec with ⟨cache, printed, reason | timeline⟩
  · rfl
  · dsimp only
    cases planned : plan config directory name spec timeline with
    | error reason => rfl
    | ok made =>
        have taken := (Remark.printAll_eq_none_iff verbosity [graphRemark made.graph]).mpr
          (by simp [isTaken_graphRemark])
        dsimp only
        split
        next line printed => rfl
        next line fault broken => simp [broken] at taken

/-- A compilation whose lookup and prober do not break off ends as it is foreseen exactly if the
console takes all remarks and every audio clip starts at a finite number of milliseconds. -/
theorem foreseen_compileAloud_iff
    (answered : ∀ item ∈ spec.timeline, ∀ name, item.filename? = some name →
      ∀ fault, assets name ≠ .error (.fault fault))
    (probed : ∀ path fault, prober path ≠ .error (.fault fault)) :
    Foreseen (compileAloud verbosity config assets prober directory name spec).2 ↔
      Uninterrupted verbosity config assets prober spec := by
  by_cases taken : RemarksTaken verbosity config assets prober spec
  · rw [compileAloud_eq, resolveAloud_of_remarksTaken taken]
    cases resolved : (resolve config assets prober spec).2 with
    | error reason =>
        have rejects := Resolution.resolve_ne_fault answered probed (resolutionOptions config)
        refine iff_of_true ?_ ⟨taken, by simp [resolved]⟩
        cases reason with
        | rejected reason => simp [Foreseen, PlanError.ofResolution]
        | fault fault => exact absurd resolved (rejects fault)
    | ok timeline =>
        rw [foreseen_plan_iff]
        refine ⟨fun finite => ⟨taken, fun other same => ?_⟩, fun all => all.delays _ resolved⟩
        obtain rfl := Except.ok.inj (resolved.symm.trans same)
        exact finite
  -- A remark that is not taken ends the compilation, whatever would come of it.
  · obtain ⟨fault, broken⟩ := exists_fault_of_not_remarksTaken taken
    rw [compileAloud_eq, broken]
    exact iff_of_false (fun foreseen => foreseen fault rfl) fun all => taken all.toRemarksTaken

/-- A plan that is missing is missing for want of a graph. -/
theorem exists_ofBuild_of_plan_error {reason : PlanError}
    (missing : plan config directory name spec timeline = .error reason) :
    ∃ cause, reason = .ofBuild cause := by
  unfold plan at missing
  split at missing
  next cause _ => exact ⟨cause, (Except.error.inj missing).symm⟩
  next => simp at missing

end Render

namespace CommandLine

/-- Whether a command succeeds, or says an error that the console takes. -/
def Outcome.Reports (verbosity : Console.Verbosity) (outcome : Outcome) : Prop :=
  outcome.exitCode = 0 ∨
    ∃ remark ∈ outcome.said, remark.level = .error ∧ remark.IsTaken verbosity

namespace Session

open Render

def prober (session : Session) (config : Config) : Prober := fun path =>
  ProbeTool.interpret path (.integer config.probe.timeout) (session.probe path)

variable {session : Session} {compilation : Compilation} {config : Config}
  {assets : AssetLookup} {prober : Prober} {spec : RenderSpec} {verbosity : Console.Verbosity}

/-- Whether a compilation has a session compile a composition with a lookup and a prober. -/
structure Compiles (session : Session) (compilation : Compilation) (config : Config)
    (assets : AssetLookup) (prober : Prober) (spec : RenderSpec) : Prop where
  configured : session.configuration compilation.config compilation.output = .ok config
  read : session.specification compilation.request = .ok spec
  assets : session.assets compilation.assets = assets
  prober : session.prober config = prober

def quiet (compilation : Compilation) : Console.Verbosity :=
  if compilation.verbose then .verbose else .silent

def lively (compilation : Compilation) : Console.Verbosity :=
  if compilation.verbose then .verbose else .normal

theorem Compiles.plan_eq (compiles : session.Compiles compilation config assets prober spec)
    (verbosity : Console.Verbosity) :
    session.plan verbosity config compilation spec =
      compileAloud verbosity config assets prober (.ofString config.storage.outputDirectory)
        outputName spec := by
  rw [← compiles.assets, ← compiles.prober]
  rfl

/-- The command that prints reports a failure unless that is a fault, or is not printed. -/
theorem Compiles.reports_compile_iff
    (compiles : session.Compiles compilation config assets prober spec) :
    (session.compile compilation).Reports (quiet compilation) ↔
      Foreseen (session.plan (quiet compilation) config compilation spec).2 ∧
      ∀ reason, (session.plan (quiet compilation) config compilation spec).2 = .error reason →
        Remark.IsTaken (quiet compilation) ⟨.error, reason.message⟩ := by
  unfold compile
  simp only [compiles.configured, compiles.read, ← quiet.eq_1]
  rcases session.plan (quiet compilation) config compilation spec with
    ⟨printed, reason | plan⟩
  · cases reason <;> simp [Outcome.Reports, failPlan, fail, Foreseen]
  · simp [Outcome.Reports, succeed, Foreseen]

theorem said_encode_ne_nil (plan : RenderPlan) : (session.encode verbosity plan).said ≠ [] := by
  unfold encode
  dsimp only
  split
  next => simp [fail]
  next =>
    split
    next reason _ =>
      rcases reason with (_ | _) | _ <;> simp [failEncode, fail]
    next => simp [succeed]

/-- The command that encodes ends without a word exactly at a fault of its plan. -/
theorem Compiles.said_render_eq_nil_iff
    (compiles : session.Compiles compilation config assets prober spec) :
    (session.render compilation).said = [] ↔
      ¬ Foreseen (session.plan (lively compilation) config compilation spec).2 := by
  have read : (session.configureEncoder config.rendering).specification compilation.request =
      .ok spec := compiles.read
  have plans (verbosity : Console.Verbosity) :
      (session.configureEncoder config.rendering).plan verbosity config compilation spec =
        session.plan verbosity config compilation spec := rfl
  unfold render
  simp only [compiles.configured, read, plans, ← lively.eq_1]
  rcases session.plan (lively compilation) config compilation spec with
    ⟨printed, reason | plan⟩
  · cases reason <;> simp [failPlan, fail, Foreseen]
  · simp [Foreseen, said_encode_ne_nil]

end Session

end CommandLine

namespace Jobs.Queue

open Filter.Graph

/-- A setback of planning that is recorded as internal comes of a start that is no finite number of
milliseconds. -/
theorem plan_internal_iff (queue : Queue) (entry : Entry) :
    (∃ setback, (queue.plan entry).2 = .error setback ∧ setback.failure.kind = .internal) ↔
      ¬ FiniteDelays entry.timeline.items := by
  rw [← Render.foreseen_plan_iff queue.config queue.directory (outputName (queue.named + 1))
    entry.spec]
  unfold plan
  dsimp only
  cases planned : Render.plan queue.config queue.directory (outputName (queue.named + 1))
      entry.spec entry.timeline with
  | ok made => simp [Render.Foreseen]
  | error reason =>
      obtain ⟨cause, rfl⟩ := Render.exists_ofBuild_of_plan_error planned
      cases cause <;>
        simp [Render.Foreseen, PlanError.ofBuild, Setback.ofPlan, Setback.failure]

/-- A run of a render with such a start settles its job as failed for an internal reason. -/
theorem run_settles_internal (equipment : Equipment) (encoder : Except Fault Encode.Behavior)
    (premises : Premises) {queue : Queue} (entry : Entry) {job : Job} {inside : List String}
    (free : queue.registry.isFull = false)
    (registered : queue.registry.find? entry.job = some job)
    (under : queue.registry.Underway entry.job inside) (unasked : ¬ job.cancelRequested)
    (plain : '[' ∉ entry.job.toList) (infinite : ¬ FiniteDelays entry.timeline.items) :
    ∃ job reason, (queue.run equipment encoder premises entry).1.registry.find? entry.job =
      some job ∧ job.settled = true ∧ job.state = .failed ∧
      job.failure = some ⟨.internal, (Fault.ofNumeric reason).message⟩ := by
  obtain ⟨reason, broken⟩ := build_of_not_finiteDelays
    (Render.frameOf queue.config entry.spec) infinite
  have missing : (queue.plan entry).2 = .error (.fault (.ofNumeric reason)) := by
    simp [plan, Render.plan, broken, PlanError.ofBuild, Setback.ofPlan]
  -- The console takes what is said of the crash, so that the failure is recorded.
  have absent : '[' ∉ (Fault.ofNumeric reason).message.toList := by cases reason <;> decide
  have failed := render_of_plan_error equipment encoder premises
    ((plan_withRegistry queue (queue.registry.enter entry.job).1 entry).trans missing)
  obtain ⟨command, job, found, recorded⟩ := records_setback free registered under unasked failed
  rw [announce_fault plain equipment.verbosity absent] at recorded
  exact ⟨job, reason, found, recorded.2⟩

end Jobs.Queue

namespace Render

open CommandLine Filter.Graph

/-- Where lookup and prober answer, a composition has a plan or a reason why it has none, exactly
if the console takes all remarks and every audio clip starts at a finite number of milliseconds.
Otherwise commands fail without a report of it, and what planning in the queue leaves as internal is
such a start. -/
theorem foreseen_iff_uninterrupted (verbosity : Console.Verbosity) (config : Config)
    {assets : AssetLookup} {prober : Prober} (directory : Path) (name : String) {spec : RenderSpec}
    (answered : ∀ item ∈ spec.timeline, ∀ name, item.filename? = some name →
      ∀ fault, assets name ≠ .error (.fault fault))
    (probed : ∀ path fault, prober path ≠ .error (.fault fault)) :
    (Foreseen (compileAloud verbosity config assets prober directory name spec).2 ↔
      Uninterrupted verbosity config assets prober spec) ∧
    (∀ (session : Session) (compilation : Compilation),
      session.Compiles compilation config assets prober spec →
      ((session.compile compilation).Reports (Session.quiet compilation) ↔
        Uninterrupted (Session.quiet compilation) config assets prober spec ∧
        ∀ reason, (session.plan (Session.quiet compilation) config compilation spec).2 =
            .error reason →
          Remark.IsTaken (Session.quiet compilation) ⟨.error, reason.message⟩) ∧
      ((session.render compilation).said = [] ↔
        ¬ Uninterrupted (Session.lively compilation) config assets prober spec)) ∧
    ∀ (queue : Jobs.Queue) (entry : Jobs.Entry),
      (∃ setback, (queue.plan entry).2 = .error setback ∧ setback.failure.kind = .internal) ↔
        ¬ FiniteDelays entry.timeline.items := by
  refine ⟨foreseen_compileAloud_iff answered probed, fun session compilation compiles => ?_,
    Jobs.Queue.plan_internal_iff⟩
  constructor
  · rw [compiles.reports_compile_iff, compiles.plan_eq, foreseen_compileAloud_iff answered probed]
  · rw [compiles.said_render_eq_nil_iff, compiles.plan_eq,
      foreseen_compileAloud_iff answered probed]

/-- A request for an image with an audio clip that starts at some time. -/
def songRequest (start : String) : String :=
  "\x7b\"timeline\": [\x7b\"type\": \"image\", \"filename\": \"a.png\"\x7d, " ++
    "\x7b\"type\": \"audio\", \"filename\": \"b.mp3\", \"duration\": 1, \"startTime\": " ++
    start ++ "\x7d]\x7d"

/-- A directory with such a request and its files. -/
def songSession (start : String) : Session where
  tree := [("a.json", songRequest start), ("a.png", ""), ("b.mp3", "")].foldl
    (fun tree (name, content) => tree.write (.ofString ("/work/" ++ name)) content) .empty
  directory := .ofString "/work"
  probe := fun _ => .notStarted
  version := fun _ => .notStarted
  encoder := .started [] [] 0
  download := fun tree _ => (tree, .error .unreachable)

def songCompilation : Compilation := { request := .ofString "a.json" }

def songAssets (start : String) : AssetLookup :=
  (songSession start).assets songCompilation.assets

def songProber (start : String) : Prober := (songSession start).prober {}

/-- The composition that is read, with the timeline that it is resolved to. -/
def songTimeline? (start : String) (assets : AssetLookup) (prober : Prober) :
    Option (RenderSpec × ResolvedTimeline) :=
  ((songSession start).specification songCompilation.request).toOption.bind fun spec =>
    (resolve {} assets prober spec).2.toOption.map fun timeline => (spec, timeline)

theorem exists_of_songTimeline? {start : String} {assets : AssetLookup} {prober : Prober}
    {spec : RenderSpec} {timeline : ResolvedTimeline}
    (found : songTimeline? start assets prober = some (spec, timeline)) :
    (songSession start).Compiles songCompilation {} (songAssets start) (songProber start) spec ∧
      (resolve {} assets prober spec).2 = .ok timeline := by
  obtain ⟨read, known, resolves⟩ := Option.bind_eq_some_iff.mp found
  obtain ⟨other, resolved, same⟩ := Option.map_eq_some_iff.mp resolves
  obtain ⟨rfl, rfl⟩ := Prod.mk.inj same
  exact ⟨⟨rfl, toOption_eq_some_iff.mp known, rfl, rfl⟩, toOption_eq_some_iff.mp resolved⟩

def missing? : Except PlanError RenderPlan → Option PlanError
  | .error reason => some reason
  | .ok _ => none

theorem missing?_eq_some_iff {result : Except PlanError RenderPlan} {reason : PlanError} :
    missing? result = some reason ↔ result = .error reason := by
  cases result <;> simp [missing?]

def songItems : List TimelineItem :=
  [.image ⟨"a.png", 5, none⟩, .audio ⟨"b.mp3", some 2, none, some 1, fullVolume⟩]

/-- A clip from two seconds on is compiled, and the command reports no failure. -/
theorem foreseen_songFromTwo :
    ∃ spec, (songSession "2").Compiles songCompilation {} (songAssets "2") (songProber "2") spec ∧
      Foreseen (compileAloud .silent {} (songAssets "2") (songProber "2")
        (.ofString "data/outputs") "out-1" spec).2 ∧
      ((songSession "2").compile songCompilation).Reports .silent := by
  have facts : (songTimeline? "2" (songAssets "2") (songProber "2")).map
      (fun (spec, timeline) => (spec.timeline,
        timeline.items.all fun resolved => (resolved.start * 1000).toRat?.isSome,
        ((songSession "2").plan .silent {} songCompilation spec).2.toOption.isSome)) =
      some (songItems, true, true) := by
    decide +kernel
  obtain ⟨⟨spec, timeline⟩, found, same⟩ := Option.map_eq_some_iff.mp facts
  obtain ⟨items, finite, planned⟩ : spec.timeline = songItems ∧
      (timeline.items.all fun resolved => (resolved.start * 1000).toRat?.isSome) = true ∧
      ((songSession "2").plan .silent {} songCompilation spec).2.toOption.isSome = true := by
    simpa only [Prod.mk.injEq] using same
  obtain ⟨compiles, resolves⟩ := exists_of_songTimeline? found
  have answered : ∀ item ∈ spec.timeline, ∀ name, item.filename? = some name →
      ∀ fault, songAssets "2" name ≠ .error (.fault fault) := by
    have there : ∀ item ∈ songItems, ∀ name ∈ item.filename?,
        (songAssets "2" name).toOption.isSome := by decide
    intro item member name named fault broken
    have found := there item (items ▸ member) name named
    simp [broken, Except.toOption] at found
  have probed : ∀ path fault, songProber "2" path ≠ .error (.fault fault) := by
    intro path fault
    simp [songProber, songSession, Session.prober, ProbeTool.interpret]
  -- Nothing is printed, so the delays are all that could break the compilation off.
  have through : Uninterrupted .silent {} (songAssets "2") (songProber "2") spec := by
    refine uninterrupted_silent_iff.mpr fun other same => ?_
    obtain rfl := Except.ok.inj (resolves.symm.trans same)
    exact fun resolved member _ _ => List.all_eq_true.mp finite resolved member
  have closed := foreseen_iff_uninterrupted .silent {} (.ofString "data/outputs") "out-1" answered
    probed
  refine ⟨spec, compiles, closed.1.mpr through, (closed.2.1 _ _ compiles).1.mpr ⟨through, ?_⟩⟩
  intro reason missing
  change ((songSession "2").plan .silent {} songCompilation spec).2 = _ at missing
  simp [missing, Except.toOption] at planned

def songQueue (spec : RenderSpec) (timeline : ResolvedTimeline) : Jobs.Queue :=
  ((Jobs.Queue.start {} (.start 1 200 1000) (.ofString "/outputs")).submit spec timeline).1

theorem find?_songQueue (spec : RenderSpec) (timeline : ResolvedTimeline) :
    (songQueue spec timeline).registry.find? "job-1" =
      some (.accepted "job-1" 1000 (timeline.items.filterMap (·.path))) := by
  have named : Jobs.Registry.identifier 1 = "job-1" := by decide
  simp [songQueue, Jobs.Queue.start, Jobs.Queue.submit, Jobs.Registry.start,
    Jobs.Registry.create, Jobs.Registry.prune, Jobs.Registry.outdated, Jobs.Registry.publish,
    Jobs.Registry.find?, Jobs.Job.accepted, named]

/-- A start of which the milliseconds are beyond all numbers breaks the compilation off, although
every file is found and probed.  The command does not report it, and the job of the render fails for
an internal reason. -/
theorem not_foreseen_songFromFar :
    ∃ spec timeline job,
      (songSession "1e308").Compiles songCompilation {} (songAssets "1e308") (songProber "1e308")
        spec ∧
      (resolve {} Resolution.everyFile Resolution.nothingFound spec).2 = .ok timeline ∧
      (compileAloud .silent {} Resolution.everyFile Resolution.nothingFound
        (.ofString "data/outputs") "out-1" spec).2 = .error (.fault .infinite) ∧
      ¬ ((songSession "1e308").compile songCompilation).Reports .silent ∧
      ((songQueue spec timeline).run {} (.ok Jobs.Queue.idleEncoder) {}
        ⟨"job-1", spec, timeline⟩).1.registry.find? "job-1" = some job ∧
      job.failure.map (·.kind) = some .internal := by
  have facts : (songTimeline? "1e308" Resolution.everyFile Resolution.nothingFound).map
      (fun (spec, timeline) =>
        (timeline.items.any fun resolved =>
          resolved.item.isAudio && (resolved.start * 1000).toRat?.isNone,
        missing? (compileAloud .silent {} Resolution.everyFile Resolution.nothingFound
          (.ofString "data/outputs") "out-1" spec).2,
        missing? ((songSession "1e308").plan .silent {} songCompilation spec).2)) =
      some (true, some (.fault .infinite), some (.fault .infinite)) := by
    decide +kernel
  obtain ⟨⟨spec, timeline⟩, found, same⟩ := Option.map_eq_some_iff.mp facts
  simp only [Prod.mk.injEq, missing?_eq_some_iff] at same
  obtain ⟨far, broken, stopped⟩ := same
  obtain ⟨compiles, resolves⟩ := exists_of_songTimeline? found
  have infinite : ¬ FiniteDelays timeline.items := by
    intro finite
    obtain ⟨resolved, member, late⟩ := List.any_eq_true.mp far
    obtain ⟨audio, unknown⟩ := Bool.and_eq_true_iff.mp late
    cases kind : resolved.item with
    | audio clip =>
        have known := finite resolved member clip kind
        simp [Option.isNone_iff_eq_none.mp unknown] at known
    | video _ | image _ | text _ => simp [kind, TimelineItem.isAudio] at audio
  have silent : ¬ ((songSession "1e308").compile songCompilation).Reports .silent := fun reports =>
    (compiles.reports_compile_iff.mp reports).1 .infinite stopped
  have waits := find?_songQueue spec timeline
  have under : (songQueue spec timeline).registry.Underway "job-1" [] :=
    ⟨⟨_, waits, rfl, rfl, rfl⟩, rfl⟩
  have plain : '[' ∉ "job-1".toList := by decide
  obtain ⟨after, reason, left, -, -, recorded⟩ := Jobs.Queue.run_settles_internal {}
    (.ok Jobs.Queue.idleEncoder) {} ⟨"job-1", spec, timeline⟩ rfl waits under
    (by simp [Jobs.Job.accepted]) plain infinite
  exact ⟨spec, timeline, after, compiles, resolves, broken, silent, left, by simp [recorded]⟩

end Render

end Montage
