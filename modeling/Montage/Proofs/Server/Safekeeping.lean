import Montage.Proofs.Console.Message
import Montage.Proofs.Server.Custody

/-!
# Safekeeping of files

The files of a job are safe from its acceptance until it settles.  Whatever is requested, and
however far the queue has come with its runs, what the job reads stays as it was when the job was
accepted, and neither that nor its output can be deleted.
-/

namespace Montage.Server.Service

open Jobs

/-- One thing that happens to the server: a request, a run of the queue or a part of one, or a
change of the clock, which may be set back but not to zero. -/
inductive Step (service : Service) : Service → Prop where
  | request (tools : Tools) (request : Request) : Step service (service.reply tools request).1
  | run (encoder : Except Fault Encode.Behavior) : Step service (service.runNext encoder).1
  | part {queue : Queue} {premises : Premises} (part : Queue.Part (service.store.Holds .outputs)
      service.queue service.premises queue premises) : Step service { service with queue, premises }
  | pass {seconds : Binary64} (positive : 0 < service.registry.clock + seconds) :
      Step service (service.tick seconds)

/-- Whether a job is accepted with the request that follows a time. -/
structure AcceptedAt (services : Nat → Service) (job : Job) (time : Nat) : Prop where
  request : ∃ tools request,
    services (time + 1) = ((services time).reply tools request).1
  unknown : ∀ other ∈ (services time).registry.all, other.id ≠ job.id
  known : ∃ accepted ∈ (services (time + 1)).registry.unsettled,
    accepted.id = job.id ∧ accepted.inputs = job.inputs

/-- Whether a deletion is refused because of a job, and changes nothing. -/
structure RefusesDeletion (service : Service) (area : Area) (filename : String) (user : Job) :
    Prop where
  raised : service.deleted area filename = .error (.inUse filename user.id)
  answered : ∀ (tools : Tools) (request : Request),
    deletedName? request.document? = some filename →
      service.respond tools request (.deletion area) =
        (service, .refusal 409 (StoreError.inUse filename user.id).message)

variable {service after : Service} {job : Job}

theorem Step.guards (apart : service.store.Apart) (custody : service.Custody)
    (step : Step service after) :
    (∃ tools request, after = (service.reply tools request).1) ∨ Guards service after := by
  cases step with
  | request tools request => exact .inl ⟨tools, request, rfl⟩
  | run encoder => exact .inr (guards_runNext apart custody encoder)
  | part part => exact .inr (guards_part apart custody part)
  | pass positive => exact .inr (guards_tick positive)

theorem Step.follows (apart : service.store.Apart) (custody : service.Custody)
    (step : Step service after) : Follows service after := by
  rcases step.guards apart custody with ⟨tools, request, rfl⟩ | guards
  · exact follows_reply apart custody tools request
  · exact guards.follows custody

theorem Step.accepts (apart : service.store.Apart) (custody : service.Custody)
    (step : Step service after) (member : job ∈ after.registry.unsettled)
    (unknown : ∀ other ∈ service.registry.all, other.id ≠ job.id) :
    ∃ tools request, after = (service.reply tools request).1 := by
  refine (step.guards apart custody).resolve_right fun guards => ?_
  obtain ⟨earlier, known, retains⟩ := guards.keeps.exists_unsettled member
  have known := (Registry.mem_unsettled.mp known).1
  exact unknown earlier (List.mem_append_left _ known) retains.id.symm

theorem custody_start {tree : FileTree} {directory : Path} {environment : Config.Environment}
    {settings : Media.Settings} {host : Media.Host} {tools : Tools}
    (started : start tree directory environment settings host tools = .ok service) :
    service.Custody ∧ service.registry.unsettled = [] := by
  obtain ⟨config, -, rest⟩ := bind_eq_ok_iff.mp started
  obtain ⟨prepared, -, same⟩ := bind_eq_ok_iff.mp rest
  obtain rfl := Except.ok.inj same
  refine ⟨?_, rfl⟩
  exact {
    sound := Registry.sound_start _ _ (by decide +kernel)
    retired := fun _ member => nomatch member
    directory := rfl
    extensions := fun _ member => nomatch member
    inputs := fun _ member => nomatch member
    targets := fun _ member => nomatch member }

theorem Custody.mem_unsettled (custody : service.Custody) (member : job ∈ service.registry.all)
    (going : job.settled = false) : job ∈ service.registry.unsettled := by
  rcases List.mem_append.mp member with known | retired
  · exact Registry.mem_unsettled.mpr ⟨known, going⟩
  · simp [custody.retired job retired] at going

theorem Custody.refusesDeletion (custody : service.Custody) {area : Area} {filename : String}
    {path : Path} (names : service.store.Names service.premises.tree area filename path)
    (member : job ∈ service.registry.unsettled) (used : path ∈ job.files) :
    ∃ user ∈ service.registry.unsettled, path ∈ user.files ∧
      service.RefusesDeletion area filename user := by
  obtain ⟨inUse, told, users⟩ := custody.inUse
  obtain ⟨user, known, uses, found⟩ := users job member path used
  have raised : service.deleted area filename = .error (.inUse filename user.id) := by
    simp [deleted, told, AssetStore.delete_of_lookup names found, Except.mapError, bind,
      Except.bind]
  refine ⟨user, known, uses, raised, fun tools request named => ?_⟩
  simp [respond, named, deleteFile, names.filled, raised, deletionRefusal]

section Histories

variable {services : Nat → Service} {now : Nat}

/-- The invariant of a history: every unsettled job was accepted at some time, and what it reads
has not changed since. -/
theorem safe_of_steps (apart : (services 0).store.Apart) (custody : (services 0).Custody)
    (idle : (services 0).registry.unsettled = [])
    (steps : ∀ time < now, Step (services time) (services (time + 1))) :
    (services now).store = (services 0).store ∧ (services now).Custody ∧
      ∀ job ∈ (services now).registry.unsettled, ∃ accepted < now,
        AcceptedAt services job accepted ∧ ∀ path ∈ job.inputs, ∀ time, accepted < time →
          time ≤ now → (services time).content? path = (services now).content? path := by
  induction now with
  | zero => exact ⟨rfl, custody, by simp [idle]⟩
  | succ now ih =>
      obtain ⟨same, custody, safe⟩ := ih fun time earlier => steps time (by omega)
      have apart' : (services now).store.Apart := same ▸ apart
      have step := steps now (Nat.lt_succ_self now)
      have follows := step.follows apart' custody
      refine ⟨follows.store.trans same, follows.custody, fun job member => ?_⟩
      rcases follows.jobs job member with ⟨earlier, known, named, inputs, unchanged⟩ | unknown
      -- The job was there before the last step, which left alone what it reads.
      · obtain ⟨accepted, before, acceptance, kept⟩ := safe earlier known
        have acceptance' : AcceptedAt services job accepted :=
          ⟨acceptance.request, named ▸ acceptance.unknown, named ▸ inputs ▸ acceptance.known⟩
        refine ⟨accepted, by omega, acceptance', fun path read time since until' => ?_⟩
        rcases Nat.lt_or_eq_of_le until' with past | rfl
        · rw [unchanged path read]
          exact kept path (inputs ▸ read) time since (by omega)
        · rfl
      -- The job came with the last step.
      · refine ⟨now, Nat.lt_succ_self now, ⟨step.accepts apart' custody member unknown, unknown,
          job, member, rfl, rfl⟩, fun path read time since until' => ?_⟩
        obtain rfl : time = now + 1 := by omega
        rfl

/-- The files of every job that is not settled are safe.  The job was accepted at some time, every
file that it reads is an upload with the content that it had then and at all times since, and a
deletion that names a file that it reads or writes is refused and changes nothing. -/
theorem files_safe_until_settled {tree : FileTree} {directory : Path}
    {environment : Config.Environment} {settings : Media.Settings} {host : Media.Host}
    {tools : Tools}
    (started : start tree directory environment settings host tools = .ok (services 0))
    (apart : (services 0).store.Apart)
    (steps : ∀ time < now, Step (services time) (services (time + 1)))
    (member : job ∈ (services now).registry.all) (going : job.settled = false) :
    (∃ accepted < now, AcceptedAt services job accepted ∧
      ∀ path ∈ job.inputs, (services now).store.Holds .uploads path ∧
        ∃ content, ∀ time, accepted < time → time ≤ now →
          (services time).content? path = some content) ∧
    ∀ area filename path,
      (services now).store.Names (services now).premises.tree area filename path →
      path ∈ job.files → ∃ user ∈ (services now).registry.unsettled, path ∈ user.files ∧
        (services now).RefusesDeletion area filename user := by
  obtain ⟨begins, idle⟩ := custody_start started
  obtain ⟨-, custody, safe⟩ := safe_of_steps apart begins idle steps
  have known := custody.mem_unsettled member going
  refine ⟨?_, fun area filename path names used => custody.refusesDeletion names known used⟩
  obtain ⟨accepted, before, acceptance, kept⟩ := safe job known
  refine ⟨accepted, before, acceptance, fun path read => ?_⟩
  obtain ⟨holds, present⟩ := custody.inputs job known path read
  obtain ⟨content, found⟩ := Option.isSome_iff_exists.mp present
  exact ⟨holds, content, fun time since until' => (kept path read time since until').trans found⟩

end Histories

section Starting

variable {remarks : List Remark} {config : Config} {store : AssetStore} {host : Media.Host}
  {tools : Tools} {tree reached made : FileTree}

theorem announceAll_eq_ok (plain : ∀ remark ∈ remarks, '[' ∉ remark.message.toList) :
    announceAll remarks = .ok () := by
  unfold announceAll
  induction remarks with
  | nil => rfl
  | cons remark remarks ih =>
      rw [List.forall_mem_cons] at plain
      change (Console.announce .normal remark.level remark.message >>= fun _ =>
        remarks.forM fun remark => Console.announce .normal remark.level remark.message) = .ok ()
      rw [Console.announce_of_plain .normal remark.level plain.1]
      exact ih plain.2

/-- The directories of a server are there once all that it says before is printed. -/
theorem prepare_eq_ok {text : String} {fonts : Path} (named : config.storage.fontsDirectory = text)
    (place : Path.resolve store.workingDirectory (Path.ofString text) = fonts)
    (reaches : prepareFonts config fonts tree = .ok reached)
    (spoken : dependencyRemarks host tools reached fonts text = .ok remarks)
    (plain : ∀ remark ∈ remarks, '[' ∉ remark.message.toList)
    (makes : store.prepare reached = .ok made)
    (ready : '[' ∉ (readyRemark store config).message.toList) :
    prepare config store host tools tree = .ok made := by
  have last : ∀ remark ∈ [readyRemark store config], '[' ∉ remark.message.toList := by
    simpa using ready
  subst named place
  simp only [prepare, reaches, spoken, announceAll_eq_ok plain, makes, announceAll_eq_ok last, bind,
    Except.bind]

def noTools : Tools := ⟨fun _ => .notStarted, fun _ => .notStarted⟩

/-- A server in a directory without a configuration. -/
def newService : Service where
  queue := .start {} (.start 1 200 startTime) (.ofString "/srv/data/outputs")
  premises := { tree := ⟨[], ["/srv", "/srv/data", "/srv/data/uploads",
    "/srv/data/outputs"].map .ofString⟩ }
  store := ⟨.ofString "/srv", .ofString "data/uploads", .ofString "data/outputs"⟩
  settings := {}
  host := {}

def stillUpload : Request where
  method := "POST"
  path := "/upload"
  form := some ⟨"still.png", "pixels", "image/png"⟩

def stillRequest : Request where
  method := "POST"
  path := "/render"
  body := some (.object [("timeline", .array [
    .object [("type", .text "image"), ("filename", .text "still.png")]])])

/-- The picture is uploaded, and its render is accepted. -/
def stillHistory : Nat → Service
  | 0 => newService
  | 1 => (newService.reply noTools stillUpload).1
  | _ => ((newService.reply noTools stillUpload).1.reply noTools stillRequest).1

theorem start_newService :
    start .empty (.ofString "/srv") [] {} {} noTools = .ok (stillHistory 0) := by
  have loads : Config.load .empty (.ofString "/srv") [] none = .ok {} := rfl
  have prepared : prepare {} newService.store {} noTools .empty =
      .ok newService.premises.tree := by
    obtain ⟨remarks, spoken, plain⟩ : ∃ remarks, dependencyRemarks {} noTools .empty
        (Path.resolve newService.store.workingDirectory (.ofString "fonts")) "fonts" = .ok remarks ∧
        ∀ remark ∈ remarks, '[' ∉ remark.message.toList := ⟨_, rfl, by decide +kernel⟩
    have makes : newService.store.prepare .empty = .ok newService.premises.tree := rfl
    exact prepare_eq_ok rfl rfl rfl spoken plain makes (by decide)
  refine bind_eq_ok_iff.mpr ⟨_, loads, bind_eq_ok_iff.mpr ⟨_, mapError_eq_ok_iff.mpr prepared, ?_⟩⟩
  rfl

def stillPath : Path := .ofString "/srv/data/uploads/still.png"

/-- Once its render is accepted, the picture cannot be deleted. -/
theorem stillHistory_refusesDeletion :
    (∀ time < 2, Step (stillHistory time) (stillHistory (time + 1))) ∧
    ∃ job ∈ (stillHistory 2).registry.all, job.settled = false ∧ job.inputs = [stillPath] ∧
      (stillHistory 2).content? stillPath = some "pixels" ∧
      (∃ accepted < 2, AcceptedAt stillHistory job accepted) ∧
      ∃ user, (stillHistory 2).RefusesDeletion .uploads "still.png" user := by
  have apart : (stillHistory 0).store.Apart :=
    ⟨fun area => by cases area <;> decide, by decide, by decide⟩
  have steps : ∀ time < 2, Step (stillHistory time) (stillHistory (time + 1)) := by
    intro time earlier
    match time, earlier with
    | 0, _ => exact .request noTools stillUpload
    | 1, _ => exact .request noTools stillRequest
  have held : (∃ job ∈ (stillHistory 2).registry.all, job.settled = false ∧
      job.inputs = [stillPath]) ∧ (stillHistory 2).content? stillPath = some "pixels" ∧
      (stillHistory 2).store.pathIn .uploads "still.png" = .ok stillPath ∧
      (stillHistory 2).premises.tree.refuses stillPath = false := by
    decide +kernel
  obtain ⟨⟨job, member, going, reads⟩, content, named, heard⟩ := held
  have names : (stillHistory 2).store.Names (stillHistory 2).premises.tree .uploads "still.png"
      stillPath :=
    ⟨named, heard, Option.isSome_iff_exists.mpr ⟨_, content⟩⟩
  have used : stillPath ∈ job.files := List.mem_append_left _ (by simp [reads])
  obtain ⟨⟨accepted, before, acceptance, -⟩, refuses⟩ :=
    files_safe_until_settled start_newService apart steps member going
  obtain ⟨user, -, -, refused⟩ := refuses .uploads "still.png" stillPath names used
  exact ⟨steps, job, member, going, reads, content, ⟨accepted, before, acceptance⟩, user, refused⟩

end Starting

end Montage.Server.Service
