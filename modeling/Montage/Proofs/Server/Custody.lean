import Montage.Proofs.Jobs.Retention
import Montage.Proofs.Jobs.Parts
import Montage.Proofs.Jobs.Replay
import Montage.Proofs.Render.Faults
import Montage.Proofs.Storage.Areas
import Montage.Proofs.Storage.Naming
import Montage.Proofs.Timeline.Resolution
import Montage.Proofs.Wire.Accepted
import Montage.Server.Service

/-!
# Custody of files

The files of unsettled jobs are in the custody of the server: what a job reads is an upload that is
there, and what it writes is an output.  Whatever the server does to its queue and its files leaves
the contents of what unsettled jobs read alone.
-/

namespace Montage.Server.Service

open Jobs

def content? (service : Service) (path : Path) : Option String :=
  service.premises.tree.content? path

/-- What the server holds for its unsettled jobs. -/
structure Custody (service : Service) : Prop where
  sound : service.registry.Sound
  retired : ∀ job ∈ service.registry.retired, job.settled = true
  directory : service.queue.directory = service.store.base .outputs
  extensions : ∀ entry ∈ service.queue.entries, ∀ character ∈ entry.spec.extension.toList,
    Wire.RenderRequest.isExtensionCharacter character = true
  inputs : ∀ job ∈ service.registry.unsettled, ∀ path ∈ job.inputs,
    service.store.Holds .uploads path ∧ service.premises.tree.isFile path = true
  targets : ∀ job ∈ service.registry.unsettled, ∀ path ∈ job.target,
    service.store.Holds .outputs path

/-- A server and what becomes of it without a new job. -/
structure Guards (service after : Service) : Prop where
  store : after.store = service.store
  directory : after.queue.directory = service.queue.directory
  entries : ∀ entry ∈ after.queue.entries, entry ∈ service.queue.entries
  evolves : service.registry.Evolves after.registry
  keeps : service.registry.Retains (service.store.Holds .outputs) after.registry
  contents : ∀ job ∈ after.registry.unsettled, ∀ path ∈ job.inputs,
    after.content? path = service.content? path

/-- A server and what becomes of it.  Every unsettled job was unsettled before and what it reads
is unchanged, unless the job is new. -/
structure Follows (service after : Service) : Prop where
  store : after.store = service.store
  custody : after.Custody
  jobs : ∀ job ∈ after.registry.unsettled,
    (∃ earlier ∈ service.registry.unsettled, earlier.id = job.id ∧ earlier.inputs = job.inputs ∧
      ∀ path ∈ job.inputs, after.content? path = service.content? path) ∨
    ∀ other ∈ service.registry.all, other.id ≠ job.id

variable {service after last : Service}

section Guarding

/-- The jobs, the renders that wait and the files are all that matters. -/
theorem Guards.of_eq (store : after.store = service.store)
    (directory : after.queue.directory = service.queue.directory)
    (entries : ∀ entry ∈ after.queue.entries, entry ∈ service.queue.entries)
    (registry : after.registry = service.registry)
    (tree : after.premises.tree = service.premises.tree) : Guards service after where
  store := store
  directory := directory
  entries := entries
  evolves := registry ▸ Registry.Evolves.refl _
  keeps := registry ▸ Registry.Retains.refl _
  contents := fun _ _ path _ => by rw [content?, content?, tree]

theorem Guards.refl (service : Service) : Guards service service :=
  .of_eq rfl rfl (fun _ member => member) rfl rfl

theorem Guards.trans (first : Guards service after) (second : Guards after last) :
    Guards service last where
  store := second.store.trans first.store
  directory := second.directory.trans first.directory
  entries := fun entry member => first.entries entry (second.entries entry member)
  evolves := first.evolves.trans second.evolves
  keeps := first.keeps.trans (first.store ▸ second.keeps)
  contents := fun job member path read => by
    obtain ⟨earlier, known, retains⟩ := second.keeps.exists_unsettled member
    rw [second.contents job member path read]
    exact first.contents earlier known path (retains.inputs ▸ read)

theorem Guards.custody (guards : Guards service after) (custody : service.Custody) :
    after.Custody where
  sound := (guards.evolves custody.sound).1
  retired := guards.keeps.retired custody.retired
  directory := by rw [guards.directory, guards.store, custody.directory]
  extensions := fun entry member => custody.extensions entry (guards.entries entry member)
  inputs := fun job member path read => by
    obtain ⟨earlier, known, retains⟩ := guards.keeps.exists_unsettled member
    obtain ⟨holds, present⟩ := custody.inputs earlier known path (retains.inputs ▸ read)
    have same : after.premises.tree.content? path = service.premises.tree.content? path :=
      guards.contents job member path read
    rw [guards.store, FileTree.isFile, same]
    exact ⟨holds, present⟩
  targets := fun job member path written => by
    obtain ⟨earlier, known, retains⟩ := guards.keeps.exists_unsettled member
    rw [guards.store]
    exact (retains.target path written).elim (custody.targets earlier known path) id

theorem Guards.follows (guards : Guards service after) (custody : service.Custody) :
    Follows service after where
  store := guards.store
  custody := guards.custody custody
  jobs := fun job member => by
    obtain ⟨earlier, known, retains⟩ := guards.keeps.exists_unsettled member
    exact .inl ⟨earlier, known, retains.id.symm, retains.inputs.symm,
      guards.contents job member⟩

/-- What comes after a change without a new job may bring one. -/
theorem Guards.trans_follows (custody : service.Custody) (first : Guards service after)
    (second : Follows after last) : Follows service last where
  store := second.store.trans first.store
  custody := second.custody
  jobs := fun job member => by
    rcases second.jobs job member with ⟨middle, known, named, inputs, contents⟩ | new
    · obtain ⟨earlier, known', retains⟩ := first.keeps.exists_unsettled known
      refine .inl ⟨earlier, known', retains.id.symm.trans named,
        retains.inputs.symm.trans inputs, fun path read => ?_⟩
      rw [contents path read]
      exact first.contents middle known path (inputs ▸ read)
    · refine .inr fun other known same => ?_
      obtain ⟨later, known', moved⟩ := (first.evolves custody.sound).2 other known
      exact new later known' (moved.id.trans same)

theorem guards_registry {registry : Registry} (evolves : service.registry.Evolves registry)
    (keeps : service.registry.Retains (service.store.Holds .outputs) registry) :
    Guards service { service with queue := { service.queue with registry } } :=
  ⟨rfl, rfl, fun _ member => member, evolves, keeps, fun _ _ _ _ => rfl⟩

theorem guards_premises {premises : Premises}
    (contents : ∀ job ∈ service.registry.unsettled, ∀ path ∈ job.inputs,
      premises.tree.content? path = service.content? path) :
    Guards service { service with premises } :=
  ⟨rfl, rfl, fun _ member => member, Registry.Evolves.refl _, Registry.Retains.refl _, contents⟩

theorem guards_output {path : Path} {tree : FileTree} (apart : service.store.Apart)
    (custody : service.Custody) (output : service.store.Holds .outputs path)
    (others : ∀ other, other ≠ path →
      tree.content? other = service.premises.tree.content? other) :
    Guards service { service with premises := { service.premises with tree } } :=
  guards_premises fun job member other read =>
    others other (apart.ne (custody.inputs job member other read).1 output)

end Guarding

section Running

theorem guards_part {queue : Queue} {premises : Premises} (apart : service.store.Apart)
    (custody : service.Custody) (part : Queue.Part (service.store.Holds .outputs) service.queue
      service.premises queue premises) :
    Guards service { service with queue, premises } := by
  cases part with
  | take waiting =>
      refine .of_eq rfl rfl (fun entry member => ?_) rfl rfl
      rw [waiting]
      exact List.mem_cons_of_mem _ member
  | name => exact .of_eq rfl rfl (fun _ member => member) rfl rfl
  | enter id => exact guards_registry (Registry.evolves_enter _ id) (Registry.Retains.enter _ id)
  | setTarget id output =>
      exact guards_registry (Registry.evolves_setTarget _ id _)
        (Registry.Retains.setTarget _ id output)
  | makeDirectory makes =>
      exact guards_premises fun _ _ path _ => FileTree.content?_makeDirectory makes path
  | report id percent =>
      exact guards_registry (Registry.evolves_updateProgress _ id percent)
        (Registry.Retains.updateProgress _ id percent)
  | requestCancel id =>
      exact guards_registry (Registry.evolves_requestCancel _ id)
        (Registry.Retains.requestCancel _ id)
  | write output content =>
      exact guards_output apart custody output fun _ other => FileTree.content?_update other
  | abandon output content =>
      exact guards_output apart custody output fun _ other => FileTree.content?_leave other
  | account processes => exact .of_eq rfl rfl (fun _ member => member) rfl rfl
  | leave id => exact guards_registry (Registry.evolves_leave _ id) (Registry.Retains.leave _ id)
  | finish id output =>
      exact guards_registry (Registry.evolves_finish _ id output)
        (Registry.Retains.finish _ id output)
  | fail id failure =>
      exact guards_registry (Registry.evolves_fail _ id failure)
        (Registry.Retains.fail _ id failure)

theorem guards_works {reached : Queue × Premises} (apart : service.store.Apart)
    (custody : service.Custody) (works : Queue.Works (service.store.Holds .outputs)
      (service.queue, service.premises) reached) :
    Guards service { service with queue := reached.1, premises := reached.2 } := by
  induction works with
  | refl => exact Guards.refl service
  | tail _ part ih => exact ih.trans (guards_part apart (ih.custody custody) part)

theorem holds_outputPath (apart : service.store.Apart) (custody : service.Custody) {entry : Entry}
    (waits : entry ∈ service.queue.entries) (number : Nat) :
    service.store.Holds .outputs
      (Render.outputPath service.queue.directory (Queue.outputName number) entry.spec) := by
  have letters := custody.extensions entry waits
  have characters : (s!"{Queue.outputName number}.{entry.spec.extension}").toList =
      "out-".toList ++ ((Decimal.ofInt number).toList ++
        '.' :: entry.spec.extension.toList) := by
    simp [Queue.outputName, toString]
  rw [Render.outputPath, custody.directory]
  refine AssetStore.holds_child (apart.legal .outputs) ?_ ?_ ?_ ?_
  · rw [characters]
    intro character member
    simp only [List.mem_append, List.mem_cons] at member
    rcases member with fixed | digit | rfl | letter
    · have letters : "out-".toList.all (fun letter => letter ≠ '/' && letter ≠ '\x00') = true := by
        decide
      simpa using List.all_eq_true.mp letters character fixed
    · have digit := Decimal.isDigit_of_mem_ofInt digit
      exact ⟨fun slash => absurd (slash ▸ digit) (by decide),
        fun null => absurd (null ▸ digit) (by decide)⟩
    · decide
    · have letter := letters character letter
      exact ⟨fun slash => absurd (slash ▸ letter) (by decide),
        fun null => absurd (null ▸ letter) (by decide)⟩
  all_goals
    intro same
    rw [same] at characters
    simp at characters

theorem guards_runNext (apart : service.store.Apart) (custody : service.Custody)
    (encoder : Except Fault Encode.Behavior) : Guards service (service.runNext encoder).1 := by
  have works := Queue.works_runNext service.equipment encoder service.queue service.premises
    fun entry waits number => holds_outputPath apart custody waits number
  exact guards_works apart custody works

theorem guards_tick {seconds : Binary64} (positive : 0 < service.registry.clock + seconds) :
    Guards service (service.tick seconds) :=
  guards_registry (Registry.evolves_pass fun _ => positive) (Registry.Retains.tick _ seconds)

end Running

section Requests

theorem guards_subscribe (service : Service) : Guards service service.subscribe.1 :=
  guards_registry (Registry.evolves_of_jobs (fun clock => clock) rfl rfl rfl)
    (Registry.Retains.of_jobs rfl rfl)

theorem guards_cancel (service : Service) (id : String) : Guards service (service.cancel id).1 := by
  unfold cancel
  split
  · exact Guards.refl service
  next registry cancelled =>
    exact guards_registry (Registry.evolves_cancel cancelled) (Registry.Retains.cancel cancelled)

theorem guards_upload (custody : service.Custody) (given : Upload) :
    Guards service (service.upload given).1 := by
  unfold upload
  split
  · exact Guards.refl service
  · split
    · exact Guards.refl service
    next tree path saved =>
      refine guards_premises fun job member other read => ?_
      exact AssetStore.content?_save saved (custody.inputs job member other read).2

theorem Custody.file (custody : service.Custody) {job : Job}
    (member : job ∈ service.registry.unsettled) {path : Path} (used : path ∈ job.files) :
    path.holdsNull = false ∧ Path.resolve service.store.workingDirectory path = path := by
  rcases List.mem_append.mp used with read | written
  · have holds := (custody.inputs job member path read).1
    exact ⟨holds.legal, holds.resolved.resolve_eq⟩
  · have holds := custody.targets job member path (by simpa using written)
    exact ⟨holds.legal, holds.resolved.resolve_eq⟩

theorem Custody.inUse (custody : service.Custody) :
    ∃ inUse, service.registry.pathsInUse service.store.workingDirectory = .ok inUse ∧
      ∀ job ∈ service.registry.unsettled, ∀ path ∈ job.files,
        ∃ user ∈ service.registry.unsettled, path ∈ user.files ∧
          inUse.lookup path = some user.id := by
  obtain ⟨inUse, told⟩ := Registry.pathsInUse_eq_ok service.store.workingDirectory
    fun job member path used => (custody.file member used).1
  refine ⟨inUse, told, fun job member path used => ?_⟩
  obtain ⟨user, known, found, file, holds, same⟩ :=
    Registry.exists_user_of_pathsInUse told member used
  rw [(custody.file member used).2] at found same
  rw [(custody.file known holds).2] at same
  exact ⟨user, known, same ▸ holds, found⟩

theorem delete_of_deleted {area : Area} {filename : String} {tree : FileTree}
    {inUse : List (Path × String)}
    (told : service.registry.pathsInUse service.store.workingDirectory = .ok inUse)
    (deletes : service.deleted area filename = .ok tree) :
    ∃ path, service.store.delete service.premises.tree area filename inUse = .ok (tree, path) := by
  unfold deleted at deletes
  obtain ⟨pairs, given, rest⟩ := bind_eq_ok_iff.mp deletes
  rw [mapError_eq_ok_iff, told] at given
  obtain rfl := Except.ok.inj given
  obtain ⟨⟨left, path⟩, removes, same⟩ := bind_eq_ok_iff.mp rest
  obtain rfl := Except.ok.inj same
  exact ⟨path, removes⟩

theorem guards_deleteFile (custody : service.Custody) (area : Area)
    (filename : String) : Guards service (service.deleteFile area filename).1 := by
  unfold deleteFile
  split
  · exact Guards.refl service
  · split
    next => exact Guards.refl service
    next tree deletes =>
      obtain ⟨inUse, told, users⟩ := custody.inUse
      obtain ⟨path, removes⟩ := delete_of_deleted told deletes
      obtain ⟨free, removed⟩ := AssetStore.delete_eq_ok removes
      refine guards_premises fun job member other read => ?_
      -- What a job reads would be in use, and then nothing is deleted.
      have apart : other ≠ path := by
        rintro rfl
        obtain ⟨user, -, -, used⟩ :=
          users job member other (List.mem_append_left _ read)
        simp [used] at free
      dsimp only at removed ⊢
      rw [removed]
      exact FileTree.content?_remove apart

theorem guards_recordProbes (tools : Tools) (service : Service) (paths : List Path) :
    Guards service (service.recordProbes tools paths) :=
  .of_eq rfl rfl (fun _ member => member) rfl rfl

theorem guards_reject (service : Service) (reason : Rejection) :
    Guards service (service.reject reason).1 := by
  unfold reject
  split <;> exact Guards.refl service

/-- A new job has a new identifier and reads uploads that are there. -/
theorem follows_submit (custody : service.Custody) {spec : RenderSpec}
    {timeline : ResolvedTimeline}
    (letters : ∀ character ∈ spec.extension.toList,
      Wire.RenderRequest.isExtensionCharacter character = true)
    (uploads : ∀ path ∈ timeline.items.filterMap (·.path),
      service.store.Holds .uploads path ∧ service.premises.tree.isFile path = true) :
    Follows service { service with queue := (service.queue.submit spec timeline).1 } := by
  let inputs := timeline.items.filterMap (·.path)
  let job := Job.accepted (Registry.identifier (service.registry.accepted + 1))
    service.registry.clock inputs
  -- No target may be set, so that every unsettled job keeps the one that it has.
  have keeps : (service.registry.accept inputs).Retains (fun _ => False)
      (service.registry.create inputs).1 := Registry.retains_create _ _
  have origin : ∀ known ∈ (service.registry.create inputs).1.unsettled,
      (∃ earlier ∈ service.registry.unsettled, earlier.Retains (fun _ => False) known) ∨
        job.Retains (fun _ => False) known := by
    intro known member
    obtain ⟨earlier, present, retains⟩ := keeps.exists_unsettled member
    obtain ⟨present, going⟩ := Registry.mem_unsettled.mp present
    rcases List.mem_append.mp present with old | new
    · exact .inl ⟨earlier, Registry.mem_unsettled.mpr ⟨old, going⟩, retains⟩
    · obtain rfl := List.mem_singleton.mp new
      exact .inr retains
  refine ⟨rfl, ⟨?_, keeps.retired custody.retired, custody.directory, ?_, ?_, ?_⟩, ?_⟩
  · exact (Registry.evolves_create _ inputs custody.sound).1
  · intro entry member
    rcases List.mem_append.mp member with old | new
    · exact custody.extensions entry old
    · obtain rfl := List.mem_singleton.mp new
      exact letters
  · intro known member path read
    rcases origin known member with ⟨earlier, present, retains⟩ | retains
    · exact custody.inputs earlier present path (retains.inputs ▸ read)
    · rw [retains.inputs] at read
      exact uploads path read
  · intro known member path written
    rcases origin known member with ⟨earlier, present, retains⟩ | retains
    · exact (retains.target path written).elim (custody.targets earlier present path) False.elim
    · exact (retains.target path written).elim (fun none => nomatch none) False.elim
  · intro known member
    rcases origin known member with ⟨earlier, present, retains⟩ | retains
    · exact .inl ⟨earlier, present, retains.id.symm, retains.inputs.symm, fun _ _ => rfl⟩
    · refine .inr fun other present same => ?_
      exact custody.sound.fresh other present (same.trans retains.id)

/-- What a resolved timeline reads are uploads that are there. -/
theorem holds_of_resolveAloud (apart : service.store.Apart) {verbosity : Console.Verbosity}
    {config : Config} {prober : Prober} {spec : RenderSpec} {timeline : ResolvedTimeline}
    (resolved : (Render.resolveAloud verbosity config service.assets prober spec).2.2 =
      .ok timeline) :
    ∀ path ∈ timeline.items.filterMap (·.path),
      service.store.Holds .uploads path ∧ service.premises.tree.isFile path = true := by
  intro path member
  obtain ⟨item, listed, given⟩ := List.mem_filterMap.mp member
  rw [Render.resolveAloud_eq] at resolved
  split at resolved
  · simp at resolved
  · split at resolved
    · simp at resolved
    · obtain ⟨filename, found⟩ := Resolution.exists_asset_of_resolve resolved listed given
      exact AssetStore.holds_of_locate (apart.legal .uploads) (mapError_eq_ok_iff.mp found)

theorem follows_render (apart : service.store.Apart) (custody : service.Custody) (tools : Tools)
    (body : Json) : Follows service (service.render tools body).1 := by
  unfold render
  split
  next => exact (Guards.refl service).follows custody
  next reason _ => exact (guards_reject service reason).follows custody
  next spec read =>
    dsimp only
    have probed := fun asked => guards_recordProbes tools service asked
    split
    next reason _ => exact ((probed _).trans (guards_reject _ reason)).follows custody
    next => exact (probed _).follows custody
    next timeline resolved =>
      have letters := (Wire.RenderRequest.isExtension_of_specOf read).letters
      exact (probed _).trans_follows custody (follows_submit ((probed _).custody custody) letters
        (holds_of_resolveAloud apart resolved))

/-- Whatever a request asks for, what unsettled jobs read is left alone. -/
theorem follows_respond (apart : service.store.Apart) (custody : service.Custody) (tools : Tools)
    (request : Request) (endpoint : Endpoint) :
    Follows service (service.respond tools request endpoint).1 := by
  have unchanged := (Guards.refl service).follows custody
  cases endpoint with
  | health | listing | output | status | download => exact unchanged
  | events => exact (guards_subscribe service).follows custody
  | upload =>
      unfold respond
      dsimp only
      split
      next file _ => exact (guards_upload custody file).follows custody
      next => exact unchanged
      next => exact unchanged
  | deletion area =>
      unfold respond
      dsimp only
      split
      next filename _ => exact (guards_deleteFile custody area filename).follows custody
      next => exact unchanged
  | render =>
      unfold respond
      dsimp only
      split
      next members _ => exact follows_render apart custody tools (.object members)
      next => exact unchanged
  | cancellation id => exact (guards_cancel service id).follows custody

theorem follows_answer (apart : service.store.Apart) (custody : service.Custody) (tools : Tools)
    (request : Request) : Follows service (service.answer tools request).1 := by
  have unchanged := (Guards.refl service).follows custody
  unfold answer
  split
  · exact unchanged
  · split
    · exact unchanged
    · exact unchanged
    next endpoint _ => exact follows_respond apart custody tools request endpoint

theorem guards_identify (service : Service) (request : Request) :
    Guards service (service.identify request).1 := by
  unfold identify
  split
  · exact .of_eq rfl rfl (fun _ member => member) rfl rfl
  · exact Guards.refl service

theorem follows_reply (apart : service.store.Apart) (custody : service.Custody) (tools : Tools)
    (request : Request) : Follows service (service.reply tools request).1 := by
  have identified := guards_identify service request
  have answered := follows_answer (identified.store ▸ apart) (identified.custody custody) tools
    request
  have same : (service.reply tools request).1 =
      ((service.identify request).1.answer tools request).1 := by
    unfold reply
    dsimp only
    split <;> simp_all
  rw [same]
  exact identified.trans_follows custody answered

end Requests

end Montage.Server.Service
