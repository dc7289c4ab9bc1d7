import Montage.Proofs.Server.Safekeeping

/-!
# Acceptance of render requests

A render request is all or nothing.  Unless it is answered with success, the jobs, the renders that
wait, the events and the files are as they were; otherwise there is one more job, which reads the
files that the request names, and one more render, which waits behind all others.
-/

namespace Montage

theorem forall₂_comp {α β γ : Type} {first : α → β → Prop} {second : β → γ → Prop} {starts : List α}
    {middles : List β} {ends : List γ} (begins : List.Forall₂ first starts middles)
    (goes : List.Forall₂ second middles ends) :
    List.Forall₂ (fun start finish => ∃ middle, first start middle ∧ second middle finish) starts
      ends := by
  induction begins generalizing ends with
  | nil =>
      cases goes
      exact .nil
  | cons head _ ih =>
      cases goes with
      | cons head' rest => exact .cons ⟨_, head, head'⟩ (ih rest)

namespace Wire.RenderRequest

def mediaKinds : List String := ["video", "image", "audio"]

def isMedia : Json → Bool
  | .object members =>
      match Json.member? members "type" with
      | some (.text kind) => mediaKinds.contains kind
      | _ => false
  | _ => false

def NamesFile (entry : Json) (filename : String) : Prop :=
  ∃ members document, entry = .object members ∧
    Json.member? members "filename" = some document ∧ Reader.text document = .valid filename

variable {members : Members} {item : TimelineItem} {entry : Json} {entries : List Json}
  {items : List TimelineItem}

theorem filename?_of_readers :
    ∀ kind ∈ entryReaders, ∀ members item, kind.2 members = .valid item →
      (mediaKinds.contains kind.1 = true ∧ ∃ filename, item.filename? = some filename ∧
        members.required "filename" Reader.nonemptyText = .valid filename) ∨
      (mediaKinds.contains kind.1 = false ∧ item.filename? = none) := by
  simp only [entryReaders, List.forall_mem_cons, List.not_mem_nil, false_imp_iff, implies_true,
    and_true]
  refine ⟨fun members item read => .inl ⟨by decide, ?_⟩, fun members item read =>
    .inl ⟨by decide, ?_⟩, fun members item read => .inl ⟨by decide, ?_⟩,
    fun members item read => .inr ⟨by decide, ?_⟩⟩
  · simp only [videoReader, Checked.apply_eq_valid_iff, Checked.map_eq_valid_iff] at read
    obtain ⟨_, _, ⟨_, _, ⟨_, _, ⟨filename, named, rfl⟩, -, rfl⟩, -, rfl⟩, -, rfl⟩ := read
    exact ⟨filename, rfl, named⟩
  · simp only [imageReader, Checked.apply_eq_valid_iff, Checked.map_eq_valid_iff] at read
    obtain ⟨_, _, ⟨_, _, ⟨filename, named, rfl⟩, -, rfl⟩, -, rfl⟩ := read
    exact ⟨filename, rfl, named⟩
  · simp only [audioReader, Checked.apply_eq_valid_iff, Checked.map_eq_valid_iff] at read
    obtain ⟨_, _, ⟨_, _, ⟨_, _, ⟨_, _, ⟨filename, named, rfl⟩, -, rfl⟩, -, rfl⟩, -, rfl⟩, -, rfl⟩ :=
      read
    exact ⟨filename, rfl, named⟩
  · simp only [textReader, Checked.apply_eq_valid_iff, Checked.map_eq_valid_iff] at read
    obtain ⟨_, _, ⟨_, _, ⟨_, _, ⟨_, _, ⟨_, _, ⟨_, -, rfl⟩, -, rfl⟩, -, rfl⟩, -, rfl⟩, -, rfl⟩, -,
      rfl⟩ := read
    rfl

/-- An item has a file exactly when its entry is of a kind that comes with one. -/
theorem filename?_of_entryReader (read : entryReader entry = .valid item) :
    (isMedia entry = true ∧ ∃ filename, item.filename? = some filename ∧
      NamesFile entry filename) ∨ (isMedia entry = false ∧ item.filename? = none) := by
  obtain ⟨members, name, reader, rfl, tagged, known, read⟩ := exists_reader_of_entryReader read
  have kind : isMedia (.object members) = mediaKinds.contains name := by simp [isMedia, tagged]
  rw [kind]
  refine (filename?_of_readers _ known members item read).imp (And.imp_right ?_) id
  rintro ⟨filename, named, given⟩
  obtain ⟨document, found, read⟩ := of_required given
  exact ⟨filename, named, members, document, rfl, found, of_nonemptyText read⟩

theorem namesFile_of_entryReader
    (each : List.Forall₂ (fun entry item => entryReader entry = .valid item) entries items) :
    List.Forall₂ NamesFile (entries.filter isMedia) (items.filterMap (·.filename?)) := by
  induction each with
  | nil => exact .nil
  | cons read _ ih =>
      rcases filename?_of_entryReader read with ⟨media, filename, named, given⟩ | ⟨other, none⟩
      · rw [List.filter_cons_of_pos media, List.filterMap_cons_some named]
        exact .cons given ih
      · rw [List.filter_cons_of_neg (Bool.eq_false_iff.mp other), List.filterMap_cons_none none]
        exact ih

end Wire.RenderRequest

namespace Server.Service

open Jobs Wire.RenderRequest

/-- A server of which nothing has changed but the account of its processes and the number of
identifiers that were made up for requests. -/
def Untouched (service after : Service) : Prop :=
  ∃ processes invented,
    after = { service with premises := { service.premises with processes }, invented }

/-- A server after a request was accepted, with the new job and the new render.  No other job has
changed, except that settled ones may be dropped. -/
structure Accepts (members : Wire.Members) (service after : Service) (job : Job)
    (entry : Entry) : Prop where
  accepted : job = Job.accepted job.id service.registry.clock job.inputs
  fresh : ∀ other ∈ service.registry.all, other.id ≠ job.id
  jobs : ∃ kept, after.registry.jobs = kept ++ [job] ∧ kept.Sublist service.registry.jobs ∧
    ∀ other ∈ service.registry.jobs, other ∉ kept → other.settled = true
  inputs : ∃ entries, Json.member? members "timeline" = some (.array entries) ∧
    List.Forall₂ (fun named path => ∃ filename, NamesFile named filename ∧
      service.assets filename = .ok path) (entries.filter isMedia) job.inputs
  entries : after.queue.entries = service.queue.entries ++ [entry]
  waits : entry.job = job.id
  events : after.registry.feed = service.registry.feed.publish (.created job.id)
  registry : ∃ jobs retired accepted feed,
    after.registry = { service.registry with jobs, retired, accepted, feed }
  rest : ∃ registry entries processes invented, after = { service with
    queue := { service.queue with registry, entries }
    premises := { service.premises with processes }
    invented }

/-- What a render request comes to. -/
inductive AllOrNothing (members : Wire.Members) (service : Service) :
    Service × Response → Prop where
  | nothing {after : Service} {response : Response} (refused : response.status ≠ 200)
      (untouched : service.Untouched after) : AllOrNothing members service (after, response)
  | all {after : Service} {response : Response} {job : Job} {entry : Entry}
      (granted : response.status = 200) (accepts : service.Accepts members after job entry) :
      AllOrNothing members service (after, response)

/-- A request to render what a document describes. -/
structure AsksRender (request : Request) (members : Wire.Members) : Prop where
  own : request.announcedMethod? = none
  routed : Endpoint.route request.method request.path = .found .render
  body : request.document? = some (.object members)

/-- The answer to a render request when files are probed in any way, and the processes that this
takes are accounted for in any way. -/
def renderProbing (prober : Prober)
    (account : List Path → Media.ProcessTable → Media.ProcessTable) (service : Service)
    (body : Json) : Service × Response :=
  match Wire.RenderRequest.specOf body with
  | .error (.invalid issues) => (service, .refusal 400 (Wire.Issue.listing issues))
  | .error (.rejected reason) => service.reject reason
  | .ok spec =>
      let (cache, _, result) := Render.resolveAloud .normal service.queue.config
        service.assets prober spec
      let processes := account cache.asked service.premises.processes
      let service := { service with premises := { service.premises with processes } }
      match result with
      | .error (.rejected reason) => service.reject reason
      | .error (.fault _) => (service, .broken)
      | .ok timeline =>
          let (queue, id) := service.queue.submit spec timeline
          ({ service with queue }, .success [
            ("jobId", .text id),
            ("status", .text Jobs.State.processing.name)])

theorem render_eq_renderProbing (tools : Tools) (service : Service) (body : Json) :
    ∃ prober account, service.render tools body = service.renderProbing prober account body :=
  ⟨fun path => ProbeTool.interpret path (.integer service.queue.config.probe.timeout)
      (tools.probe path),
    fun paths processes => (({ service with premises := { service.premises with processes } } :
      Service).recordProbes tools paths).premises.processes, rfl⟩

variable {members : Wire.Members} {service after : Service} {answer : Service × Response}

theorem Untouched.refl (service : Service) : service.Untouched service :=
  ⟨service.premises.processes, service.invented, rfl⟩

theorem Untouched.reject (untouched : service.Untouched after) (reason : Rejection) :
    AllOrNothing members service (after.reject reason) := by
  unfold Service.reject
  split <;> exact .nothing (by simp [Response.refusal, Response.status]) untouched

/-- The files of a timeline are those that the document of its composition names. -/
theorem inputs_of_resolveAloud {verbosity : Console.Verbosity} {config : Config}
    {spec : RenderSpec} {timeline : ResolvedTimeline}
    (read : Wire.RenderRequest.specOf (.object members) = .ok spec)
    (resolved : (Render.resolveAloud verbosity config service.assets prober spec).2.2 =
      .ok timeline) :
    ∃ entries, Json.member? members "timeline" = some (.array entries) ∧
      List.Forall₂ (fun named path => ∃ filename, NamesFile named filename ∧
        service.assets filename = .ok path) (entries.filter isMedia)
        (timeline.items.filterMap (·.path)) := by
  obtain ⟨known, entries, same, given, each⟩ := timeline_of_specOf read
  obtain rfl := Json.object.inj same
  refine ⟨entries, given, ?_⟩
  rw [Render.resolveAloud_eq] at resolved
  split at resolved
  · simp at resolved
  · split at resolved
    · simp at resolved
    · exact forall₂_comp (namesFile_of_entryReader each) (Resolution.paths_of_resolve resolved)

theorem renderProbing_allOrNothing (prober : Prober)
    (account : List Path → Media.ProcessTable → Media.ProcessTable)
    (sound : service.registry.Sound) :
    AllOrNothing members service (service.renderProbing prober account (.object members)) := by
  unfold renderProbing
  split
  next => exact .nothing (by simp [Response.refusal, Response.status]) (Untouched.refl service)
  next reason _ => exact (Untouched.refl service).reject reason
  next spec read =>
    dsimp only
    split
    next reason _ => exact Untouched.reject ⟨_, service.invented, rfl⟩ reason
    next => exact .nothing (by decide) ⟨_, service.invented, rfl⟩
    next timeline resolved =>
      have inputs := inputs_of_resolveAloud read resolved
      exact .all rfl {
        accepted := rfl
        fresh := sound.fresh
        jobs := Registry.jobs_create sound _
        inputs := inputs
        entries := rfl
        waits := rfl
        events := rfl
        registry := ⟨_, _, _, _, rfl⟩
        rest := ⟨_, _, _, service.invented, rfl⟩ }

theorem AllOrNothing.of_invented {invented : Nat}
    (outcome : AllOrNothing members { service with invented } answer) :
    AllOrNothing members service answer := by
  cases outcome with
  | nothing refused untouched =>
      obtain ⟨processes, invented, rfl⟩ := untouched
      exact .nothing refused ⟨processes, invented, rfl⟩
  | all granted accepts =>
      obtain ⟨accepted, fresh, jobs, inputs, entries, waits, events, registry, rest⟩ := accepts
      exact .all granted ⟨accepted, fresh, jobs, inputs, entries, waits, events, registry, rest⟩

theorem AllOrNothing.of_status {response : Response}
    (outcome : AllOrNothing members service answer) (same : response.status = answer.2.status) :
    AllOrNothing members service (answer.1, response) := by
  cases outcome with
  | nothing refused untouched => exact .nothing (same ▸ refused) untouched
  | all granted accepts => exact .all (same.trans granted) accepts

theorem identify_eq (service : Service) (request : Request) :
    ∃ invented, (service.identify request).1 = { service with invented } := by
  unfold identify
  split
  · exact ⟨_, rfl⟩
  · exact ⟨service.invented, rfl⟩

theorem reply_eq (tools : Tools) (service : Service) (request : Request) :
    (service.reply tools request).1 =
        ((service.identify request).1.answer tools request).1 ∧
      (service.reply tools request).2.response.status =
        ((service.identify request).1.answer tools request).2.status := by
  unfold reply
  dsimp only
  split
  next answered => simp [answered]
  next response _ answered =>
    rw [answered]
    refine ⟨rfl, ?_⟩
    cases response with
    | document status body =>
        simp only [Response.forMethod]
        split <;> rfl
    | _ => rfl

/-- A render request is all or nothing, however its files are probed.  Unless the answer is
success, nothing has changed for jobs, renders, events and files; otherwise there is one more job
with the files of the media entries as its inputs, and one more render at the end of the queue. -/
theorem render_all_or_nothing (sound : service.registry.Sound) (members : Wire.Members) :
    (∀ prober account,
      AllOrNothing members service (service.renderProbing prober account (.object members))) ∧
    ∀ tools request, AsksRender request members →
      AllOrNothing members service
        ((service.reply tools request).1, (service.reply tools request).2.response) := by
  refine ⟨fun prober account => renderProbing_allOrNothing prober account sound,
    fun tools request asks => ?_⟩
  obtain ⟨invented, identified⟩ := service.identify_eq request
  obtain ⟨state, status⟩ := service.reply_eq tools request
  have routed : ({ service with invented } : Service).answer tools request =
      ({ service with invented } : Service).render tools (.object members) := by
    simp only [answer, asks.own, asks.routed, respond, asks.body]
  obtain ⟨prober, account, probing⟩ :=
    render_eq_renderProbing tools { service with invented } (.object members)
  -- Before the request is answered an identifier may be invented, of which a render reads nothing.
  rw [identified, routed, probing] at state status
  rw [state]
  have outcome : AllOrNothing members { service with invented } _ :=
    renderProbing_allOrNothing prober account sound
  exact outcome.of_invented.of_status status

def emptyRequest : Request :=
  { stillRequest with body := some (.object [("timeline", .array [])]) }

/-- A still that was uploaded is rendered, and a timeline without items changes nothing. -/
theorem stillRequest_accepted :
    (stillHistory 1).registry.Sound ∧
    (∃ members job entry, AsksRender stillRequest members ∧
      (stillHistory 1).Accepts members (stillHistory 2) job entry) ∧
    (stillHistory 1).Untouched ((stillHistory 1).reply noTools emptyRequest).1 := by
  have apart : newService.store.Apart :=
    ⟨fun area => by cases area <;> decide, by decide, by decide⟩
  have sound : (stillHistory 1).registry.Sound :=
    (follows_reply apart (custody_start start_newService).1 noTools stillUpload).custody.sound
  have asks : AsksRender stillRequest [("timeline", .array [
      .object [("type", .text "image"), ("filename", .text "still.png")]])] :=
    ⟨by decide, by decide, by rfl⟩
  have asks' : AsksRender emptyRequest [("timeline", .array [])] := ⟨by decide, by decide, by rfl⟩
  refine ⟨sound, ?_, ?_⟩
  · have granted : ((stillHistory 1).reply noTools stillRequest).2.response.status = 200 := by
      decide +kernel
    cases (render_all_or_nothing sound _).2 noTools stillRequest asks with
    | nothing refused _ => exact absurd granted refused
    | all _ accepts => exact ⟨_, _, _, asks, accepts⟩
  · have refused : ((stillHistory 1).reply noTools emptyRequest).2.response.status = 400 := by
      decide
    cases (render_all_or_nothing sound _).2 noTools emptyRequest asks' with
    | nothing _ untouched => exact untouched
    | all granted _ => simp [refused] at granted

end Server.Service

end Montage
