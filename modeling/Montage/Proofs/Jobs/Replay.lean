import Montage.Proofs.Jobs.Retention
import Montage.Proofs.Jobs.Underway

/-!
# Events as a log

The events of a job tell where it stands.  Every operation on the registry tells exactly the
events that move the jobs from where they stood to where they stand then, and it tells of each
job only what may come next in its life.
-/

namespace Montage.Jobs

/-- Where a job stands, as far as it is told by events. -/
structure Standing where
  state : State
  progress : Int
  failure : Option Failure
  settled : Bool
  deriving DecidableEq

def Job.standing (job : Job) : Standing :=
  ⟨job.state, job.progress, job.failure, job.settled⟩

namespace Event

def isLast : Event → Bool
  | .created _ => false
  | .progress _ _ _ => false
  | .finished _ _ => true
  | .failed _ _ => true

def tell (standing : Option Standing) : Event → Option Standing
  | .created _ => some ⟨.processing, 0, none, false⟩
  | .progress _ state percent => standing.map fun told => { told with state, progress := percent }
  | .finished _ _ => standing.map fun told => { told with state := .finished, settled := true }
  | .failed _ failure => standing.map fun told =>
      { told with state := .failed, failure := some failure, settled := true }

/-- Whether an event may come next in the life of a job that stands somewhere, or is unknown. -/
def Fits : Option Standing → Event → Prop
  | none, .created _ => True
  | some told, .progress _ _ percent => told.settled = false ∧ told.progress < percent
  | some told, .finished _ _ => told.settled = false
  | some told, .failed _ _ => told.settled = false
  | _, _ => False

end Event

/-- Where a job stands after events, from where it stood before. -/
def replayFrom (standing : Option Standing) (events : List Event) : Option Standing :=
  events.foldl Event.tell standing

def replay (events : List Event) : Option Standing := replayFrom none events

/-- Whether events may come one after the other in the life of a job. -/
def Fitting : Option Standing → List Event → Prop
  | _, [] => True
  | standing, event :: events => event.Fits standing ∧ Fitting (event.tell standing) events

def about (id : String) (events : List Event) : List Event :=
  events.filter (·.job = id)

/-- The whole life of a job in events: it is created, reports growing percentages, and ends at
most once. -/
def IsLife (id : String) (events : List Event) : Prop :=
  ∃ (reports : List (State × Int)) (ending : Option Event),
    events = .created id :: (reports.map fun report => .progress id report.1 report.2) ++
      ending.toList ∧
    (reports.map (·.2)).Pairwise (· < ·) ∧ ∀ last ∈ ending, last.isLast = true

section Lives

variable {id : String} {standing : Option Standing} {events first second : List Event}

theorem replayFrom_append :
    replayFrom standing (first ++ second) = replayFrom (replayFrom standing first) second := by
  simp [replayFrom]

theorem fitting_append (fits : Fitting standing first)
    (fits' : Fitting (replayFrom standing first) second) : Fitting standing (first ++ second) := by
  induction first generalizing standing with
  | nil => exact fits'
  | cons event first ih => exact ⟨fits.1, ih fits.2 fits'⟩

theorem about_append : about id (first ++ second) = about id first ++ about id second := by
  simp [about]

theorem eq_nil_of_settled {told : Standing} (settled : told.settled = true)
    (fits : Fitting (some told) events) : events = [] := by
  cases events with
  | nil => rfl
  | cons event events =>
      have next := fits.1
      cases event <;> simp [Event.Fits, settled] at next

/-- The events that fit behind those of a known job are growing percentages and an end. -/
theorem exists_reports {told : Standing} (named : ∀ event ∈ events, event.job = id)
    (fits : Fitting (some told) events) :
    ∃ (reports : List (State × Int)) (ending : Option Event),
      events = (reports.map fun report => .progress id report.1 report.2) ++ ending.toList ∧
      ((reports.map (·.2)).Pairwise (· < ·) ∧ ∀ percent ∈ reports.map (·.2),
        told.progress < percent) ∧ ∀ last ∈ ending, last.isLast = true := by
  induction events generalizing told with
  | nil => exact ⟨[], none, rfl, ⟨List.Pairwise.nil, by simp⟩, by simp⟩
  | cons event events ih =>
      rw [List.forall_mem_cons] at named
      obtain ⟨next, rest⟩ := fits
      cases event with
      | created job => simp [Event.Fits] at next
      | progress job state percent =>
          obtain rfl : job = id := named.1
          obtain ⟨reports, ending, shape, ⟨increasing, above⟩, last⟩ := ih named.2 rest
          refine ⟨(state, percent) :: reports, ending, ?_, ⟨?_, ?_⟩, last⟩
          · rw [shape]
            rfl
          · exact List.pairwise_cons.mpr ⟨above, increasing⟩
          · rw [List.map_cons, List.forall_mem_cons]
            exact ⟨next.2, fun other member => next.2.trans (above other member)⟩
      | finished job output =>
          refine ⟨[], some (.finished job output), ?_, ⟨List.Pairwise.nil, by simp⟩, by
            simp [Event.isLast]⟩
          rw [eq_nil_of_settled rfl rest]
          rfl
      | failed job failure =>
          refine ⟨[], some (.failed job failure), ?_, ⟨List.Pairwise.nil, by simp⟩, by
            simp [Event.isLast]⟩
          rw [eq_nil_of_settled rfl rest]
          rfl

/-- The events that fit for an unknown job make up its life, unless there are none. -/
theorem isLife_of_fitting (named : ∀ event ∈ events, event.job = id) (filled : events ≠ [])
    (fits : Fitting none events) : IsLife id events := by
  cases events with
  | nil => exact absurd rfl filled
  | cons event events =>
      rw [List.forall_mem_cons] at named
      obtain ⟨next, rest⟩ := fits
      cases event with
      | created job =>
          obtain rfl : job = id := named.1
          obtain ⟨reports, ending, shape, ⟨increasing, -⟩, last⟩ := exists_reports named.2 rest
          exact ⟨reports, ending, by rw [shape]; rfl, increasing, last⟩
      | progress | finished | failed => simp [Event.Fits] at next

end Lives

namespace Registry

variable {registry after last : Registry} {id other : String} {job : Job}

def standing? (registry : Registry) (id : String) : Option Standing :=
  (registry.findAny? id).map Job.standing

section Lookup

theorem standing?_eq_none (absent : ∀ job ∈ registry.all, job.id ≠ id) :
    registry.standing? id = none := by
  have missing : registry.findAny? id = none :=
    List.find?_eq_none.mpr fun job member => by simpa using absent job member
  rw [standing?, missing, Option.map_none]

theorem Sound.standing?_eq (sound : registry.Sound) (member : job ∈ registry.all) :
    registry.standing? job.id = some job.standing := by
  rw [standing?, sound.findAny?_eq_some_iff.mpr ⟨member, rfl⟩, Option.map_some]

/-- Where jobs stand does not depend on where they are kept. -/
theorem standing?_congr (sound : registry.Sound) (sound' : after.Sound)
    (same : ∀ job, job.id = id → (job ∈ after.all ↔ job ∈ registry.all)) :
    after.standing? id = registry.standing? id := by
  have found : after.findAny? id = registry.findAny? id := by
    ext job
    rw [sound.findAny?_eq_some_iff, sound'.findAny?_eq_some_iff]
    constructor
    · exact fun ⟨member, named⟩ => ⟨(same job named).mp member, named⟩
    · exact fun ⟨member, named⟩ => ⟨(same job named).mpr member, named⟩
  rw [standing?, standing?, found]

theorem find?_changeIn_of_ne {change : Job → Job} (jobs : List Job) (apart : other ≠ id)
    (sameId : ∀ job, job.id = id → (change job).id = id) :
    (changeIn id change jobs).find? (·.id == other) = jobs.find? (·.id == other) := by
  rw [find?_changeIn jobs other sameId]
  cases found : jobs.find? (·.id == other) with
  | none => rfl
  | some job =>
      have named : job.id = other := by simpa using List.find?_some found
      rw [Option.map_some, if_neg (named ▸ apart)]

theorem map_standing_changeIn {change : Job → Job} (jobs : List Job)
    (quiet : ∀ job, (change job).id = job.id ∧ (change job).standing = job.standing) :
    ((changeIn id change jobs).find? (·.id == other)).map Job.standing =
      (jobs.find? (·.id == other)).map Job.standing := by
  rw [find?_changeIn jobs other fun job named => (quiet job).1.trans named, Option.map_map]
  congr 1
  funext job
  rw [Function.comp_apply]
  split
  next => exact (quiet job).2
  next => rfl

end Lookup

/-- The registry after an operation that told some events: the events were published, they lead
from where each job stood to where it stands then, and they fit into its life. -/
structure Follows (registry after : Registry) (told : List Event) : Prop where
  feed : after.feed = told.foldl Feed.publish registry.feed
  standing : ∀ id, after.standing? id = replayFrom (registry.standing? id) (about id told)
  fits : ∀ id, Fitting (registry.standing? id) (about id told)

def Tells (registry after : Registry) : Prop :=
  registry.Sound → ∃ told, registry.Follows after told

section Telling

theorem Follows.trans {first second : List Event} (told : registry.Follows after first)
    (told' : after.Follows last second) : registry.Follows last (first ++ second) where
  feed := by rw [told'.feed, told.feed, List.foldl_append]
  standing id := by
    rw [told'.standing, told.standing, about_append, replayFrom_append]
  fits id := by
    rw [about_append]
    exact fitting_append (told.fits id) (told.standing id ▸ told'.fits id)

theorem Tells.trans (first : registry.Tells after) (moved : registry.Evolves after)
    (second : after.Tells last) : registry.Tells last := by
  intro sound
  obtain ⟨told, follows⟩ := first sound
  obtain ⟨told', follows'⟩ := second (moved sound).1
  exact ⟨told ++ told', follows.trans follows'⟩

theorem tells_of_quiet (feed : after.feed = registry.feed)
    (standing : registry.Sound → ∀ id, after.standing? id = registry.standing? id) :
    registry.Tells after := fun sound => ⟨[], feed, standing sound, fun _ => trivial⟩

theorem tells_of_jobs (feed : after.feed = registry.feed) (jobs : after.jobs = registry.jobs)
    (retired : after.retired = registry.retired) : registry.Tells after :=
  tells_of_quiet feed fun _ id => by
    rw [standing?, standing?, findAny?, findAny?, jobs, retired]

theorem Tells.refl (registry : Registry) : registry.Tells registry :=
  tells_of_jobs rfl rfl rfl

theorem tells_change {change : Job → Job}
    (quiet : ∀ job, (change job).id = job.id ∧ (change job).standing = job.standing) :
    registry.Tells (registry.change id change) := by
  refine tells_of_quiet rfl fun _ other => ?_
  rw [standing?, standing?, findAny?, findAny?, List.find?_append, List.find?_append,
    Option.map_or, Option.map_or]
  exact congrArg (Option.or · _) (map_standing_changeIn registry.jobs quiet)

theorem standing?_changeAny {change : Job → Job}
    (quiet : ∀ job, (change job).id = job.id ∧ (change job).standing = job.standing) :
    (registry.changeAny id change).standing? other = registry.standing? other := by
  have all : (registry.changeAny id change).jobs ++ (registry.changeAny id change).retired =
      changeIn id change (registry.jobs ++ registry.retired) := by
    simp [changeAny, changeIn]
  rw [standing?, standing?, findAny?, findAny?, all]
  exact map_standing_changeIn _ quiet

theorem follows_change_publish {change : Job → Job} {event : Event}
    (found : registry.find? id = some job) (about : event.job = id)
    (sameId : ∀ job, job.id = id → (change job).id = id)
    (leads : event.tell (some job.standing) = some (change job).standing)
    (fits : event.Fits (some job.standing)) :
    registry.Follows ((registry.change id change).publish event) [event] := by
  have before : registry.standing? id = some job.standing := by
    rw [standing?, findAny?_of_find? found, Option.map_some]
  have behind : ((registry.change id change).publish event).standing? id =
      some (change job).standing := by
    have changed : ((registry.change id change).publish event).find? id = some (change job) :=
      (find?_change change found sameId).1
    rw [standing?, findAny?_of_find? changed, Option.map_some]
  refine ⟨rfl, fun other => ?_, fun other => ?_⟩
  -- The job itself moves as the event tells, and the event is not about any other.
  · by_cases same : other = id
    · rw [same, behind, before]
      simp [Jobs.about, about, replayFrom, leads]
    · have elsewhere : ((registry.change id change).publish event).standing? other =
          registry.standing? other := by
        rw [standing?, standing?, findAny?, findAny?, List.find?_append, List.find?_append]
        exact congrArg (fun found => (Option.or found _).map Job.standing)
          (find?_changeIn_of_ne registry.jobs same sameId)
      have unsaid : event.job ≠ other := by
        rw [about]
        exact fun equal => same equal.symm
      simp [Jobs.about, unsaid, replayFrom, elsewhere]
  · by_cases same : event.job = other
    · rw [← same, about, before]
      simp [Jobs.about, about, Fitting, fits]
    · simp [Jobs.about, same, Fitting]

end Telling

section Operations

theorem tells_updateProgress (registry : Registry) (id : String) {percent : Int}
    (bounded : percent ≤ 100) : registry.Tells (registry.updateProgress id percent) := by
  rcases updateProgress_cases registry id percent with ⟨job, found, counts, moved⟩ | ⟨-, same⟩
  · rw [moved]
    have exactly : min 100 percent = percent := by omega
    refine fun _ => ⟨_, follows_change_publish found rfl (fun _ _ => (find?_some found).2) ?_ ?_⟩
    · simp [Event.tell, Job.standing, Job.advance, exactly]
    · exact counts
  · rw [same]
    exact Tells.refl registry

theorem tells_finish (registry : Registry) (id : String) (output : Path) :
    registry.Tells (registry.finish id output) := by
  rcases finish_cases registry id output with ⟨job, found, unsettled, ended⟩ | ⟨-, same⟩
  · rw [ended]
    exact fun _ => ⟨_, follows_change_publish found rfl (fun _ named => named) rfl unsettled⟩
  · rw [same]
    exact Tells.refl registry

theorem tells_fail (registry : Registry) (id : String) (failure : Failure) :
    registry.Tells (registry.fail id failure) := by
  rcases fail_cases registry id failure with ⟨job, found, unsettled, ended⟩ | ⟨-, same⟩
  · rw [ended]
    exact fun _ => ⟨_, follows_change_publish found rfl (fun _ named => named) rfl unsettled⟩
  · rw [same]
    exact Tells.refl registry

theorem tells_requestCancel (registry : Registry) (id : String) :
    registry.Tells (registry.requestCancel id) :=
  tells_of_quiet rfl fun _ _ => standing?_changeAny fun _ => ⟨rfl, rfl⟩

theorem tells_cancel (cancelled : registry.cancel id = .ok after) : registry.Tells after := by
  have requested := tells_requestCancel registry id
  obtain ⟨job, -, ⟨-, rfl⟩ | ⟨-, rfl⟩⟩ := cancel_cases cancelled
  · exact requested
  · exact requested.trans (evolves_requestCancel registry id) (tells_fail _ id .cancelled)

theorem tells_cancelEach (registry : Registry) (jobs : List Job) :
    registry.Tells (registry.cancelEach jobs) := by
  have both : registry.Evolves (registry.cancelEach jobs) ∧
      registry.Tells (registry.cancelEach jobs) :=
    cancelEach_induction (motive := fun after => registry.Evolves after ∧ registry.Tells after)
      (fun cancelled ⟨evolves, tells⟩ =>
        ⟨evolves.trans (evolves_cancel cancelled), tells.trans evolves (tells_cancel cancelled)⟩)
      jobs ⟨Evolves.refl registry, Tells.refl registry⟩
  exact both.2

theorem tells_enter (registry : Registry) (id : String) :
    registry.Tells (registry.enter id).1 := by
  have admitted : ∀ other,
      (registry.changeAny id fun job => { job with admitted := true }).standing? other =
        registry.standing? other := fun _ => standing?_changeAny fun _ => ⟨rfl, rfl⟩
  rcases enter_cases registry id with ⟨-, full⟩ | ⟨-, _, rfl, ⟨-, away⟩ | ⟨-, entered⟩⟩
  · rw [full]
    exact Tells.refl registry
  · rw [away]
    exact tells_of_quiet rfl fun _ => admitted
  · rw [entered]
    exact tells_of_quiet rfl fun _ => admitted

theorem tells_clear (registry : Registry) : registry.Tells registry.clear := by
  refine tells_of_quiet rfl fun sound id => ?_
  refine standing?_congr sound (evolves_clear registry sound).1 fun job _ => ?_
  simp [all, clear, or_comm]

/-- Of a new job it is told that it is created, and of those that are retired nothing. -/
theorem tells_create (registry : Registry) (inputs : List Path) :
    registry.Tells (registry.create inputs).1 := by
  intro sound
  let id := identifier (registry.accepted + 1)
  have sound' : (registry.create inputs).1.Sound := (evolves_create registry inputs sound).1
  refine ⟨[.created id], rfl, fun other => ?_, fun other => ?_⟩
  · by_cases new : other = id
    · have found := sound'.standing?_eq ((mem_all_create sound inputs).mpr (.inl rfl))
      rw [new, standing?_eq_none sound.fresh]
      exact found.trans (by simp [about, Event.job, replayFrom, Event.tell]; rfl)
    · have unsaid : id ≠ other := Ne.symm new
      have known : (registry.create inputs).1.standing? other = registry.standing? other := by
        refine standing?_congr sound sound' fun job named => ?_
        rw [mem_all_create sound inputs]
        refine or_iff_right fun equal => new ?_
        rw [← named, equal]
        rfl
      simpa [about, Event.job, unsaid, replayFrom] using known
  · by_cases new : id = other
    · rw [← new, standing?_eq_none sound.fresh]
      simp [about, Event.job, Fitting, Event.Fits]
    · simp [about, Event.job, new, Fitting]

end Operations

end Registry

end Montage.Jobs
