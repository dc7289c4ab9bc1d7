import Montage.Proofs.Jobs.Replay

/-!
# Subscriptions

A subscriber whose queue never fills receives everything that is told after it subscribed.  What
it receives about a job that was created since then is the whole life of that job so far, and tells
where the job stands.
-/

namespace Montage.Jobs

namespace Feed

/-- A feed that is open and holds some events for a subscriber. -/
structure Serves (feed : Feed) (number : Nat) (pending : List Event) : Prop where
  opened : feed.closed = false
  found : ∃ subscriber, feed.subscribers.find? (·.number == number) = some subscriber ∧
    subscriber.pending = pending

def Numbered (feed : Feed) : Prop :=
  ∀ subscriber ∈ feed.subscribers, subscriber.number ≤ feed.admitted

variable {feed : Feed} {number other count : Nat} {pending told : List Event} {event : Event}

theorem Serves.pending_eq (serves : feed.Serves number pending) :
    feed.pending number = pending := by
  obtain ⟨subscriber, found, holds⟩ := serves.found
  simp only [Feed.pending, found, holds]

theorem find?_map_number {change : Subscriber → Subscriber} (subscribers : List Subscriber)
    (sameNumber : ∀ subscriber, (change subscriber).number = subscriber.number) :
    (subscribers.map change).find? (·.number == number) =
      (subscribers.find? (·.number == number)).map change := by
  have same : (fun subscriber : Subscriber => subscriber.number == number) ∘ change =
      fun subscriber => subscriber.number == number := by
    funext subscriber
    simp [sameNumber]
  rw [List.find?_map, same]

theorem number_offer (subscriber : Subscriber) (event : Event) :
    (subscriber.offer event).number = subscriber.number := by
  unfold Subscriber.offer
  split <;> rfl

theorem Serves.map (serves : feed.Serves number pending) {change : Subscriber → Subscriber}
    (sameNumber : ∀ subscriber, (change subscriber).number = subscriber.number)
    {changed : List Event}
    (becomes : ∀ subscriber, subscriber.number = number → subscriber.pending = pending →
      (change subscriber).pending = changed) :
    ({ feed with subscribers := feed.subscribers.map change } : Feed).Serves number changed := by
  obtain ⟨subscriber, found, holds⟩ := serves.found
  have named : subscriber.number = number := by simpa using List.find?_some found
  refine ⟨serves.opened, change subscriber, ?_, becomes subscriber named holds⟩
  rw [find?_map_number _ sameNumber, found, Option.map_some]

theorem Serves.publish (serves : feed.Serves number pending) (event : Event) :
    (feed.publish event).Serves number
      (if pending.length < Subscriber.capacity then pending ++ [event] else pending) := by
  have opened : ¬ feed.closed = true := by simp [serves.opened]
  rw [Feed.publish, if_neg opened]
  refine serves.map (number_offer · event) fun subscriber _ holds => ?_
  rw [← holds]
  unfold Subscriber.offer
  split <;> rfl

theorem Serves.publish_full (serves : feed.Serves number pending)
    (full : Subscriber.capacity ≤ pending.length) (told : List Event) :
    (told.foldl Feed.publish feed).Serves number pending := by
  induction told generalizing feed with
  | nil => exact serves
  | cons event told ih =>
      have next := serves.publish event
      rw [if_neg (by omega)] at next
      exact ih next

/-- A queue that is not full in the end has lost nothing. -/
theorem Serves.publish_all (serves : feed.Serves number pending)
    (room : ((told.foldl Feed.publish feed).pending number).length < Subscriber.capacity) :
    (told.foldl Feed.publish feed).Serves number (pending ++ told) := by
  induction told generalizing feed pending with
  | nil => simpa using serves
  | cons event told ih =>
      have next := serves.publish event
      by_cases fits : pending.length < Subscriber.capacity
      · rw [if_pos fits] at next
        simpa using ih next room
      · rw [if_neg fits] at next
        have full := next.publish_full (not_lt.mp fits) told
        rw [List.foldl_cons, full.pending_eq] at room
        exact absurd room fits

theorem Serves.subscribe (serves : feed.Serves number pending) :
    feed.subscribe.1.Serves number pending := by
  obtain ⟨subscriber, found, holds⟩ := serves.found
  exact ⟨rfl, subscriber, by simp [Feed.subscribe, found], holds⟩

/-- Whoever else unsubscribes, a subscriber is found as before. -/
theorem find?_unsubscribe (apart : other ≠ number) :
    (feed.unsubscribe other).subscribers.find? (·.number == number) =
      feed.subscribers.find? (·.number == number) := by
  have kept : (fun subscriber : Subscriber => decide (decide (subscriber.number ≠ other) = true ∧
      (subscriber.number == number) = true)) = fun subscriber => subscriber.number == number := by
    funext subscriber
    by_cases named : subscriber.number = number
    · simp [named, apart.symm]
    · simp [named]
  rw [Feed.unsubscribe, List.find?_filter, kept]

theorem Serves.unsubscribe (serves : feed.Serves number pending) (apart : other ≠ number) :
    (feed.unsubscribe other).Serves number pending := by
  obtain ⟨subscriber, found, holds⟩ := serves.found
  exact ⟨serves.opened, subscriber, (find?_unsubscribe apart).trans found, holds⟩

theorem Serves.discard (serves : feed.Serves number pending) (other count : Nat) :
    (feed.discard other count).Serves number
      (if other = number then pending.drop count else pending) := by
  refine serves.map (fun subscriber => ?_) fun subscriber named holds => ?_
  · split <;> rfl
  · rw [named, ← holds]
    by_cases own : other = number
    · rw [if_pos own, if_pos own.symm]
    · rw [if_neg own, if_neg (Ne.symm own)]

theorem serves_subscribe (numbered : feed.Numbered) :
    feed.subscribe.1.Serves feed.subscribe.2 [] := by
  have others : feed.subscribers.find? (·.number == feed.admitted + 1) = none := by
    refine List.find?_eq_none.mpr fun subscriber member => ?_
    have bound := numbered subscriber member
    simp only [beq_iff_eq]
    omega
  exact ⟨rfl, ⟨feed.admitted + 1, []⟩, by simp [Feed.subscribe, others], rfl⟩

theorem numbered_subscribe (numbered : feed.Numbered) : feed.subscribe.1.Numbered := by
  intro subscriber member
  rcases List.mem_append.mp member with known | new
  · exact Nat.le_succ_of_le (numbered subscriber known)
  · rw [List.mem_singleton.mp new]
    exact le_rfl

theorem numbered_map {change : Subscriber → Subscriber} (numbered : feed.Numbered)
    (sameNumber : ∀ subscriber, (change subscriber).number = subscriber.number) :
    ({ feed with subscribers := feed.subscribers.map change } : Feed).Numbered := by
  intro subscriber member
  obtain ⟨before, known, rfl⟩ := List.mem_map.mp member
  rw [sameNumber]
  exact numbered before known

theorem numbered_publish (numbered : feed.Numbered) (event : Event) :
    (feed.publish event).Numbered := by
  unfold Feed.publish
  split
  · intro subscriber member
    simp at member
  · exact numbered_map numbered (number_offer · event)

theorem numbered_publish_all (numbered : feed.Numbered) (told : List Event) :
    (told.foldl Feed.publish feed).Numbered := by
  induction told generalizing feed with
  | nil => exact numbered
  | cons event told ih => exact ih (numbered_publish numbered event)

end Feed

namespace Registry

inductive Operation where
  | create (inputs : List Path)
  | updateProgress (id : String) (percent : Int)
  | setTarget (id : String) (path : Path)
  | finish (id : String) (output : Path)
  | fail (id : String) (failure : Failure)
  | requestCancel (id : String)
  | cancel (id : String)
  | cancelAll
  | clear
  | enter (id : String)
  | leave (id : String)
  | pass (time : Binary64)

/-- The registry after an operation.  The cancellation of an unknown job is refused. -/
def perform (registry : Registry) : Operation → Registry
  | .create inputs => (registry.create inputs).1
  | .updateProgress id percent => registry.updateProgress id percent
  | .setTarget id path => registry.setTarget id path
  | .finish id output => registry.finish id output
  | .fail id failure => registry.fail id failure
  | .requestCancel id => registry.requestCancel id
  | .cancel id => (registry.cancel id).toOption.getD registry
  | .cancelAll => registry.cancelAll.1
  | .clear => registry.clear
  | .enter id => (registry.enter id).1
  | .leave id => registry.leave id
  | .pass time => { registry with clock := time }

/-- What happens to a registry: an operation, or something that a subscriber does. -/
inductive Happening where
  | operate (operation : Operation)
  | subscribe
  | unsubscribe (number : Nat)
  | take (number count : Nat)

def undergo (registry : Registry) : Happening → Registry
  | .operate operation => registry.perform operation
  | .subscribe => { registry with feed := registry.feed.subscribe.1 }
  | .unsubscribe number => { registry with feed := registry.feed.unsubscribe number }
  | .take number count => { registry with feed := (registry.feed.take number count).2 }

def undergoAll (registry : Registry) (happenings : List Happening) : Registry :=
  happenings.foldl undergo registry

/-- What may happen: percentages are at most a hundred, and the clock reads a positive time. -/
def Happening.Permitted : Happening → Prop
  | .operate (.updateProgress _ percent) => percent ≤ 100
  | .operate (.pass time) => 0 < time
  | _ => True

/-- What may happen while the clock reads positive times, whatever percentages are reported. -/
def Happening.Timely : Happening → Prop
  | .operate (.pass time) => 0 < time
  | _ => True

theorem Happening.Permitted.timely {happening : Happening} (permitted : happening.Permitted) :
    happening.Timely := by
  cases happening with
  | operate operation =>
      cases operation with
      | pass time => exact permitted
      | _ => trivial
  | subscribe | unsubscribe | take => trivial

/-- Whether the queue of a subscriber never fills, and it stays subscribed. -/
def Keeps (number : Nat) : Registry → List Happening → Prop
  | _, [] => True
  | registry, happening :: happenings =>
      happening ≠ .unsubscribe number ∧
      ((registry.undergo happening).feed.pending number).length < Subscriber.capacity ∧
      Keeps number (registry.undergo happening) happenings

def takenAt (number : Nat) (registry : Registry) : Happening → List Event
  | .take other count => if other = number then (registry.feed.take number count).1 else []
  | _ => []

def taken (number : Nat) : Registry → List Happening → List Event
  | _, [] => []
  | registry, happening :: happenings =>
      takenAt number registry happening ++ taken number (registry.undergo happening) happenings

/-- The events that a subscriber receives: those that it took, and those in its queue. -/
def received (number : Nat) (registry : Registry) (happenings : List Happening) : List Event :=
  taken number registry happenings ++ (registry.undergoAll happenings).feed.pending number

variable {registry after : Registry} {number : Nat} {happening : Happening}
  {happenings : List Happening} {pending : List Event}

theorem received_cons :
    received number registry (happening :: happenings) =
      takenAt number registry happening ++
        received number (registry.undergo happening) happenings := by
  rw [received, taken, List.append_assoc]
  rfl

theorem evolves_perform {operation : Operation} (timely : (Happening.operate operation).Timely) :
    registry.Evolves (registry.perform operation) := by
  cases operation with
  | create inputs => exact evolves_create registry inputs
  | updateProgress id percent => exact evolves_updateProgress registry id percent
  | setTarget id path => exact evolves_setTarget registry id path
  | finish id output => exact evolves_finish registry id output
  | fail id failure => exact evolves_fail registry id failure
  | requestCancel id => exact evolves_requestCancel registry id
  | cancel id =>
      cases cancelled : registry.cancel id with
      | error reason =>
          simp only [perform, cancelled, Except.toOption, Option.getD_none]
          exact Evolves.refl registry
      | ok after =>
          simp only [perform, cancelled, Except.toOption, Option.getD_some]
          exact evolves_cancel cancelled
  | cancelAll => exact evolves_cancelEach registry _
  | clear => exact evolves_clear registry
  | enter id => exact evolves_enter registry id
  | leave id => exact evolves_leave registry id
  | pass time => exact evolves_pass fun _ => timely

theorem tells_perform {operation : Operation}
    (permitted : (Happening.operate operation).Permitted) :
    registry.Tells (registry.perform operation) := by
  cases operation with
  | create inputs => exact tells_create registry inputs
  | updateProgress id percent => exact tells_updateProgress registry id permitted
  | setTarget id path => exact tells_change fun _ => ⟨rfl, rfl⟩
  | finish id output => exact tells_finish registry id output
  | fail id failure => exact tells_fail registry id failure
  | requestCancel id => exact tells_requestCancel registry id
  | cancel id =>
      cases cancelled : registry.cancel id with
      | error reason =>
          simp only [perform, cancelled, Except.toOption, Option.getD_none]
          exact Tells.refl registry
      | ok after =>
          simp only [perform, cancelled, Except.toOption, Option.getD_some]
          exact tells_cancel cancelled
  | cancelAll => exact tells_cancelEach registry _
  | clear => exact tells_clear registry
  | enter id => exact tells_enter registry id
  | leave id => exact tells_of_jobs rfl rfl rfl
  | pass time => exact tells_of_jobs rfl rfl rfl

theorem evolves_undergo_of_timely (timely : happening.Timely) :
    registry.Evolves (registry.undergo happening) := by
  cases happening with
  | operate operation => exact evolves_perform timely
  | subscribe | unsubscribe | take => exact evolves_of_jobs (fun clock => clock) rfl rfl rfl

theorem evolves_undergo (permitted : happening.Permitted) :
    registry.Evolves (registry.undergo happening) ∧
      (registry.Sound → registry.feed.Numbered → (registry.undergo happening).feed.Numbered) := by
  refine ⟨evolves_undergo_of_timely permitted.timely, fun sound numbered => ?_⟩
  cases happening with
  | operate operation =>
      obtain ⟨told, follows⟩ := tells_perform permitted sound
      have published := Feed.numbered_publish_all numbered told
      rwa [← follows.feed] at published
  | subscribe => exact Feed.numbered_subscribe numbered
  | unsubscribe number =>
      exact fun subscriber member => numbered subscriber (List.mem_of_mem_filter member)
  | take number count =>
      refine Feed.numbered_map numbered fun subscriber => ?_
      split <;> rfl

theorem evolves_undergoAll_of_timely (timely : ∀ happening ∈ happenings, happening.Timely) :
    registry.Evolves (registry.undergoAll happenings) := by
  induction happenings generalizing registry with
  | nil => exact Evolves.refl registry
  | cons happening happenings ih =>
      rw [List.forall_mem_cons] at timely
      exact (evolves_undergo_of_timely timely.1).trans (ih timely.2)

theorem evolves_undergoAll (permitted : ∀ happening ∈ happenings, happening.Permitted) :
    registry.Evolves (registry.undergoAll happenings) ∧
      (registry.Sound → registry.feed.Numbered →
        (registry.undergoAll happenings).feed.Numbered) := by
  induction happenings generalizing registry with
  | nil => exact ⟨Evolves.refl registry, fun _ numbered => numbered⟩
  | cons happening happenings ih =>
      rw [List.forall_mem_cons] at permitted
      obtain ⟨evolves, keeps⟩ := evolves_undergo permitted.1
      obtain ⟨evolves', keeps'⟩ := ih permitted.2
      exact ⟨evolves.trans evolves', fun sound numbered =>
        keeps' (evolves sound).1 (keeps sound numbered)⟩

/-- Whether events tell of every job how it came from where it stood to where it stands then. -/
def IsTold (registry after : Registry) (told : List Event) : Prop :=
  ∀ id, after.standing? id = replayFrom (registry.standing? id) (about id told) ∧
    Fitting (registry.standing? id) (about id told)

theorem IsTold.trans {last : Registry} {first second : List Event}
    (tells : registry.IsTold after first) (tells' : after.IsTold last second) :
    registry.IsTold last (first ++ second) := by
  intro id
  obtain ⟨stands, fits⟩ := tells id
  obtain ⟨stands', fits'⟩ := tells' id
  rw [stands] at stands' fits'
  rw [about_append, replayFrom_append]
  exact ⟨stands', fitting_append fits fits'⟩

theorem isTold_of_quiet (quiet : ∀ id, after.standing? id = registry.standing? id) :
    registry.IsTold after [] :=
  fun id => ⟨quiet id, trivial⟩

/-- What a subscriber receives besides the events in its queue are the events that tell of all
that happens. -/
theorem exists_told_of_keeps (sound : registry.Sound)
    (serves : registry.feed.Serves number pending)
    (permitted : ∀ happening ∈ happenings, happening.Permitted)
    (keeps : Keeps number registry happenings) :
    ∃ told, received number registry happenings = pending ++ told ∧
      registry.IsTold (registry.undergoAll happenings) told := by
  induction happenings generalizing registry pending with
  | nil =>
      refine ⟨[], ?_, isTold_of_quiet fun _ => rfl⟩
      simp [received, taken, undergoAll, serves.pending_eq]
  | cons happening happenings ih =>
      rw [List.forall_mem_cons] at permitted
      obtain ⟨stays, room, others⟩ := keeps
      have sound' := ((evolves_undergo permitted.1).1 sound).1
      -- What subscribers do moves no job, so it is enough to know whom it leaves what.
      have quiet : ∀ {now}, (registry.undergo happening).feed.Serves number now →
          (∀ id, (registry.undergo happening).standing? id = registry.standing? id) →
          takenAt number registry happening ++ now = pending →
          ∃ told, received number registry (happening :: happenings) = pending ++ told ∧
            registry.IsTold (registry.undergoAll (happening :: happenings)) told := by
        intro now serves same kept
        obtain ⟨told, received, tells⟩ := ih sound' serves permitted.2 others
        refine ⟨told, ?_, (isTold_of_quiet same).trans tells⟩
        rw [received_cons, received, ← List.append_assoc, kept]
      cases happening with
      | operate operation =>
          obtain ⟨told, follows⟩ := tells_perform permitted.1 sound
          have published : (registry.perform operation).feed.Serves number (pending ++ told) := by
            rw [follows.feed]
            refine serves.publish_all ?_
            rw [← follows.feed]
            exact room
          obtain ⟨told', received, tells⟩ := ih sound' published permitted.2 others
          have moved : registry.IsTold (registry.perform operation) told := fun id =>
            ⟨follows.standing id, follows.fits id⟩
          refine ⟨told ++ told', ?_, moved.trans tells⟩
          rw [← List.append_assoc, ← received]
          rfl
      | subscribe => exact quiet serves.subscribe (fun _ => rfl) rfl
      | unsubscribe other =>
          have apart : other ≠ number := fun same => stays (by rw [same])
          exact quiet (serves.unsubscribe apart) (fun _ => rfl) rfl
      | take other count =>
          refine quiet (serves.discard other count) (fun _ => rfl) ?_
          by_cases own : other = number
          · simp [takenAt, own, Feed.take, serves.pending_eq]
          · simp [takenAt, own]

/-- Whether events are a log of a job: they are its whole life so far, and replaying them tells
where it stands and what its status is. -/
structure IsLog (events : List Event) (job : Job) : Prop where
  life : IsLife job.id events
  standing : replay events = some job.standing
  status : ∀ now status, job.status now = .ok status → ∃ told, replay events = some told ∧
    told.state = status.state ∧ told.progress = status.progress ∧ told.failure = status.failure

theorem isLog_of_fitting {job : Job} {events : List Event}
    (stands : replay events = some job.standing) (named : ∀ event ∈ events, event.job = job.id)
    (fits : Fitting none events) :
    IsLog events job := by
  have filled : events ≠ [] := by
    rintro rfl
    simp [replay, replayFrom] at stands
  refine ⟨isLife_of_fitting named filled fits, stands, fun now status given => ?_⟩
  cases measured : job.duration now with
  | error reason => simp [Job.status, measured, Except.map] at given
  | ok duration =>
      simp only [Job.status, measured, Except.map, Except.ok.injEq] at given
      rw [← given]
      exact ⟨job.standing, stands, rfl, rfl, rfl⟩

/-- The events that a subscriber receives are a log of every job that is created after it
subscribed, if its queue never fills. -/
theorem received_isLog (maxConcurrent maxFinished : Int) {clock : Binary64}
    (positive : 0 < clock) {before happenings : List Happening}
    (reached : ∀ happening ∈ before, happening.Permitted) :
    let registry := (start maxConcurrent maxFinished clock).undergoAll before
    let number := registry.feed.subscribe.2
    let subscribed := registry.undergo .subscribe
    (∀ happening ∈ happenings, happening.Permitted) → Keeps number subscribed happenings →
    ∀ job ∈ (subscribed.undergoAll happenings).all,
      (∀ earlier ∈ registry.all, earlier.id ≠ job.id) →
        IsLog (about job.id (received number subscribed happenings)) job := by
  intro registry number subscribed permitted keeps job member new
  have first : (start maxConcurrent maxFinished clock).Sound := sound_start _ _ positive
  obtain ⟨evolves, numbers⟩ := evolves_undergoAll reached
  have sound : registry.Sound := (evolves first).1
  have numbered : registry.feed.Numbered := numbers first (by simp [Feed.Numbered, start])
  have allowed : Happening.subscribe.Permitted := trivial
  have sound' : subscribed.Sound := ((evolves_undergo allowed).1 sound).1
  obtain ⟨told, received, tells⟩ := exists_told_of_keeps sound' (Feed.serves_subscribe numbered)
    permitted keeps
  have final := ((evolves_undergoAll permitted).1 sound').1
  have unknown : subscribed.standing? job.id = none := standing?_eq_none new
  obtain ⟨stands, fits⟩ := tells job.id
  rw [unknown, final.standing?_eq member] at stands
  rw [unknown] at fits
  rw [received, List.nil_append]
  refine isLog_of_fitting stands.symm (fun event member => ?_) fits
  simpa using (List.mem_filter.mp member).2

def earlierJob : List Happening := [.operate (.create [])]

/-- A job that is created, reports a percentage and finishes; a later failure does not count. -/
def nextJob : List Happening :=
  [.operate (.create []), .operate (.updateProgress "job-2" 40), .take 1 1,
    .operate (.finish "job-2" (.ofString "/outputs/out-2.mp4")),
    .operate (.fail "job-2" .cancelled)]

/-- The subscriber in between has a log of the second job. -/
theorem received_isLog_nextJob :
    let subscribed := ((start 1 200 1000).undergoAll earlierJob).undergo .subscribe
    ∃ job ∈ (subscribed.undergoAll nextJob).all, job.id = "job-2" ∧
      IsLog (about "job-2" (received 1 subscribed nextJob)) job := by
  intro subscribed
  have known : ((subscribed.undergoAll nextJob).findAny? "job-2").map (·.id) = some "job-2" := by
    decide
  obtain ⟨job, found, named⟩ := Option.map_eq_some_iff.mp known
  obtain ⟨member, -⟩ := findAny?_some found
  have positive : (0 : Binary64) < 1000 := by decide +kernel
  have reached : ∀ happening ∈ earlierJob, happening.Permitted := by
    simp [earlierJob, Happening.Permitted]
  have permitted : ∀ happening ∈ nextJob, happening.Permitted := by
    simp [nextJob, Happening.Permitted]
  have keeps : Keeps 1 subscribed nextJob :=
    ⟨by simp, by decide, by simp, by decide, by simp, by decide, by simp,
      by decide, by simp, by decide, trivial⟩
  have log := received_isLog 1 200 positive reached permitted keeps job member (by
    rw [named]
    decide)
  exact ⟨job, member, named, named ▸ log⟩

end Registry

end Montage.Jobs
