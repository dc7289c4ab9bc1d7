import Montage.Proofs.Jobs.Subscription

/-!
# Percentages that leave the registry

A percentage that counts leaves the registry twice: in an event, as it was reported, and in the
status of its job, where it is at most a hundred.  The status stays between zero and a hundred
and only grows.  The events do so too, and say what the status says, as long as no percentage
above a hundred counts.
-/

namespace Montage.Jobs

namespace Event

def report? : Event → Option (String × Int)
  | .created _ => none
  | .progress job _ percent => some (job, percent)
  | .finished _ _ => none
  | .failed _ _ => none

end Event

namespace Feed

variable {feed : Feed} {number other count : Nat}

theorem pending_eq :
    feed.pending number =
      ((feed.subscribers.find? (·.number == number)).map Subscriber.pending).getD [] := by
  unfold pending
  split
  next found => rw [found, Option.map_some, Option.getD_some]
  next missing => rw [missing, Option.map_none, Option.getD_none]

/-- An event that is published waits behind the others, or is lost. -/
theorem pending_publish_sublist (feed : Feed) (event : Event) :
    ((feed.publish event).pending number).Sublist (feed.pending number ++ [event]) := by
  rw [pending_eq, pending_eq, publish]
  split
  next closed => exact List.nil_sublist _
  next opened =>
    rw [find?_map_number _ (number_offer · event), Option.map_map]
    cases feed.subscribers.find? (·.number == number) with
    | none => exact List.nil_sublist _
    | some subscriber =>
        simp only [Option.map_some, Option.getD_some, Function.comp, Subscriber.offer]
        split
        · exact List.Sublist.refl _
        · exact List.sublist_append_left _ _

theorem pending_publish_all_sublist (feed : Feed) (told : List Event) :
    ((told.foldl publish feed).pending number).Sublist (feed.pending number ++ told) := by
  induction told generalizing feed with
  | nil => rw [List.append_nil, List.foldl_nil]
  | cons event told ih =>
      have first : ((feed.publish event).pending number).Sublist (feed.pending number ++ [event]) :=
        pending_publish_sublist feed event
      have waits := first.append_right told
      rw [List.append_assoc, List.singleton_append] at waits
      exact (ih (feed.publish event)).trans waits

theorem pending_subscribe : feed.subscribe.1.pending number = feed.pending number := by
  rw [pending_eq, pending_eq, subscribe, List.find?_append]
  cases feed.subscribers.find? (·.number == number) with
  | some subscriber => rfl
  | none =>
      rw [Option.none_or, List.find?_singleton]
      split <;> rfl

theorem pending_unsubscribe_sublist :
    ((feed.unsubscribe other).pending number).Sublist (feed.pending number) := by
  rw [pending_eq, pending_eq]
  by_cases own : other = number
  · have gone : (feed.unsubscribe other).subscribers.find? (·.number == number) = none := by
      simp [unsubscribe, List.find?_eq_none, own]
    rw [gone]
    exact List.nil_sublist _
  · rw [find?_unsubscribe own]

theorem pending_discard :
    (feed.discard other count).pending number =
      if other = number then (feed.pending number).drop count else feed.pending number := by
  have sameNumber : ∀ subscriber : Subscriber,
      (if subscriber.number = other then
        { subscriber with pending := subscriber.pending.drop count } else subscriber).number =
          subscriber.number := fun subscriber => by split <;> rfl
  rw [pending_eq, pending_eq, discard, find?_map_number _ sameNumber, Option.map_map]
  cases found : feed.subscribers.find? (·.number == number) with
  | none => simp
  | some subscriber =>
      have named : subscriber.number = number := by simpa using List.find?_some found
      rw [Option.map_some, Option.map_some, Option.getD_some, Option.getD_some,
        Function.comp_apply, named]
      by_cases own : other = number
      · rw [if_pos own, if_pos own.symm]
      · rw [if_neg own, if_neg (Ne.symm own)]

end Feed

theorem Job.progress_of_status {job : Job} {now : Binary64} {status : Status}
    (given : job.status now = .ok status) : status.progress = job.progress := by
  cases measured : job.duration now with
  | error reason => simp [Job.status, measured, Except.map] at given
  | ok duration =>
      simp only [Job.status, measured, Except.map, Except.ok.injEq] at given
      rw [← given]

namespace Registry

variable {registry after last : Registry} {number : Nat} {happening : Happening}
  {happenings : List Happening} {id : String} {percent : Int} {job : Job}
  {report : String × Int}

/-- The percentage that is reported when something happens, if it counts. -/
def counted (registry : Registry) : Happening → List (String × Int)
  | .operate (.updateProgress id percent) =>
      match registry.find? id with
      | some job => if job.settled = false ∧ job.progress < percent then [(id, percent)] else []
      | none => []
  | _ => []

/-- All percentages that count, in the order in which they are reported. -/
def reports : Registry → List Happening → List (String × Int)
  | _, [] => []
  | registry, happening :: happenings =>
      registry.counted happening ++ (registry.undergo happening).reports happenings

section Counting

theorem mem_counted_iff :
    report ∈ registry.counted happening ↔
      happening = .operate (.updateProgress report.1 report.2) ∧
        ∃ job, registry.find? report.1 = some job ∧ job.settled = false ∧
          job.progress < report.2 := by
  obtain ⟨id, percent⟩ := report
  constructor
  · intro member
    unfold counted at member
    split at member
    next other reported =>
      split at member
      next job found =>
        split at member
        next counts =>
          cases List.mem_singleton.mp member
          exact ⟨rfl, job, found, counts⟩
        next => cases member
      next => cases member
    next => cases member
  · rintro ⟨rfl, job, found, counts⟩
    simp only [counted, found, if_pos counts, List.mem_singleton]

theorem counted_cases (registry : Registry) (id : String) (percent : Int) :
    (registry.counted (.operate (.updateProgress id percent)) = [] ∧
      registry.updateProgress id percent = registry) ∨
    (registry.counted (.operate (.updateProgress id percent)) = [(id, percent)] ∧
      ∃ job, registry.find? id = some job ∧ registry.updateProgress id percent =
        (registry.change id fun _ => job.advance percent).publish
          (.progress id (job.advance percent).state percent)) := by
  rcases updateProgress_cases registry id percent with
    ⟨job, found, counts, moved⟩ | ⟨rests, same⟩
  · exact .inr ⟨by simp only [counted, found, if_pos counts], job, found, moved⟩
  · refine .inl ⟨?_, same⟩
    rw [List.eq_nil_iff_forall_not_mem]
    intro report member
    obtain ⟨reported, job, found, counts⟩ := mem_counted_iff.mp member
    cases reported
    exact rests job found counts

end Counting

def Publishes (registry after : Registry) (percentages : List (String × Int)) : Prop :=
  ∃ told : List Event, told.filterMap Event.report? = percentages ∧
    after.feed = told.foldl Feed.publish registry.feed

section Publishing

variable {first second : List (String × Int)}

theorem publishes_of_feed (same : after.feed = registry.feed) : registry.Publishes after [] :=
  ⟨[], rfl, same⟩

theorem publishes_of_event (event : Event) (same : after.feed = registry.feed) :
    registry.Publishes (after.publish event) event.report?.toList := by
  refine ⟨[event], ?_, ?_⟩
  · cases event <;> rfl
  · rw [publish, same, List.foldl_cons, List.foldl_nil]

theorem Publishes.trans (publishes : registry.Publishes after first)
    (publishes' : after.Publishes last second) : registry.Publishes last (first ++ second) := by
  obtain ⟨told, rfl, feed⟩ := publishes
  obtain ⟨told', rfl, feed'⟩ := publishes'
  exact ⟨told ++ told', List.filterMap_append, by rw [feed', feed, List.foldl_append]⟩

theorem publishes_fail (registry : Registry) (id : String) (failure : Failure) :
    registry.Publishes (registry.fail id failure) [] := by
  rcases fail_cases registry id failure with ⟨_, -, -, ended⟩ | ⟨-, same⟩
  · rw [ended]
    exact publishes_of_event (.failed id failure) rfl
  · rw [same]
    exact publishes_of_feed rfl

theorem publishes_finish (registry : Registry) (id : String) (output : Path) :
    registry.Publishes (registry.finish id output) [] := by
  rcases finish_cases registry id output with ⟨_, -, -, ended⟩ | ⟨-, same⟩
  · rw [ended]
    exact publishes_of_event (.finished id output.name) rfl
  · rw [same]
    exact publishes_of_feed rfl

theorem publishes_cancel (cancelled : registry.cancel id = .ok after) :
    registry.Publishes after [] := by
  obtain ⟨job, -, ⟨-, rfl⟩ | ⟨-, rfl⟩⟩ := cancel_cases cancelled
  · exact publishes_of_feed rfl
  · exact publishes_fail (registry.requestCancel id) id .cancelled

theorem publishes_cancelEach (registry : Registry) (jobs : List Job) :
    registry.Publishes (registry.cancelEach jobs) [] :=
  cancelEach_induction (motive := fun after => registry.Publishes after [])
    (fun cancelled published => published.trans (publishes_cancel cancelled)) jobs
    (publishes_of_feed rfl)

theorem publishes_enter (registry : Registry) (id : String) :
    registry.Publishes (registry.enter id).1 [] := by
  rcases enter_cases registry id with ⟨-, full⟩ | ⟨-, _, rfl, ⟨-, away⟩ | ⟨-, entered⟩⟩
  · rw [full]
    exact publishes_of_feed rfl
  · rw [away]
    exact publishes_of_feed rfl
  · rw [entered]
    exact publishes_of_feed rfl

theorem publishes_updateProgress (registry : Registry) (id : String) (percent : Int) :
    registry.Publishes (registry.updateProgress id percent)
      (registry.counted (.operate (.updateProgress id percent))) := by
  rcases counted_cases registry id percent with ⟨idle, same⟩ | ⟨counts, job, -, moved⟩
  · rw [idle, same]
    exact publishes_of_feed rfl
  · rw [counts, moved]
    exact publishes_of_event (.progress id (job.advance percent).state percent) rfl

/-- Percentages are published when they are reported and count, and at no other time. -/
theorem publishes_perform (registry : Registry) (operation : Operation) :
    registry.Publishes (registry.perform operation) (registry.counted (.operate operation)) := by
  cases operation with
  | create inputs => exact publishes_of_event (.created _) rfl
  | updateProgress id percent => exact publishes_updateProgress registry id percent
  | finish id output => exact publishes_finish registry id output
  | fail id failure => exact publishes_fail registry id failure
  | cancel id =>
      change registry.Publishes ((registry.cancel id).toOption.getD registry) []
      cases cancelled : registry.cancel id with
      | error reason => exact publishes_of_feed rfl
      | ok after => exact publishes_cancel cancelled
  | cancelAll => exact publishes_cancelEach registry registry.unsettled
  | enter id => exact publishes_enter registry id
  | setTarget | requestCancel | clear | leave | pass => exact publishes_of_feed rfl

end Publishing

section Receiving

/-- Of what a subscriber takes and has waiting next, the percentages were waiting before or are
reported in between. -/
theorem received_undergo_sublist (number : Nat) (registry : Registry) (happening : Happening) :
    ((takenAt number registry happening ++
        (registry.undergo happening).feed.pending number).filterMap Event.report?).Sublist
      ((registry.feed.pending number).filterMap Event.report? ++ registry.counted happening) := by
  cases happening with
  | operate operation =>
      obtain ⟨told, reported, feed⟩ := publishes_perform registry operation
      have waits : ((told.foldl Feed.publish registry.feed).pending number).Sublist
          (registry.feed.pending number ++ told) :=
        Feed.pending_publish_all_sublist registry.feed told
      rw [← feed] at waits
      rw [← reported, ← List.filterMap_append]
      exact waits.filterMap _
  | subscribe =>
      rw [undergo, Feed.pending_subscribe]
      exact List.sublist_append_left _ _
  | unsubscribe other =>
      refine List.Sublist.trans ?_ (List.sublist_append_left _ _)
      exact Feed.pending_unsubscribe_sublist.filterMap _
  | take other count =>
      refine List.Sublist.trans (List.Sublist.filterMap _ ?_) (List.sublist_append_left _ _)
      rw [undergo, Feed.take, Feed.pending_discard, takenAt]
      by_cases own : other = number
      · rw [if_pos own, if_pos own, Feed.take, List.take_append_drop]
      · rw [if_neg own, if_neg own, List.nil_append]

/-- The percentages that a subscriber receives besides those that it has waiting are among those
that count, in the same order. -/
theorem received_sublist_reports (number : Nat) (registry : Registry)
    (happenings : List Happening) :
    ((received number registry happenings).filterMap Event.report?).Sublist
      ((registry.feed.pending number).filterMap Event.report? ++
        registry.reports happenings) := by
  induction happenings generalizing registry with
  | nil =>
      rw [reports, List.append_nil]
      exact List.Sublist.refl _
  | cons happening happenings ih =>
      have later := ih (registry.undergo happening)
      have now := received_undergo_sublist number registry happening
      rw [received_cons, List.filterMap_append, reports, ← List.append_assoc]
      rw [List.filterMap_append] at now
      refine (later.append_left _).trans ?_
      rw [← List.append_assoc]
      exact now.append_right _

end Receiving

section Rising

/-- A percentage that counts is above the progress of its job, and becomes its progress up to a
hundred. -/
theorem counted_moves (member : report ∈ registry.counted happening) :
    ∃ job, registry.find? report.1 = some job ∧ job.progress < report.2 ∧
      (registry.undergo happening).find? report.1 = some (job.advance report.2) ∧
      (registry.undergo happening).feed = registry.feed.publish
        (.progress report.1 (job.advance report.2).state report.2) := by
  obtain ⟨rfl, job, found, unsettled, above⟩ := mem_counted_iff.mp member
  have named := (find?_some found).2
  have changed := (find?_change (fun _ => job.advance report.2) found fun _ _ => named).1
  refine ⟨job, found, above, ?_⟩
  rcases counted_cases registry report.1 report.2 with ⟨idle, -⟩ | ⟨-, other, same, moved⟩
  · rw [idle] at member
    cases member
  · obtain rfl := Option.some.inj (found.symm.trans same)
    rw [undergo, perform, moved]
    exact ⟨changed, rfl⟩

theorem progress_lt_of_mem_reports (sound : registry.Sound)
    (timely : ∀ happening ∈ happenings, happening.Timely) (member : job ∈ registry.all)
    (reported : report ∈ registry.reports happenings) (named : job.id = report.1) :
    job.progress < report.2 := by
  induction happenings generalizing registry job with
  | nil => cases reported
  | cons happening happenings ih =>
      rw [List.forall_mem_cons] at timely
      rcases List.mem_append.mp reported with now | later
      · obtain ⟨known, found, above, -⟩ := counted_moves now
        obtain ⟨member', named'⟩ := find?_some found
        obtain rfl :=
          sound.eq_of_id member (List.mem_append_left _ member') (named.trans named'.symm)
        exact above
      -- Until it is reported the job may move on, but not back.
      · obtain ⟨sound', moves⟩ := evolves_undergo_of_timely timely.1 sound
        obtain ⟨next, member', becomes⟩ := moves job member
        have above := ih sound' timely.2 member' later (becomes.id.trans named)
        exact lt_of_le_of_lt becomes.progress above

theorem counted_eq_nil_or_singleton (registry : Registry) (happening : Happening) :
    registry.counted happening = [] ∨ ∃ report, registry.counted happening = [report] := by
  unfold counted
  split
  next id percent =>
    split
    next job found =>
      split
      next => exact .inr ⟨_, rfl⟩
      next => exact .inl rfl
    next => exact .inl rfl
  next => exact .inl rfl

/-- Percentages of one job that count rise, except that all above a hundred count as a hundred. -/
theorem pairwise_reports (sound : registry.Sound)
    (timely : ∀ happening ∈ happenings, happening.Timely) :
    (registry.reports happenings).Pairwise fun first second =>
      first.1 = second.1 → min 100 first.2 < second.2 := by
  induction happenings generalizing registry with
  | nil => exact List.Pairwise.nil
  | cons happening happenings ih =>
      rw [List.forall_mem_cons] at timely
      have sound' := (evolves_undergo_of_timely timely.1 sound).1
      -- At most one percentage counts now; the later ones are above what its job has then.
      rw [reports, List.pairwise_append]
      refine ⟨?_, ih sound' timely.2, fun first now second later same => ?_⟩
      · rcases counted_eq_nil_or_singleton registry happening with none | ⟨report, one⟩
        · rw [none]
          exact List.Pairwise.nil
        · rw [one]
          exact List.pairwise_singleton _ _
      · obtain ⟨job, -, -, found, -⟩ := counted_moves now
        obtain ⟨member, named⟩ := find?_some found
        exact progress_lt_of_mem_reports sound' timely.2 (List.mem_append_left _ member) later
          (named.trans same)

theorem exists_split_of_mem_reports (reported : report ∈ registry.reports happenings) :
    ∃ before behind, happenings = before ++ .operate (.updateProgress report.1 report.2) :: behind ∧
      report ∈ (registry.undergoAll before).counted
        (.operate (.updateProgress report.1 report.2)) := by
  induction happenings generalizing registry with
  | nil => cases reported
  | cons happening happenings ih =>
      rcases List.mem_append.mp reported with now | later
      · obtain ⟨rfl, -⟩ := mem_counted_iff.mp now
        exact ⟨[], happenings, rfl, now⟩
      · obtain ⟨before, behind, rfl, counts⟩ := ih later
        exact ⟨happening :: before, behind, rfl, counts⟩

end Rising

section Outlets

/-- What a percentage that counts makes of its job, and of the subscribers: the status says as
much of it as a hundred, and the event all of it. -/
structure Reported (registry after : Registry) (id : String) (percent : Int) (job : Job) :
    Prop where
  found : after.find? id = some job
  published : after.feed = registry.feed.publish (.progress id job.state percent)
  status : ∀ now status, job.status now = .ok status → status.progress = min 100 percent
  faithful : (0 ≤ percent ∧ percent ≤ 100 ∧ percent = job.progress) ↔ percent ≤ 100

theorem Sound.exists_reported (sound : registry.Sound)
    (counts : report ∈ registry.counted happening) :
    ∃ job, Reported registry (registry.undergo happening) report.1 report.2 job := by
  obtain ⟨job, found, above, moved, published⟩ := counted_moves counts
  have bounds := (sound.jobs job (List.mem_append_left _ (find?_some found).1)).progress
  refine ⟨job.advance report.2, moved, published, fun now status given => ?_, ?_⟩
  · exact Job.progress_of_status given
  · have progress : (job.advance report.2).progress = min 100 report.2 := rfl
    omega

theorem undergoAll_append (registry : Registry) (before behind : List Happening) :
    registry.undergoAll (before ++ behind) = (registry.undergoAll before).undergoAll behind :=
  List.foldl_append

/-- The progress in every status lies between zero and a hundred, and grows.  The percentages in
events are among those that count, in the same order; each of them is published when it counts,
lies between zero and a hundred and says what the status says exactly if it is at most a hundred,
and those of one job rise as far as that. -/
theorem reported_progress_faithful_iff (maxConcurrent maxFinished : Int) {clock : Binary64}
    (positive : 0 < clock) (timely : ∀ happening ∈ happenings, happening.Timely) :
    let registry := start maxConcurrent maxFinished clock
    (∀ job ∈ (registry.undergoAll happenings).all, ∀ now status, job.status now = .ok status →
      status.progress = job.progress ∧ 0 ≤ status.progress ∧ status.progress ≤ 100) ∧
    (∀ before behind, happenings = before ++ behind → ∀ job ∈ (registry.undergoAll before).all,
      ∃ later ∈ (registry.undergoAll happenings).all,
        later.id = job.id ∧ job.progress ≤ later.progress) ∧
    (∀ number, ((received number registry happenings).filterMap Event.report?).Sublist
      (registry.reports happenings)) ∧
    (registry.reports happenings).Pairwise (fun first second =>
      first.1 = second.1 → min 100 first.2 < second.2) ∧
    ∀ report ∈ registry.reports happenings, ∃ before behind job,
      happenings = before ++ .operate (.updateProgress report.1 report.2) :: behind ∧
      Reported (registry.undergoAll before)
        (registry.undergoAll (before ++ [.operate (.updateProgress report.1 report.2)]))
        report.1 report.2 job := by
  intro registry
  have sound : registry.Sound := sound_start _ _ positive
  refine ⟨fun job member now status given => ?_, ?_, fun number => ?_,
    pairwise_reports sound timely, fun report reported => ?_⟩
  · have same := Job.progress_of_status given
    have final := (evolves_undergoAll_of_timely timely sound).1
    exact ⟨same, same ▸ (final.jobs job member).progress⟩
  · rintro before behind rfl job member
    rw [List.forall_mem_append] at timely
    have sound' := (evolves_undergoAll_of_timely timely.1 sound).1
    have moves := (evolves_undergoAll_of_timely timely.2 sound').2
    obtain ⟨later, member', becomes⟩ := moves job member
    exact ⟨later, undergoAll_append registry before behind ▸ member', becomes.id,
      becomes.progress⟩
  · have nothing : registry.feed.pending number = [] := rfl
    simpa [nothing] using received_sublist_reports number registry happenings
  · obtain ⟨before, behind, rfl, counts⟩ := exists_split_of_mem_reports reported
    have sound' := (evolves_undergoAll_of_timely (fun happening member =>
      timely happening (List.mem_append_left _ member)) sound).1
    obtain ⟨job, told⟩ := sound'.exists_reported counts
    refine ⟨before, behind, job, rfl, ?_⟩
    rw [undergoAll_append]
    exact told

/-- A job that is watched from the start, and reports two percentages. -/
def watchedJob (first second : Int) : List Happening :=
  [.subscribe, .operate (.create []), .operate (.updateProgress "job-1" first),
    .operate (.updateProgress "job-1" second)]

/-- The events of a job that is half and then wholly done say what its status says. -/
theorem reported_progress_faithful_halfThenWhole :
    let registry := start 1 200 1000
    (received 1 registry (watchedJob 50 100)).filterMap Event.report? =
        [("job-1", 50), ("job-1", 100)] ∧
      ∀ report ∈ registry.reports (watchedJob 50 100), ∃ before job,
        (registry.undergoAll (before ++ [.operate (.updateProgress report.1 report.2)])).find?
          report.1 = some job ∧ 0 ≤ report.2 ∧ report.2 ≤ 100 ∧ report.2 = job.progress := by
  intro registry
  have positive : (0 : Binary64) < 1000 := by decide +kernel
  have timely : ∀ happening ∈ watchedJob 50 100, happening.Timely := by
    simp [watchedJob, Happening.Timely]
  have listed : registry.reports (watchedJob 50 100) = [("job-1", 50), ("job-1", 100)] := by
    decide
  obtain ⟨-, -, -, -, told⟩ := reported_progress_faithful_iff 1 200 positive timely
  refine ⟨by decide, fun report reported => ?_⟩
  obtain ⟨before, behind, job, -, told⟩ := told report reported
  have bounded : report.2 ≤ 100 := by
    have all : ∀ report ∈ registry.reports (watchedJob 50 100), report.2 ≤ 100 := by
      rw [listed]
      decide
    exact all report reported
  exact ⟨before, job, told.found, told.faithful.mpr bounded⟩

/-- A job that reports 150 and then 120 percent sends both numbers, while its status says that
it is wholly done. -/
theorem reported_progress_beyondHundred :
    let registry := start 1 200 1000
    (received 1 registry (watchedJob 150 120)).filterMap Event.report? =
        [("job-1", 150), ("job-1", 120)] ∧
      ((registry.undergoAll (watchedJob 150 120)).find? "job-1").map (·.progress) = some 100 ∧
      (((registry.undergoAll (watchedJob 150 120)).find? "job-1").map
        fun job => (job.status 1000).toOption.map Status.progress) = some (some 100) := by
  decide +kernel

end Outlets

end Registry

end Montage.Jobs
