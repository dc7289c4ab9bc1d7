import Montage.Proofs.Association
import Montage.Proofs.Probe.Answers
import Montage.Proofs.Render.Remarks
import Mathlib.Data.List.Forall2
import Mathlib.Data.List.Induction

/-!
# What a cache remembers

A cache asks its prober for a path once and keeps to what was said then, also when the prober
would say something else later, and whatever the order in which the paths of a batch are probed.
What was said is told to the console first, and a remark that the console does not take leaves
the cache as if nothing had been said.
-/

namespace Montage

open scoped List

/-- A prober that never breaks off, and whose answer may depend on all paths that it was asked
for before. -/
abbrev Teller := List Path → Path → Except ProbeFailure ProbeResult

namespace ProbeCache

def remark (path : Path) : Except ProbeFailure ProbeResult → Remark
  | .ok result =>
      let duration := Decimal.fixedText 2 result.duration
      let audio := if result.hasAudio then "True" else "False"
      ⟨.debug, "[probe] " ++ path.name ++ ": duration=" ++ duration ++ "s audio=" ++ audio⟩
  | .error failure => ⟨.warning, warning failure⟩

def heard (verbosity : Console.Verbosity) (teller : Teller) (before : List Path) : Prober :=
  fun path =>
    let answer := teller before path
    match Console.announce verbosity (remark path answer).level (remark path answer).message with
    | .ok () => answer.mapError .degraded
    | .error fault => .error (.fault fault)

/-- Ways to ask a cache.  The paths of a batch are probed in some order. -/
inductive Call where
  | one (path : Path)
  | many (paths order : List Path) (scheduled : order ~ distinct paths)

/-- Answers to calls. -/
inductive Reply where
  | one (outcome : Option ProbeResult)
  | many (outcomes : List (Path × Option ProbeResult))

/-- The outcomes for paths, one after the other, from a prober that changes as it is asked. -/
def askEach (hear : List Path → Prober) (together : Bool) :
    ProbeCache → List Path → ProbeCache × Except Fault (List (Path × Option ProbeResult))
  | cache, [] => (cache, .ok [])
  | cache, path :: rest =>
      match probe (hear cache.asked) cache path with
      | (cache, .ok outcome) =>
          match askEach hear together cache rest with
          | (cache, .ok outcomes) => (cache, .ok ((path, outcome) :: outcomes))
          | (cache, .error fault) => (cache, .error fault)
      | (cache, .error fault) =>
          if together then ((askEach hear together cache rest).1, .error fault)
          else (cache, .error fault)

def inOrder (keys : List Path) (outcomes : List (Path × Option ProbeResult)) :
    List (Path × Option ProbeResult) :=
  keys.filterMap fun path => (outcomes.lookup path).map fun outcome => (path, outcome)

/-- The cache after a call, and the reply to it. -/
def ask (hear : List Path → Prober) (parallelism : Int) (cache : ProbeCache) :
    Call → ProbeCache × Except Fault Reply
  | .one path =>
      let (cache, outcome) := probe (hear cache.asked) cache path
      (cache, outcome.map .one)
  | .many paths order _ =>
      let unique := distinct paths
      let (cache, outcomes) :=
        askEach hear (1 < unique.length ∧ 1 < parallelism) cache order
      (cache, outcomes.map fun outcomes => .many (inOrder unique outcomes))

/-- The cache after calls, and the replies to them. -/
def askAll (hear : List Path → Prober) (parallelism : Int) :
    ProbeCache → List Call → ProbeCache × List (Except Fault Reply)
  | cache, [] => (cache, [])
  | cache, call :: calls =>
      let (cache, reply) := ask hear parallelism cache call
      let (cache, replies) := askAll hear parallelism cache calls
      (cache, reply :: replies)

/-- What a teller says of paths that it is asked for one after the other. -/
def told (teller : Teller) (before : List Path) : List Path → List (Path × Option ProbeResult)
  | [] => []
  | path :: rest => (path, (teller before path).toOption) :: told teller (before ++ [path]) rest

/-- Keys that are the members of a list in the order of their first appearance. -/
structure AppearIn (paths keys : List Path) : Prop where
  mem_iff : ∀ path, path ∈ keys ↔ path ∈ paths
  ordered : keys.Pairwise fun earlier later => paths.idxOf earlier < paths.idxOf later

/-- Replies that give what was told first of each path. -/
inductive Repeats (first : List (Path × Option ProbeResult)) : Call → Reply → Prop
  | one {path : Path} {outcome : Option ProbeResult} (said : first.lookup path = some outcome) :
      Repeats first (.one path) (.one outcome)
  | many {paths order : List Path} {scheduled : order ~ distinct paths}
      {outcomes : List (Path × Option ProbeResult)}
      (keys : AppearIn paths (outcomes.map Prod.fst))
      (said : ∀ entry ∈ outcomes, first.lookup entry.1 = some entry.2) :
      Repeats first (.many paths order scheduled) (.many outcomes)

/-- Calls that ask the teller at most once for each path, and are all answered by what it said
then.  Later it does not matter what it would say. -/
structure AsksOnce (teller : Teller) (calls : List Call)
    (outcome : ProbeCache × List (Except Fault Reply)) : Prop where
  once : outcome.1.asked.Nodup
  replied : List.Forall₂ (fun call reply => ∃ given, reply = .ok given ∧
    Repeats (told teller [] outcome.1.asked) call given) calls outcome.2
  kept : ∀ path said, (told teller [] outcome.1.asked).lookup path = some said →
    ∀ prober, probe prober outcome.1 path = (outcome.1, .ok said)

def AllTaken (verbosity : Console.Verbosity) (teller : Teller) (asked : List Path) : Prop :=
  ∀ before path behind, asked = before ++ path :: behind →
    (remark path (teller before path)).IsTaken verbosity

variable {verbosity : Console.Verbosity} {teller : Teller} {cache : ProbeCache} {path : Path}
  {paths asked : List Path} {parallelism : Int} {together : Bool} {hear : List Path → Prober}

section Remarks

theorem getLast?_probeRemarks {prober : Prober} {answer : Except ProbeFailure ProbeResult}
    (same : prober path = answer.mapError .degraded) :
    (Render.probeRemarks prober path).getLast? = some (remark path answer) := by
  cases answer with
  | ok result => simp [Render.probeRemarks, same, Except.mapError, remark]
  | error failure => cases failure <;> simp [Render.probeRemarks, same, Except.mapError, remark]

theorem isTaken_remark_silent (path : Path) (answer : Except ProbeFailure ProbeResult) :
    (remark path answer).IsTaken .silent := by
  cases answer <;> exact Remark.isTaken_silent (by simp [remark])

theorem heard_of_isTaken (taken : (remark path (teller asked path)).IsTaken verbosity) :
    heard verbosity teller asked path = (teller asked path).mapError .degraded := by
  unfold Remark.IsTaken at taken
  simp only [heard, taken]

theorem exists_heard_of_not_isTaken
    (untaken : ¬ (remark path (teller asked path)).IsTaken verbosity) :
    ∃ fault, heard verbosity teller asked path = .error (.fault fault) := by
  unfold Remark.IsTaken at untaken
  unfold heard
  cases said : Console.announce verbosity (remark path (teller asked path)).level
    (remark path (teller asked path)).message with
  | ok _ => exact absurd said untaken
  | error fault => exact ⟨fault, by simp only [said]⟩

end Remarks

section Appearance

theorem distinct_concat (paths : List Path) (path : Path) :
    distinct (paths ++ [path]) =
      if path ∈ distinct paths then distinct paths else distinct paths ++ [path] :=
  List.foldl_append

theorem appearIn_distinct (paths : List Path) : AppearIn paths (distinct paths) where
  mem_iff := fun _ => mem_distinct
  ordered := by
    induction paths using List.reverseRecOn with
    | nil => exact List.Pairwise.nil
    | append_singleton paths path ih =>
        have earlier : (distinct paths).Pairwise fun earlier later =>
            (paths ++ [path]).idxOf earlier < (paths ++ [path]).idxOf later := by
          refine ih.imp_of_mem fun {earlier later} member member' before => ?_
          rwa [List.idxOf_append_of_mem (mem_distinct.mp member),
            List.idxOf_append_of_mem (mem_distinct.mp member')]
        rw [distinct_concat]
        split
        next => exact earlier
        next new =>
          rw [mem_distinct] at new
          refine List.pairwise_append.mpr ⟨earlier, List.pairwise_singleton _ _, ?_⟩
          rintro other member _ last
          rw [List.mem_singleton.mp last, List.idxOf_append_of_mem (mem_distinct.mp member),
            List.idxOf_append_of_notMem new]
          have bound := List.idxOf_lt_length_iff.mpr (mem_distinct.mp member)
          omega

end Appearance

section Keys

variable {outcomes : List (Path × Option ProbeResult)}

theorem inOrder_map_fst (once : (outcomes.map Prod.fst).Nodup) :
    inOrder (outcomes.map Prod.fst) outcomes = outcomes := by
  rw [inOrder, List.filterMap_map]
  calc outcomes.filterMap _ = outcomes.filterMap some :=
        List.filterMap_congr fun entry member => by
          have found := (lookup_eq_some_iff_mem once).mpr member
          simp [found]
    _ = outcomes := List.filterMap_some

theorem map_fst_inOrder {keys : List Path} (found : ∀ path ∈ keys, path ∈ outcomes.map Prod.fst) :
    (inOrder keys outcomes).map Prod.fst = keys := by
  rw [inOrder, List.map_filterMap]
  calc keys.filterMap _ = keys.filterMap some := List.filterMap_congr fun path member => by
        obtain ⟨outcome, known⟩ := Option.ne_none_iff_exists'.mp
          (lookup_ne_none_iff.mpr (found path member))
        simp [known]
    _ = keys := List.filterMap_some

theorem mem_of_mem_inOrder {keys : List Path} {entry : Path × Option ProbeResult}
    (member : entry ∈ inOrder keys outcomes) : entry ∈ outcomes := by
  obtain ⟨path, -, found⟩ := List.mem_filterMap.mp member
  obtain ⟨outcome, known, rfl⟩ := Option.map_eq_some_iff.mp found
  exact mem_of_lookup_eq_some known

end Keys

section Constant

/-- A prober that does not change is asked for a list of paths as before. -/
theorem askEach_const (prober : Prober) (together : Bool) (cache : ProbeCache)
    (paths : List Path) :
    askEach (fun _ => prober) together cache paths = probeEach prober together cache paths := by
  induction paths generalizing cache with
  | nil => rfl
  | cons path paths ih =>
      simp only [askEach, ih]
      rfl

theorem map_fst_of_probeEach {prober : Prober} {together : Bool} {cache after : ProbeCache}
    {paths : List Path} {outcomes : List (Path × Option ProbeResult)}
    (probed : probeEach prober together cache paths = (after, .ok outcomes)) :
    outcomes.map Prod.fst = paths := by
  induction paths generalizing cache outcomes with
  | nil =>
      cases probed
      rfl
  | cons path paths ih =>
      rw [probeEach] at probed
      split at probed
      next middle outcome first =>
        split at probed
        next last found rest =>
          cases probed
          exact congrArg (path :: ·) (ih rest)
        next => cases probed
      next => split at probed <;> cases probed

/-- A batch that is asked for in order is a batch of the prober. -/
theorem ask_many_const (prober : Prober) (parallelism : Int) (cache : ProbeCache)
    (paths : List Path) :
    ask (fun _ => prober) parallelism cache (.many paths (distinct paths) (.refl _)) =
      ((probeMany prober parallelism cache paths).1,
        (probeMany prober parallelism cache paths).2.map .many) := by
  simp only [ask, askEach_const, probeMany]
  rcases probed : probeEach prober _ cache (distinct paths) with ⟨after, fault | outcomes⟩
  · rfl
  · have keys := map_fst_of_probeEach probed
    have same : inOrder (distinct paths) outcomes = outcomes := by
      rw [← keys]
      exact inOrder_map_fst (keys ▸ nodup_distinct paths)
    simp only [Except.map, same]

end Constant

section Growth

theorem asked_prefix_askEach (hear : List Path → Prober) (together : Bool) (cache : ProbeCache)
    (paths : List Path) : cache.asked <+: (askEach hear together cache paths).1.asked := by
  induction paths generalizing cache with
  | nil => exact List.prefix_refl _
  | cons path paths ih =>
      have first := asked_prefix_probe (hear cache.asked) cache path
      unfold askEach
      split
      next middle outcome probed =>
        rw [probed] at first
        have rest := first.trans (ih middle)
        split <;> simp_all
      next middle fault probed =>
        rw [probed] at first
        split
        · exact first.trans (ih middle)
        · exact first

theorem asked_prefix_ask (hear : List Path → Prober) (parallelism : Int) (cache : ProbeCache)
    (call : Call) : cache.asked <+: (ask hear parallelism cache call).1.asked := by
  cases call with
  | one path => exact asked_prefix_probe _ _ _
  | many paths order scheduled => exact asked_prefix_askEach _ _ _ _

theorem asked_prefix_askAll (hear : List Path → Prober) (parallelism : Int) (cache : ProbeCache)
    (calls : List Call) : cache.asked <+: (askAll hear parallelism cache calls).1.asked := by
  induction calls generalizing cache with
  | nil => exact List.prefix_refl _
  | cons call calls ih => exact (asked_prefix_ask hear parallelism cache call).trans (ih _)

end Growth

section Telling

/-- A cache that remembers what it was told first of each path. -/
structure Remembers (teller : Teller) (cache : ProbeCache) : Prop where
  once : cache.asked.Nodup
  outcomes : cache.outcomes = told teller [] cache.asked

theorem map_fst_told (teller : Teller) (before asked : List Path) :
    (told teller before asked).map Prod.fst = asked := by
  induction asked generalizing before with
  | nil => rfl
  | cons path asked ih => exact congrArg (path :: ·) (ih _)

theorem told_append (teller : Teller) (before asked later : List Path) :
    told teller before (asked ++ later) =
      told teller before asked ++ told teller (before ++ asked) later := by
  induction asked generalizing before with
  | nil => simp [told]
  | cons path asked ih => simp [told, ih]

/-- What was told of a path is not told otherwise later. -/
theorem lookup_told_of_earlier {later : List Path} (grows : asked <+: later)
    {outcome : Option ProbeResult} (said : (told teller [] asked).lookup path = some outcome) :
    (told teller [] later).lookup path = some outcome := by
  obtain ⟨rest, rfl⟩ := grows
  rw [told_append, List.lookup_append, said]
  rfl

theorem AllTaken.of_earlier {later : List Path} (taken : AllTaken verbosity teller later)
    (grows : asked <+: later) : AllTaken verbosity teller asked := by
  obtain ⟨rest, rfl⟩ := grows
  rintro before path behind rfl
  exact taken before path (behind ++ rest) (by simp)

theorem allTaken_concat :
    AllTaken verbosity teller (asked ++ [path]) ↔
      AllTaken verbosity teller asked ∧ (remark path (teller asked path)).IsTaken verbosity := by
  constructor
  · exact fun taken => ⟨taken.of_earlier (List.prefix_append _ _), taken asked path [] rfl⟩
  · rintro ⟨taken, last⟩ before other behind split
    rcases List.eq_nil_or_concat behind with rfl | ⟨front, final, rfl⟩
    · obtain ⟨rfl, same⟩ := List.append_inj' split rfl
      obtain rfl := List.head_eq_of_cons_eq same
      exact last
    · rw [List.concat_eq_append, ← List.cons_append, ← List.append_assoc] at split
      exact taken before other front (List.append_inj' split rfl).1

theorem Remembers.lookup_eq_none_iff (remembers : Remembers teller cache) :
    cache.outcomes.lookup path = none ↔ path ∉ cache.asked := by
  rw [remembers.outcomes, ← not_iff_not, not_not, ← ne_eq, lookup_ne_none_iff, map_fst_told]

end Telling

section Steps

/-- What comes of asking a cache: either the console takes what is said and the value is right, or
it does not and there is none. -/
structure Goes {Value : Type} (verbosity : Console.Verbosity) (teller : Teller)
    (right : List (Path × Option ProbeResult) → Value → Prop)
    (outcome : ProbeCache × Except Fault Value) : Prop where
  answered : ∀ value, outcome.2 = .ok value → Remembers teller outcome.1 ∧
    AllTaken verbosity teller outcome.1.asked ∧ right (told teller [] outcome.1.asked) value
  broken : ∀ fault, outcome.2 = .error fault → ¬ AllTaken verbosity teller outcome.1.asked

theorem Repeats.of_earlier {call : Call} {reply : Reply} {later : List Path}
    (repeats : Repeats (told teller [] asked) call reply) (grows : asked <+: later) :
    Repeats (told teller [] later) call reply := by
  cases repeats with
  | one said => exact .one (lookup_told_of_earlier grows said)
  | many keys said =>
      exact .many keys fun entry member => lookup_told_of_earlier grows (said entry member)

theorem goes_probe (remembers : Remembers teller cache)
    (taken : AllTaken verbosity teller cache.asked) (path : Path) :
    Goes verbosity teller (fun first outcome => first.lookup path = some outcome)
      (probe (heard verbosity teller cache.asked) cache path) := by
  unfold probe
  cases known : cache.outcomes.lookup path with
  | some outcome =>
      refine ⟨?_, by rintro fault ⟨⟩⟩
      rintro _ ⟨⟩
      exact ⟨remembers, taken, remembers.outcomes ▸ known⟩
  | none =>
      have new : path ∉ cache.asked := remembers.lookup_eq_none_iff.mp known
      by_cases last : (remark path (teller cache.asked path)).IsTaken verbosity
      · -- The answer is the first for its path, and it is entered behind the earlier ones.
        have all := allTaken_concat.mpr ⟨taken, last⟩
        have once : (cache.asked ++ [path]).Nodup := by
          refine List.nodup_append.mpr ⟨remembers.once, List.pairwise_singleton _ _, ?_⟩
          rintro other member _ here rfl
          exact new (List.mem_singleton.mp here ▸ member)
        have after : ∀ warnings, Remembers teller ⟨cache.outcomes ++
            [(path, (teller cache.asked path).toOption)], cache.asked ++ [path], warnings⟩ := by
          refine fun warnings => ⟨once, ?_⟩
          rw [told_append, ← remembers.outcomes]
          rfl
        have said : (told teller [] (cache.asked ++ [path])).lookup path =
            some (teller cache.asked path).toOption := by
          rw [told_append, List.lookup_append, ← remembers.outcomes, known]
          simp [told]
        rw [heard_of_isTaken last]
        cases answer : teller cache.asked path with
        | ok result | error failure =>
            rw [answer] at after said
            refine ⟨?_, by rintro fault ⟨⟩⟩
            rintro _ ⟨⟩
            exact ⟨after _, all, said⟩
      · obtain ⟨fault, refused⟩ := exists_heard_of_not_isTaken last
        rw [refused]
        exact ⟨by rintro outcome ⟨⟩, fun _ _ all => last (allTaken_concat.mp all).2⟩

theorem goes_askEach (remembers : Remembers teller cache)
    (taken : AllTaken verbosity teller cache.asked) (together : Bool) (paths : List Path) :
    Goes verbosity teller
      (fun first outcomes => outcomes.map Prod.fst = paths ∧
        ∀ entry ∈ outcomes, first.lookup entry.1 = some entry.2)
      (askEach (heard verbosity teller) together cache paths) := by
  induction paths generalizing cache with
  | nil =>
      refine ⟨?_, by rintro fault ⟨⟩⟩
      rintro outcomes ⟨⟩
      exact ⟨remembers, taken, rfl, by simp⟩
  | cons path paths ih =>
      have first := goes_probe remembers taken path
      have grows := asked_prefix_askEach (heard verbosity teller) together
      unfold askEach
      rcases probed : probe (heard verbosity teller cache.asked) cache path with
        ⟨middle, fault | outcome⟩
      · rw [probed] at first
        have broken := first.broken fault rfl
        dsimp only
        split
        · refine ⟨by rintro outcomes ⟨⟩, fun _ _ all => broken (all.of_earlier (grows _ _))⟩
        · exact ⟨by rintro outcomes ⟨⟩, fun _ _ => broken⟩
      · rw [probed] at first
        obtain ⟨remembers, taken, said⟩ := first.answered outcome rfl
        have rest := ih remembers taken
        have longer := grows middle paths
        dsimp only
        rcases behind : askEach (heard verbosity teller) together middle paths with
          ⟨last, fault | outcomes⟩
        · rw [behind] at rest
          exact ⟨by rintro outcomes ⟨⟩, fun _ _ => rest.broken fault rfl⟩
        · rw [behind] at rest longer
          obtain ⟨remembers, taken, keys, others⟩ := rest.answered outcomes rfl
          refine ⟨?_, by rintro fault ⟨⟩⟩
          rintro _ ⟨⟩
          refine ⟨remembers, taken, congrArg (path :: ·) keys, ?_⟩
          exact List.forall_mem_cons.mpr ⟨lookup_told_of_earlier longer said, others⟩

theorem Goes.map {Value Other : Type} {outcome : ProbeCache × Except Fault Value}
    {right : List (Path × Option ProbeResult) → Value → Prop}
    {right' : List (Path × Option ProbeResult) → Other → Prop} {wrap : Value → Other}
    (goes : Goes verbosity teller right outcome)
    (wraps : ∀ first value, right first value → right' first (wrap value)) :
    Goes verbosity teller right' (outcome.1, outcome.2.map wrap) := by
  obtain ⟨cache, fault | value⟩ := outcome
  · exact ⟨by rintro value ⟨⟩, fun _ _ => goes.broken fault rfl⟩
  · obtain ⟨remembers, taken, holds⟩ := goes.answered value rfl
    refine ⟨?_, by rintro fault ⟨⟩⟩
    rintro _ ⟨⟩
    exact ⟨remembers, taken, wraps _ value holds⟩

theorem goes_ask (remembers : Remembers teller cache)
    (taken : AllTaken verbosity teller cache.asked) (parallelism : Int) (call : Call) :
    Goes verbosity teller (fun first reply => Repeats first call reply)
      (ask (heard verbosity teller) parallelism cache call) := by
  cases call with
  | one path => exact (goes_probe remembers taken path).map fun _ _ said => .one said
  | many paths order scheduled =>
      refine (goes_askEach remembers taken _ order).map ?_
      rintro first outcomes ⟨keys, said⟩
      have found : ∀ path ∈ distinct paths, path ∈ outcomes.map Prod.fst := by
        intro path member
        rw [keys]
        exact scheduled.mem_iff.mpr member
      refine .many ?_ fun entry member => said entry (mem_of_mem_inOrder member)
      rw [map_fst_inOrder found]
      exact appearIn_distinct paths

theorem goes_askAll (remembers : Remembers teller cache)
    (taken : AllTaken verbosity teller cache.asked) (parallelism : Int) (calls : List Call) :
    let outcome := askAll (heard verbosity teller) parallelism cache calls
    (AllTaken verbosity teller outcome.1.asked → Remembers teller outcome.1 ∧
      List.Forall₂ (fun call reply => ∃ given, reply = .ok given ∧
        Repeats (told teller [] outcome.1.asked) call given) calls outcome.2) ∧
    (¬ AllTaken verbosity teller outcome.1.asked → ∃ fault, .error fault ∈ outcome.2) := by
  induction calls generalizing cache with
  | nil => exact ⟨fun _ => ⟨remembers, .nil⟩, fun untaken => absurd taken untaken⟩
  | cons call calls ih =>
      have first := goes_ask remembers taken parallelism call
      have grows := asked_prefix_askAll (heard verbosity teller) parallelism
        (ask (heard verbosity teller) parallelism cache call).1 calls
      rcases asked : ask (heard verbosity teller) parallelism cache call with
        ⟨middle, fault | reply⟩
      · rw [asked] at first grows
        have broken := first.broken fault rfl
        simp only [askAll, asked]
        exact ⟨fun all => absurd (all.of_earlier grows) broken,
          fun _ => ⟨fault, List.mem_cons_self⟩⟩
      · rw [asked] at first grows
        obtain ⟨remembers, taken, said⟩ := first.answered reply rfl
        obtain ⟨rest, breaks⟩ := ih remembers taken
        simp only [askAll, asked]
        refine ⟨fun all => ?_, fun untaken => ?_⟩
        · obtain ⟨last, replied⟩ := rest all
          exact ⟨last, .cons ⟨reply, rfl, said.of_earlier grows⟩ replied⟩
        · obtain ⟨fault, member⟩ := breaks untaken
          exact ⟨fault, List.mem_cons_of_mem _ member⟩

end Steps

theorem exists_ok_of_forall₂ {repeats : Call → Reply → Prop} {calls : List Call}
    {replies : List (Except Fault Reply)} {reply : Except Fault Reply}
    (replied : List.Forall₂ (fun call reply => ∃ given, reply = .ok given ∧ repeats call given)
      calls replies) (member : reply ∈ replies) : ∃ given, reply = .ok given := by
  induction replied with
  | nil => cases member
  | cons first _ ih =>
      obtain ⟨given, answered, -⟩ := first
      rcases List.mem_cons.mp member with rfl | later
      · exact ⟨given, answered⟩
      · exact ih later

theorem remembers_empty (teller : Teller) : Remembers teller .empty :=
  ⟨List.nodup_nil, rfl⟩

theorem allTaken_empty (verbosity : Console.Verbosity) :
    AllTaken verbosity teller ProbeCache.empty.asked := by
  rintro before path behind split
  simp [empty] at split

/-- However a cache is called, and whatever its prober would say later, it asks once for each path
and stays with the first answer, unless the console refuses to print what is said of one. -/
theorem asksOnce_askAll_iff (verbosity : Console.Verbosity) (teller : Teller) (parallelism : Int)
    (calls : List Call) :
    (AsksOnce teller calls (askAll (heard verbosity teller) parallelism .empty calls) ↔
      AllTaken verbosity teller
        (askAll (heard verbosity teller) parallelism .empty calls).1.asked) ∧
    AsksOnce teller calls (askAll (fun before path => (teller before path).mapError .degraded)
      parallelism .empty calls) := by
  have exactly : ∀ verbosity,
      AsksOnce teller calls (askAll (heard verbosity teller) parallelism .empty calls) ↔
        AllTaken verbosity teller
          (askAll (heard verbosity teller) parallelism .empty calls).1.asked := by
    intro verbosity
    obtain ⟨answered, broken⟩ := goes_askAll (remembers_empty teller)
      (allTaken_empty verbosity) parallelism calls
    constructor
    · intro asksOnce
      by_contra untaken
      obtain ⟨fault, member⟩ := broken untaken
      obtain ⟨given, answered⟩ := exists_ok_of_forall₂ asksOnce.replied member
      cases answered
    · intro taken
      obtain ⟨remembers, replied⟩ := answered taken
      refine ⟨remembers.once, replied, fun path said known prober => ?_⟩
      rw [← remembers.outcomes] at known
      simp only [probe, known]
  have silently : (fun before path => (teller before path).mapError ProbeError.degraded) =
      heard .silent teller := by
    funext before path
    exact (heard_of_isTaken (isTaken_remark_silent path _)).symm
  refine ⟨exactly verbosity, ?_⟩
  rw [silently]
  exact (exactly .silent).mpr fun _ _ _ _ => isTaken_remark_silent _ _

section Refusals

def tagged : Teller := fun _ path => .error (.unreadable path.name "[/b]")

theorem isTagName_probe : Console.Markup.IsTagName "probe" := by
  refine .of_word ?_ ?_ ?_ ?_ ?_ ?_ ?_ <;> decide

theorem exists_heard_tagged (before : List Path) :
    ∃ fault, heard .normal tagged before (.ofString "a.mp4") = .error (.fault fault) := by
  have starts : (remark (.ofString "a.mp4") (tagged [] (.ofString "a.mp4"))).message.toList =
      Console.Markup.bracketed "probe".toList ++ (" unreadable ffprobe output for a.mp4: ".toList ++
        (Console.Markup.bracketed ['/', 'b'] ++ ", using fallback values".toList)) := by
    decide
  obtain ⟨fault, refused⟩ := Console.exists_announce_closingBold
    (rfl : Console.Verbosity.prints .normal .warning = true) isTagName_probe starts (by decide)
    (by decide) (by decide)
  refine exists_heard_of_not_isTaken fun taken => ?_
  exact absurd (taken.symm.trans refused) (by simp)

theorem askAll_twice {fault fault' : Fault} (first : hear [] path = .error (.fault fault))
    (second : hear [path] path = .error (.fault fault')) :
    askAll hear parallelism .empty [.one path, .one path] =
      (⟨[], [path, path], []⟩, [.error fault, .error fault']) := by
  simp [askAll, ask, probe, empty, first, second, Except.map]

/-- A path whose warning the console does not take is asked for again and again. -/
theorem not_asksOnce_tagged :
    let path : Path := .ofString "a.mp4"
    let outcome := askAll (heard .normal tagged) 4 .empty [.one path, .one path]
    outcome.1.asked = [path, path] ∧ (∃ fault fault', outcome.2 = [.error fault, .error fault']) ∧
      ¬ AsksOnce tagged [.one path, .one path] outcome := by
  obtain ⟨fault, first⟩ := exists_heard_tagged []
  obtain ⟨fault', second⟩ := exists_heard_tagged [.ofString "a.mp4"]
  dsimp only
  rw [askAll_twice first second]
  exact ⟨rfl, ⟨fault, fault', rfl⟩, fun asksOnce => by simpa using asksOnce.once⟩

end Refusals

end ProbeCache

end Montage
