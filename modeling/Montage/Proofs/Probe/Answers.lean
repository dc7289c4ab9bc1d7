import Montage.Probe.Cache
import Mathlib.Data.List.Basic

/-!
# What probing finds

A cache remembers what the prober said.  So what is found for a list of paths depends on the
prober and the list alone, and not on the order in which the paths are asked for.
-/

namespace Montage.ProbeCache

variable {prober : Prober} {cache : ProbeCache} {path : Path} {paths : List Path}
  {together : Bool} {outcomes : List (Path × Option ProbeResult)}

/-- What comes of probing a path; nothing does when the prober breaks off. -/
def outcome? (prober : Prober) (path : Path) : Option (Option ProbeResult) :=
  match prober path with
  | .ok result => some (some result)
  | .error (.degraded _) => some none
  | .error (.fault _) => none

theorem isSome_outcome?_iff :
    (outcome? prober path).isSome ↔ ∀ fault, prober path ≠ .error (.fault fault) := by
  unfold outcome?
  split <;> simp_all

def answers (prober : Prober) (paths : List Path) : List (Path × Option ProbeResult) :=
  paths.filterMap fun path => (outcome? prober path).map fun outcome => (path, outcome)

/-- A cache that remembers nothing but what the prober says. -/
def Faithful (prober : Prober) (cache : ProbeCache) : Prop :=
  ∀ entry ∈ cache.outcomes, outcome? prober entry.1 = some entry.2

theorem faithful_empty : Faithful prober .empty := by simp [Faithful, empty]

theorem outcome?_of_lookup (faithful : Faithful prober cache) {outcome : Option ProbeResult}
    (remembered : cache.outcomes.lookup path = some outcome) :
    outcome? prober path = some outcome := by
  rw [List.lookup_eq_some_iff] at remembered
  obtain ⟨before, after, split, -⟩ := remembered
  exact faithful (path, outcome) (by simp [split])

theorem Faithful.append (faithful : Faithful prober cache) {outcome : Option ProbeResult}
    (known : outcome? prober path = some outcome) {asked warnings : List _} :
    Faithful prober ⟨cache.outcomes ++ [(path, outcome)], asked, warnings⟩ := by
  intro entry member
  rcases List.mem_append.mp member with old | new
  · exact faithful entry old
  · rw [List.mem_singleton.mp new]
    exact known

/-- A faithful cache gives what the prober says, and stays faithful. -/
theorem probe_spec (faithful : Faithful prober cache) (path : Path) :
    match outcome? prober path with
    | some outcome => ∃ after, probe prober cache path = (after, .ok outcome) ∧
        Faithful prober after
    | none => ∃ after fault, probe prober cache path = (after, .error fault) := by
  unfold probe
  cases remembered : cache.outcomes.lookup path with
  | some outcome =>
      rw [outcome?_of_lookup faithful remembered]
      exact ⟨cache, rfl, faithful⟩
  | none =>
      cases said : prober path with
      | ok result =>
          have known : outcome? prober path = some (some result) := by simp [outcome?, said]
          rw [known]
          exact ⟨_, rfl, faithful.append known⟩
      | error reason =>
          cases reason with
          | degraded failure =>
              have known : outcome? prober path = some none := by simp [outcome?, said]
              rw [known]
              exact ⟨_, rfl, faithful.append known⟩
          | fault fault =>
              have unknown : outcome? prober path = none := by simp [outcome?, said]
              rw [unknown]
              exact ⟨_, fault, rfl⟩

theorem probeEach_ok_iff (faithful : Faithful prober cache) :
    (probeEach prober together cache paths).2 = .ok outcomes ↔
      (∀ path ∈ paths, (outcome? prober path).isSome) ∧ outcomes = answers prober paths := by
  induction paths generalizing cache outcomes with
  | nil =>
      rw [probeEach, answers, List.filterMap_nil, Except.ok.injEq]
      exact ⟨fun same => ⟨by simp, same.symm⟩, fun all => all.2.symm⟩
  | cons path paths ih =>
      have spec := probe_spec faithful path
      cases known : outcome? prober path with
      | none =>
          rw [known] at spec
          obtain ⟨after, fault, probed⟩ := spec
          have fails : (probeEach prober together cache (path :: paths)).2 = .error fault := by
            cases together <;> simp [probeEach, probed]
          simp [fails, known]
      | some outcome =>
          rw [known] at spec
          obtain ⟨after, probed, faithful⟩ := spec
          have rest : (probeEach prober together after paths).2 = .ok (answers prober paths) ↔ _ :=
            ih faithful
          have first : answers prober (path :: paths) =
              (path, outcome) :: answers prober paths := by simp [answers, known]
          cases behind : probeEach prober together after paths with
          | mk last result =>
              rw [behind] at rest
              cases result with
              | error fault =>
                  have missing : ¬ ∀ path ∈ paths, (outcome? prober path).isSome := by
                    simpa using rest
                  simp only [probeEach, probed, behind, List.forall_mem_cons]
                  exact iff_of_false (by simp) fun all => missing all.1.2
              | ok found =>
                  have succeeds : (probeEach prober together after paths).2 = .ok found := by
                    rw [behind]
                  have exactly := (ih faithful).mp succeeds
                  simp only [probeEach, probed, behind, Except.ok.injEq, first,
                    List.forall_mem_cons, known, Option.isSome_some, true_and]
                  rw [exactly.2]
                  exact ⟨fun same => ⟨exactly.1, same.symm⟩, fun all => all.2.symm⟩

/-- A cached probe is answered unless its path is asked for and breaks off. -/
theorem probe_ok_iff :
    (∃ outcome, (probe prober cache path).2 = .ok outcome) ↔
      (cache.outcomes.lookup path).isSome ∨ ∀ fault, prober path ≠ .error (.fault fault) := by
  unfold probe
  cases remembered : cache.outcomes.lookup path with
  | some outcome => simp
  | none =>
      cases said : prober path with
      | ok result => simp
      | error reason => cases reason <;> simp

theorem mem_distinct : path ∈ distinct paths ↔ path ∈ paths := by
  have step : ∀ seen : List Path, path ∈ paths.foldl
      (fun seen path => if path ∈ seen then seen else seen ++ [path]) seen ↔
        path ∈ seen ∨ path ∈ paths := by
    induction paths with
    | nil => simp
    | cons first paths ih =>
        intro seen
        rw [List.foldl_cons, ih]
        by_cases known : first ∈ seen
        · rw [if_pos known, List.mem_cons]
          constructor
          · exact Or.imp_right .inr
          · rintro (here | rfl | later)
            exacts [.inl here, .inl known, .inr later]
        · simp [known, or_assoc]
  exact (step []).trans (by simp)

theorem lookup_answers :
    (answers prober paths).lookup path = if path ∈ paths then outcome? prober path else none := by
  induction paths with
  | nil => rfl
  | cons first paths ih =>
      simp only [answers, List.filterMap_cons, List.mem_cons] at ih ⊢
      by_cases here : path = first
      · subst here
        cases known : outcome? prober path with
        | none => simpa [known] using ih
        | some outcome => simp
      · have apart : (path == first) = false := beq_eq_false_iff_ne.mpr here
        cases known : outcome? prober first with
        | none => simpa [here] using ih
        | some outcome => simpa [List.lookup_cons, apart, here] using ih

theorem nodup_distinct (paths : List Path) : (distinct paths).Nodup := by
  have step : ∀ seen : List Path, seen.Nodup → (paths.foldl
      (fun seen path => if path ∈ seen then seen else seen ++ [path]) seen).Nodup := by
    induction paths with
    | nil => exact fun seen once => once
    | cons first paths ih =>
        intro seen once
        rw [List.foldl_cons]
        split
        next => exact ih seen once
        next new =>
          refine ih _ (List.nodup_append.mpr ⟨once, by simp, ?_⟩)
          rintro path member other here rfl
          exact new (List.mem_singleton.mp here ▸ member)
  exact step [] List.nodup_nil

/-- Probing succeeds when no path breaks the prober off, and then every path is looked up to what
the prober says of it. -/
theorem probeMany_ok_iff (parallelism : Int) :
    (∃ after, probeMany prober parallelism .empty paths = (after, .ok outcomes)) ↔
      (∀ path ∈ paths, (outcome? prober path).isSome) ∧
        outcomes = answers prober (distinct paths) := by
  have each : (probeMany prober parallelism .empty paths).2 = .ok outcomes ↔ _ :=
    probeEach_ok_iff faithful_empty
  simp only [mem_distinct] at each
  rw [← each]
  exact ⟨fun ⟨after, probed⟩ => congrArg Prod.snd probed, fun found => ⟨_, Prod.ext rfl found⟩⟩

section Asked

def Answered (prober : Prober) (cache : ProbeCache) : Prop :=
  ∀ path ∈ cache.asked, (outcome? prober path).isSome

theorem answered_empty : Answered prober .empty := by simp [Answered, empty]

theorem asked_prefix_probe (prober : Prober) (cache : ProbeCache) (path : Path) :
    cache.asked <+: (probe prober cache path).1.asked := by
  unfold probe
  split
  · exact List.prefix_refl _
  · split <;> exact List.prefix_append _ _

theorem asked_subset_probeEach (prober : Prober) (together : Bool) (cache : ProbeCache)
    (paths : List Path) : cache.asked ⊆ (probeEach prober together cache paths).1.asked := by
  induction paths generalizing cache with
  | nil => exact fun _ member => member
  | cons path paths ih =>
      have first := (asked_prefix_probe prober cache path).subset
      unfold probeEach
      split
      next middle outcome probed =>
        rw [probed] at first
        have rest := List.Subset.trans first (ih middle)
        split <;> simp_all
      next middle fault probed =>
        rw [probed] at first
        split
        · exact List.Subset.trans first (ih middle)
        · exact first

/-- A probe breaks off when a path that it asks for has no outcome. -/
theorem answered_probe_iff (answered : Answered prober cache) (path : Path) :
    Answered prober (probe prober cache path).1 ↔
      ∃ outcome, (probe prober cache path).2 = .ok outcome := by
  have asks : ∀ {outcomes : List (Path × Option ProbeResult)} {warnings : List String},
      Answered prober ⟨outcomes, cache.asked ++ [path], warnings⟩ ↔
        (outcome? prober path).isSome := by
    intro outcomes warnings
    simp only [Answered, List.forall_mem_append, List.forall_mem_singleton]
    exact and_iff_right answered
  unfold probe
  cases remembered : cache.outcomes.lookup path with
  | some outcome => simpa using answered
  | none =>
      cases said : prober path with
      | ok result => simp [asks, outcome?, said]
      | error reason => cases reason <;> simp [asks, outcome?, said]

theorem answered_probeEach_iff (answered : Answered prober cache) (paths : List Path) :
    Answered prober (probeEach prober together cache paths).1 ↔
      ∃ outcomes, (probeEach prober together cache paths).2 = .ok outcomes := by
  induction paths generalizing cache with
  | nil => simpa [probeEach] using answered
  | cons path paths ih =>
      have first := answered_probe_iff answered path
      unfold probeEach
      rcases probed : probe prober cache path with ⟨middle, fault | outcome⟩
      · have broken : ¬ Answered prober middle := by simpa [probed] using first
        cases together with
        | false => simpa using broken
        | true =>
            -- The remaining paths are asked for as well, and nothing is forgotten.
            refine iff_of_false (fun all => broken fun path asked => all path ?_) (by simp)
            exact asked_subset_probeEach prober true middle paths asked
      · rw [probed] at first
        have rest := ih (first.mpr ⟨outcome, rfl⟩)
        dsimp only
        rcases behind : probeEach prober together middle paths with ⟨last, fault | outcomes⟩
        · simpa [behind] using rest
        · simpa [behind] using rest

theorem answered_probeMany_iff (prober : Prober) (parallelism : Int) (paths : List Path) :
    Answered prober (probeMany prober parallelism .empty paths).1 ↔
      ∃ outcomes, (probeMany prober parallelism .empty paths).2 = .ok outcomes :=
  answered_probeEach_iff answered_empty _

end Asked

section Fresh

variable (answering : ∀ path fault, prober path ≠ .error (.fault fault))

def Recalls (cache : ProbeCache) : Prop := cache.outcomes.map Prod.fst = cache.asked

include answering

theorem probe_fresh (recalls : cache.Recalls) (new : path ∉ cache.asked) :
    ∃ after outcome, probe prober cache path = (after, .ok outcome) ∧ after.Recalls ∧
      after.asked = cache.asked ++ [path] := by
  have unknown : cache.outcomes.lookup path = none := by
    rw [List.lookup_eq_none_iff]
    intro entry member
    have asked : entry.1 ∈ cache.asked := by
      rw [← show cache.outcomes.map Prod.fst = cache.asked from recalls]
      exact List.mem_map_of_mem member
    exact bne_iff_ne.mpr fun same => new (same ▸ asked)
  have remembered : ∀ outcome : Option ProbeResult,
      (cache.outcomes ++ [(path, outcome)]).map Prod.fst = cache.asked ++ [path] := by
    intro outcome
    rw [List.map_append, show cache.outcomes.map Prod.fst = cache.asked from recalls]
    rfl
  unfold probe
  rw [unknown]
  cases said : prober path with
  | ok result => exact ⟨_, _, rfl, remembered (some result), rfl⟩
  | error reason =>
      cases reason with
      | degraded failure => exact ⟨_, _, rfl, remembered none, rfl⟩
      | fault fault => exact absurd said (answering path fault)

/-- New paths are asked for one after the other, each once. -/
theorem asked_probeEach (recalls : cache.Recalls) (together : Bool) (once : paths.Nodup)
    (new : ∀ path ∈ paths, path ∉ cache.asked) :
    (probeEach prober together cache paths).1.asked = cache.asked ++ paths := by
  induction paths generalizing cache with
  | nil => rw [probeEach, List.append_nil]
  | cons path paths ih =>
      obtain ⟨apart, once⟩ := List.nodup_cons.mp once
      obtain ⟨here, others⟩ := List.forall_mem_cons.mp new
      obtain ⟨after, outcome, probed, recalls, asked⟩ := probe_fresh answering recalls here
      -- The others are new to the cache that has asked for the first, since they are not it.
      have rest : (probeEach prober together after paths).1.asked = after.asked ++ paths := by
        refine ih recalls once fun other member => ?_
        rw [asked, List.mem_append, List.mem_singleton, not_or]
        exact ⟨others other member, fun same => apart (same ▸ member)⟩
      rw [asked, List.append_assoc, List.singleton_append] at rest
      rw [← rest, probeEach, probed]
      dsimp only
      split <;> simp_all

/-- Where no probe breaks off it does not matter whether paths are probed together. -/
theorem probeEach_congr (cache : ProbeCache) (paths : List Path) (together together' : Bool) :
    probeEach prober together cache paths = probeEach prober together' cache paths := by
  induction paths generalizing cache with
  | nil => rfl
  | cons path paths ih =>
      have answered : ∃ outcome, (probe prober cache path).2 = .ok outcome :=
        probe_ok_iff.mpr (.inr (answering path))
      rcases probed : probe prober cache path with ⟨after, result⟩
      rw [probed] at answered
      obtain ⟨outcome, rfl⟩ := answered
      rw [probeEach, probeEach, probed]
      dsimp only
      rw [ih after]

theorem asked_probeMany (parallelism : Int) (paths : List Path) :
    (probeMany prober parallelism .empty paths).1.asked = distinct paths := by
  have fresh : ∀ path ∈ distinct paths, path ∉ ProbeCache.empty.asked := by simp [empty]
  have recalls : ProbeCache.empty.Recalls := rfl
  exact asked_probeEach answering recalls _ (nodup_distinct paths) fresh

theorem probeMany_congr (cache : ProbeCache) (paths : List Path) (parallelism parallelism' : Int) :
    probeMany prober parallelism cache paths = probeMany prober parallelism' cache paths :=
  probeEach_congr answering cache (distinct paths) _ _

end Fresh

end Montage.ProbeCache
