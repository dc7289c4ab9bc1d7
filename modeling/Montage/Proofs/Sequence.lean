import Mathlib.Logic.Basic

/-!
# Steps in sequence

A sequence of steps that may fail succeeds exactly when each of them does.
-/

namespace Montage

/-- Two steps succeed in sequence when the second succeeds on what the first gives. -/
theorem bind_eq_ok_iff {ε α β : Type} {first : Except ε α} {second : α → Except ε β}
    {result : β} :
    first >>= second = .ok result ↔
      ∃ middle, first = .ok middle ∧ second middle = .ok result := by
  cases first with
  | error reason => simp [bind, Except.bind]
  | ok middle => simp [bind, Except.bind]

/-- Two steps fail in sequence when the first does, or the second on what the first gives. -/
theorem bind_eq_error_iff {ε α β : Type} {first : Except ε α} {second : α → Except ε β}
    {reason : ε} :
    first >>= second = .error reason ↔
      first = .error reason ∨ ∃ middle, first = .ok middle ∧ second middle = .error reason := by
  cases first with
  | error other => simp [bind, Except.bind]
  | ok middle => simp [bind, Except.bind]

theorem toOption_eq_some_iff {ε α : Type} {outcome : Except ε α} {result : α} :
    outcome.toOption = some result ↔ outcome = .ok result := by
  cases outcome <;> simp [Except.toOption]

@[simp]
theorem mapError_eq_ok_iff {ε ε' α : Type} {tell : ε → ε'} {outcome : Except ε α}
    {result : α} : outcome.mapError tell = .ok result ↔ outcome = .ok result := by
  cases outcome with
  | error reason =>
      change Except.error (tell reason) = .ok result ↔ _
      simp
  | ok value =>
      change Except.ok value = .ok result ↔ _
      simp

/-- Steps in sequence give the image of what others give when each of them does. -/
theorem bind_eq_map_bind {ε α β γ δ : Type} {first : Except ε α} {second : α → Except ε β}
    {first' : Except ε γ} {second' : γ → Except ε δ} {image : α → γ} {image' : β → δ}
    (same : first' = first.map image)
    (same' : ∀ middle, second' (image middle) = (second middle).map image') :
    first' >>= second' = (first >>= second).map image' := by
  cases first with
  | error reason => simp [same, Except.map, bind, Except.bind]
  | ok middle => simpa [same, Except.map, bind, Except.bind] using same' middle

/-- What every step keeps holds after all of them, of the items that were passed. -/
theorem foldlM_invariant {ε σ α : Type} {step : σ → α → Except ε σ}
    (holds : σ → List α → Prop)
    (keeps : ∀ state passed item after, holds state passed →
      step state item = .ok after → holds after (passed ++ [item]))
    {items : List α} {state after : σ} {passed : List α} (start : holds state passed)
    (run : items.foldlM step state = .ok after) : holds after (passed ++ items) := by
  induction items generalizing state passed with
  | nil =>
      simp only [List.foldlM_nil, pure, Except.pure, Except.ok.injEq] at run
      simpa [run] using start
  | cons item items ih =>
      rw [List.foldlM_cons, bind_eq_ok_iff] at run
      obtain ⟨middle, first, rest⟩ := run
      have next := ih (keeps state passed item middle start first) rest
      simpa using next

theorem mapM_map_eq_some {α β : Type} {write : α → β} {read : β → Option α}
    {items : List α} (reads : ∀ item ∈ items, read (write item) = some item) :
    (items.map write).mapM read = some items := by
  induction items with
  | nil => rfl
  | cons item items ih =>
      have first := reads item List.mem_cons_self
      have rest := ih fun other member => reads other (List.mem_cons_of_mem _ member)
      simp [first, rest]

/-- A step that never fails gives one result for each item. -/
theorem mapM_eq_ok_map {ε α β : Type} {step : α → Except ε β} {result : α → β} {items : List α}
    (steps : ∀ item ∈ items, step item = .ok (result item)) :
    items.mapM step = .ok (items.map result) := by
  induction items with
  | nil => rfl
  | cons item items ih =>
      have first := steps item List.mem_cons_self
      have rest := ih fun other member => steps other (List.mem_cons_of_mem _ member)
      rw [List.mapM_cons, first, rest]
      rfl

end Montage
