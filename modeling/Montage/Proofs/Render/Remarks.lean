import Montage.Proofs.Console.Message
import Montage.Proofs.Numeric.Digits
import Montage.Render.Remarks

/-!
# Remarks that the console takes

A compilation goes on as long as the console takes what is said.  The remarks on the timeline
and on the graph are made of numbers, and it takes them always.  Names of files and lines of
subtitles come from outside, and their brackets may be style tags that do not fit together.
-/

namespace Montage

namespace Remark

variable {verbosity : Console.Verbosity} {remark : Remark}

/-- Whether the console takes a remark, and prints it unless it is too quiet for it. -/
def IsTaken (verbosity : Console.Verbosity) (remark : Remark) : Prop :=
  Console.announce verbosity remark.level remark.message = .ok ()

theorem printAll_eq_none_iff (verbosity : Console.Verbosity) (remarks : List Remark) :
    (printAll verbosity remarks).2 = none ↔ ∀ remark ∈ remarks, remark.IsTaken verbosity := by
  induction remarks with
  | nil => simp [printAll]
  | cons remark remarks ih =>
      rw [List.forall_mem_cons, ← ih]
      unfold IsTaken Console.announce
      cases printed : Console.line verbosity remark.level remark.message <;>
        simp [printAll, printed]

theorem isTaken_silent (notError : remark.level ≠ .error) : remark.IsTaken .silent := by
  have unprinted : Console.Verbosity.prints .silent remark.level = false := by
    cases level : remark.level <;> first | rfl | exact absurd level notError
  simp [IsTaken, Console.announce, Console.line, unprinted]

end Remark

namespace Render

theorem isTagName_timeline : Console.Markup.IsTagName "timeline" := by
  refine .of_word ?_ ?_ ?_ ?_ ?_ ?_ ?_ <;> decide

theorem isTagName_graph : Console.Markup.IsTagName "graph" := by
  refine .of_word ?_ ?_ ?_ ?_ ?_ ?_ ?_ <;> decide

theorem isTaken_timelineRemark (verbosity : Console.Verbosity) (timeline : ResolvedTimeline) :
    (timelineRemark timeline).IsTaken verbosity := by
  have starts : (timelineRemark timeline).message.toList =
      Console.Markup.bracketed "timeline".toList ++ (" ".toList ++
        (Decimal.ofInt timeline.items.length).toList ++ " items, total ".toList ++
        (Decimal.fixedText 2 timeline.totalDuration).toList ++ "s".toList) := by
    simp [timelineRemark, Console.Markup.bracketed]
  have apart : "timeline" ≠ Console.Level.debug.tag := by decide
  refine Console.announce_of_not_mem verbosity isTagName_timeline apart starts ?_
  simp [Decimal.not_mem_ofInt_natCast, Decimal.not_mem_fixedText]

theorem isTaken_graphRemark (verbosity : Console.Verbosity) (graph : Filter.Graph) :
    (graphRemark graph).IsTaken verbosity := by
  have starts : (graphRemark graph).message.toList =
      Console.Markup.bracketed "graph".toList ++ (" ".toList ++
        (Decimal.ofInt graph.inputs.length).toList ++ " inputs, ".toList ++
        (Decimal.ofInt graph.program.statements.length).toList ++ " statements".toList) := by
    simp [graphRemark, Console.Markup.bracketed]
  have apart : "graph" ≠ Console.Level.debug.tag := by decide
  refine Console.announce_of_not_mem verbosity isTagName_graph apart starts ?_
  simp [Decimal.not_mem_ofInt_natCast]

theorem isTaken_subtitleRemarks_silent {spec : RenderSpec} :
    ∀ remark ∈ subtitleRemarks spec, remark.IsTaken .silent := by
  intro remark member
  obtain ⟨message, -, rfl⟩ := List.mem_map.mp member
  exact Remark.isTaken_silent (by simp)

theorem isTaken_probeRemarks_silent {prober : Prober} {path : Path} :
    ∀ remark ∈ probeRemarks prober path, remark.IsTaken .silent := by
  have quiet : ∀ remark ∈ probeRemarks prober path,
      remark.level = .debug ∨ remark.level = .warning := by
    unfold probeRemarks
    split <;> simp
  intro remark member
  apply Remark.isTaken_silent
  rcases quiet remark member with debug | warning
  · simp [debug]
  · simp [warning]

end Render

end Montage
