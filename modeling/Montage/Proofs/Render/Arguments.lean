import Montage.Proofs.Numeric.Digits
import Montage.Proofs.Storage.Paths
import Montage.Proofs.Wire.Accepted
import Montage.Render.Plan

/-!
# Arguments of accepted requests

The quality and the extension of a request reach the encoder as they were accepted.  An extension
is spelled out in small letters and digits.  A quality may have digits of any script, and the
encoder can read it only if they are those of ASCII.
-/

namespace Montage

/-- Arguments that the encoder takes for a constant rate factor: numerals in ASCII, up to the
greatest quality. -/
structure IsRate (argument : String) : Prop where
  filled : argument ≠ ""
  digits : ∀ character ∈ argument.toList, character.isDigit = true
  value : Nat.ofDigitChars 10 argument.toList 0 ≤ 51

namespace Wire.RenderRequest

theorem IsQuality.isRate_iff {quality : String} (accepted : IsQuality quality) :
    IsRate quality ↔ ∀ character ∈ quality.toList, character.isDigit = true := by
  refine ⟨IsRate.digits, fun digits => ⟨accepted.filled, digits, ?_⟩⟩
  obtain ⟨value, reads, atMost⟩ := accepted.value
  have filled : quality.toList ≠ [] := by simpa using accepted.filled
  rw [Numeral.int?_ofDigitChars digits filled accepted.short] at reads
  have same : (Nat.ofDigitChars 10 quality.toList 0 : Int) = value := Option.some.inj reads
  have greatest : greatestQuality = 51 := rfl
  omega

theorem IsExtension.not_mem {extension : String} (accepted : IsExtension extension)
    {character : Char} (other : isExtensionCharacter character = false) :
    character ∉ extension.toList := by
  intro member
  simp [accepted.letters character member] at other

end Wire.RenderRequest

namespace Render

open Wire.RenderRequest

variable {config : Config} {assets : AssetLookup} {prober : Prober} {directory : Path}
  {name : String} {spec : RenderSpec} {timeline : ResolvedTimeline} {plan : RenderPlan}
  {document : Json}

theorem plan_of_compile
    (compiled : (compile config assets prober directory name spec).2 = .ok plan) :
    ∃ timeline, Render.plan config directory name spec timeline = .ok plan := by
  unfold compile at compiled
  dsimp only at compiled
  split at compiled
  next => cases compiled
  next timeline _ => exact ⟨timeline, compiled⟩

theorem exists_command (encoding : EncodingConfig) (graph : Filter.Graph) (output : Path)
    (quality extension : String) :
    ∃ before behind, Encode.command encoding graph output quality extension =
      before ++ "-crf" :: quality :: (behind ++ [output.toString]) := by
  let movable : List String :=
    if Text.lowercase extension ∈ Encode.streamableExtensions then ["-movflags", "+faststart"]
    else []
  refine ⟨["ffmpeg", "-y", "-hide_banner"] ++ graph.inputs.flatMap Filter.MediaInput.arguments ++
      ["-filter_complex", graph.program.render] ++ Encode.mapArguments graph ++
      ["-c:v", encoding.videoCodec],
    (Encode.videoArguments encoding quality).drop 4 ++ movable ++
      Encode.audioArguments encoding graph ++ ["-progress", "pipe:1", "-nostats"], ?_⟩
  simp [Encode.command, Encode.videoArguments, movable]

theorem command_of_plan (planned : Render.plan config directory name spec timeline = .ok plan) :
    plan.output = outputPath directory name spec ∧
      ∃ before behind, plan.command =
        before ++ "-crf" :: spec.quality :: (behind ++ [plan.output.toString]) := by
  unfold Render.plan at planned
  split at planned
  next => cases planned
  next graph _ =>
    obtain rfl := Except.ok.inj planned
    exact ⟨rfl, exists_command config.encoding graph _ spec.quality spec.extension⟩

/-- An output whose name has no slash stands in its directory, with the extension as suffix. -/
theorem outputPath_of_isExtension (directory : Path) (accepted : IsExtension spec.extension)
    (absent : '/' ∉ name.toList) (filled : name ≠ "") :
    (outputPath directory name spec).parent = directory ∧
      (outputPath directory name spec).name = name ++ "." ++ spec.extension ∧
      (outputPath directory name spec).suffix = "." ++ spec.extension := by
  have characters : (name ++ "." ++ spec.extension).toList =
      name.toList ++ '.' :: spec.extension.toList := by
    simp
  have filled' : name.toList ≠ [] := by simpa using filled
  have written : s!"{name}.{spec.extension}" = name ++ "." ++ spec.extension := rfl
  have absent' : '/' ∉ (name ++ "." ++ spec.extension).toList := by
    have plain : '/' ∉ spec.extension.toList := accepted.not_mem (by decide)
    rw [characters]
    simp [absent, plain]
  have moves : name ++ "." ++ spec.extension ≠ "." := by
    intro same
    have lengths := congrArg (fun text => text.toList.length) same
    have long := List.length_pos_iff.mpr filled'
    rw [characters] at lengths
    simp at lengths
    omega
  have placed : outputPath directory name spec =
      ⟨directory.root, directory.parts ++ [name ++ "." ++ spec.extension]⟩ := by
    rw [outputPath, written]
    exact Path.child_of_not_mem absent' (fun empty => by simp [empty] at characters) moves
  have last : (outputPath directory name spec).name = name ++ "." ++ spec.extension := by
    rw [placed, Path.name, List.getLast?_concat, Option.getD_some]
  refine ⟨?_, last, ?_⟩
  · rw [placed, Path.parent, List.dropLast_concat]
  · have cut := Path.cutSuffix_append filled' (by simpa using accepted.filled)
      (accepted.not_mem (by decide))
    rw [Path.suffix, last, characters, cut, String.ofList_cons, String.ofList_toList]
    rfl

/-- The arguments of an accepted request that is compiled: the output lies in its directory and has
a readable extension, and the quality is a number within range, in the digits of the request.  It is
a rate that the encoder takes exactly when these are ASCII digits. -/
theorem rate_iff_of_compile (read : specOf document = .ok spec)
    (compiled : (compile config assets prober directory name spec).2 = .ok plan)
    (absent : '/' ∉ name.toList) (filled : name ≠ "") :
    (∃ before behind, plan.command =
      before ++ "-crf" :: spec.quality :: (behind ++ [plan.output.toString])) ∧
    (IsRate spec.quality ↔ ∀ given, document.get? "quality" = some given →
      ∀ character ∈ (Text.trim given.display).toList, character.isDigit = true) ∧
    IsQuality spec.quality ∧ plan.output.parent = directory ∧
    plan.output.name = name ++ "." ++ spec.extension ∧
    plan.output.suffix = "." ++ spec.extension ∧ IsExtension spec.extension := by
  obtain ⟨timeline, planned⟩ := plan_of_compile compiled
  obtain ⟨output, command⟩ := command_of_plan planned
  obtain ⟨accepted, written⟩ := isQuality_of_specOf read
  have accepted' := isExtension_of_specOf read
  obtain ⟨parent, named, suffix⟩ :=
    outputPath_of_isExtension directory accepted' absent filled
  refine ⟨command, ?_, accepted, output ▸ parent, output ▸ named, output ▸ suffix, accepted'⟩
  rw [accepted.isRate_iff, written]
  cases document.get? "quality" with
  | none =>
      have digits : "23".toList.all Char.isDigit = true := by decide
      exact ⟨fun _ given known => (Option.some_ne_none given known.symm).elim,
        fun _ => List.all_eq_true.mp digits⟩
  | some given => simp

def stillRequest (quality extension : String) : Json :=
  .object [("quality", .text quality), ("extension", .text extension),
    ("timeline", .array [.object [("type", .text "image"), ("filename", .text "still.png"),
      ("duration", .integer 1)]])]

/-- The composition and the plan of a request, where assets are files of their own names. -/
def compiled? (document : Json) : Option (RenderSpec × RenderPlan) := do
  let spec ← (specOf document).toOption
  let plan ← (compile {} (fun name => .ok (.ofString name)) (fun _ => .ok ⟨0, false, false, 0, 0⟩)
    (.ofString "/out") "out-1" spec).2.toOption
  return (spec, plan)

theorem of_compiled? (found : compiled? document = some (spec, plan)) :
    specOf document = .ok spec ∧
      (compile {} (fun name => .ok (.ofString name)) (fun _ => .ok ⟨0, false, false, 0, 0⟩)
        (.ofString "/out") "out-1" spec).2 = .ok plan := by
  obtain ⟨other, read, rest⟩ := Option.bind_eq_some_iff.mp found
  obtain ⟨other', compiled, same⟩ := Option.bind_eq_some_iff.mp rest
  obtain ⟨rfl, rfl⟩ := Prod.mk.inj (Option.some.inj same)
  exact ⟨toOption_eq_some_iff.mp read, toOption_eq_some_iff.mp compiled⟩

/-- Digits with white space around them, and an extension with a dot in capitals. -/
theorem rate_iff_of_compile_spaced :
    ∃ spec plan, compiled? (stillRequest " 18 " ".MKV") = some (spec, plan) ∧
      IsRate spec.quality ∧ plan.output.suffix = "." ++ spec.extension := by
  have computed : (compiled? (stillRequest " 18 " ".MKV")).isSome := by decide +kernel
  obtain ⟨⟨spec, plan⟩, found⟩ := Option.isSome_iff_exists.mp computed
  obtain ⟨read, compiled⟩ := of_compiled? found
  obtain ⟨-, rate, -, -, -, suffix, -⟩ :=
    rate_iff_of_compile read compiled (by decide) (by decide)
  refine ⟨spec, plan, found, rate.mpr ?_, suffix⟩
  intro given known
  obtain rfl : .text " 18 " = given := Option.some.inj known
  have digits : (Text.trim " 18 ").toList.all Char.isDigit = true := by decide
  exact List.all_eq_true.mp digits

theorem mem_zip_tail {α : Type} (before : List α) (first second : α) (behind : List α) :
    (first, second) ∈ (before ++ first :: second :: behind).zip
      (before ++ first :: second :: behind).tail := by
  induction before with
  | nil => simp
  | cons other before ih =>
      cases rest : before ++ first :: second :: behind with
      | nil => simp at rest
      | cons next rest' =>
          rw [rest, List.tail_cons] at ih
          rw [List.cons_append, rest, List.tail_cons, List.zip_cons_cons]
          exact List.mem_cons_of_mem _ ih

/-- A quality in Arabic digits is accepted and compiled, and no rate is given to the encoder. -/
theorem not_rate_arabicDigits :
    ∃ spec plan, compiled? (stillRequest "٢٣" "mp4") = some (spec, plan) ∧
      ∀ before argument behind, plan.command = before ++ "-crf" :: argument :: behind →
        ¬ IsRate argument := by
  have computed : (compiled? (stillRequest "٢٣" "mp4")).map (fun (_, plan) =>
      (plan.command.zip plan.command.tail).all fun pair =>
        pair.1 != "-crf" || pair.2 == "٢٣") = some true := by
    decide +kernel
  obtain ⟨⟨spec, plan⟩, found, only⟩ := Option.map_eq_some_iff.mp computed
  refine ⟨spec, plan, found, fun before argument behind same rate => ?_⟩
  have together : ("-crf", argument) ∈ plan.command.zip plan.command.tail := by
    rw [same]
    exact mem_zip_tail before "-crf" argument behind
  obtain rfl : argument = "٢٣" := by
    simpa using List.all_eq_true.mp only _ together
  have other : "٢٣".toList.all Char.isDigit = false := by decide
  rw [List.all_eq_true.mpr rate.digits] at other
  cases other

end Render

end Montage
