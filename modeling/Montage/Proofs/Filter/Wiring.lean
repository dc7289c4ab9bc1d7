import Montage.Proofs.Filter.Chains

/-!
# Wiring of statements

Every statement that a graph is built from reads as its own chains, however its text is
written: one chain, or one for each segment of a join and one for the join itself.  The
pads around them are the labels and streams of the statement.  A program is split into the
chains of its statements.
-/

namespace Montage

/-- Whether the colours of a style stand for themselves in a filter graph. -/
def TextStyle.IsPlain (style : TextStyle) : Prop :=
  ∀ color ∈ style.fontColor :: (style.borderColor.toList ++ style.boxColor.toList),
    Filter.Plain color

theorem TextStyle.isPlain_of_find? {name : String} {fontSize : Option Int}
    {style : TextStyle} (found : find? name fontSize = some style) : style.IsPlain := by
  have presetsPlain : ∀ entry ∈ presets, ∀ color ∈ entry.2.fontColor ::
      (entry.2.borderColor.toList ++ entry.2.boxColor.toList), Filter.Plain color := by
    decide
  simp only [find?, Option.map_eq_some_iff] at found
  obtain ⟨preset, listed, sized⟩ := found
  obtain ⟨before, after, entries, -⟩ := List.lookup_eq_some_iff.mp listed
  have plain := presetsPlain _ (entries ▸ List.mem_append_right before List.mem_cons_self)
  cases fontSize with
  | none => exact sized ▸ plain
  | some size =>
      simp only at sized
      split at sized <;> exact sized ▸ plain

namespace Filter

/-- Every option of a drawing is legible, whatever text, place and font it has. -/
theorem Drawing.legible_of_mem_options {drawing : Drawing} (plain : drawing.style.IsPlain)
    {option : String} (member : option ∈ drawing.options) : Legible option := by
  have quoted : ∀ name value, Plain name → Legible (name ++ quote value) :=
    fun name value plain => (legible_of_plain plain).append (legible_quote value)
  have number : ∀ name value, Plain name → Legible (name ++ Decimal.ofInt value) :=
    fun name value plain => legible_of_plain (plain_append.mpr ⟨plain, plain_ofInt value⟩)
  have colored : ∀ name color, Plain name → color ∈ drawing.style.fontColor ::
      (drawing.style.borderColor.toList ++ drawing.style.boxColor.toList) →
      Legible (name ++ color) := fun name color plain' member =>
    legible_of_plain (plain_append.mpr ⟨plain', plain color member⟩)
  simp only [options, List.mem_append] at member
  rcases member with ((font | main) | border) | box
  · split at font
    · rw [List.mem_singleton.mp font]
      exact quoted _ _ (by decide)
    · simp at font
  · simp only [List.mem_cons, List.not_mem_nil, or_false] at main
    rcases main with rfl | rfl | rfl | rfl | rfl | rfl
    · exact number _ _ (by decide)
    · exact colored _ _ (by decide) List.mem_cons_self
    · exact quoted _ _ (by decide)
    · exact quoted _ _ (by decide)
    · rw [quoteText_eq_quote]
      exact quoted _ _ (by decide)
    · exact quoted _ _ (by decide)
  · split at border
    next color given =>
      have chosen := (Option.filter_eq_some_iff.mp given).1
      split at border
      · simp at border
      · simp only [List.mem_cons, List.not_mem_nil, or_false] at border
        rcases border with rfl | rfl
        · exact colored _ _ (by decide) (by simp [chosen])
        · exact number _ _ (by decide)
    next => simp at border
  · split at box
    next color given =>
      have chosen := (Option.filter_eq_some_iff.mp given).1
      simp only [List.mem_append, List.mem_cons, List.not_mem_nil, or_false] at box
      rcases box with (rfl | rfl) | width
      · exact legible_of_plain (by decide)
      · exact colored _ _ (by decide) (by simp [chosen])
      · split at width
        · simp at width
        · rw [List.mem_singleton.mp width]
          exact number _ _ (by decide)
    next => simp at box

theorem Drawing.shows {drawing : Drawing} (plain : drawing.style.IsPlain) :
    Shows "drawtext=" ("drawtext=" ++ Text.join ":" drawing.options) := by
  refine Legible.shows (by decide) (Legible.join (by decide) ?_)
  exact fun _ => legible_of_mem_options plain

namespace Operation

/-- Whether an operation writes filters of its own on so many inputs. -/
def Sound (count : Nat) : Operation → Prop
  | .unspecified => False
  | .scale chain => ∃ (mode : ScalingMode) (width height : Int), chain = mode.chain width height
  | .concat durations _ => durations.length = count
  | .drawText drawing => drawing.style.IsPlain
  | _ => True

end Operation

namespace Pad

/-- Whether a pad is a stream or a label whose name is made of letters and digits. -/
def Sound : Pad → Prop
  | .stream reference => Alphanumeric reference.kind
  | .label name => Alphanumeric name

theorem Sound.plain {pad : Pad} (sound : pad.Sound) : Plain pad.toString := by
  cases pad with
  | label name => exact Alphanumeric.plain sound
  | stream reference =>
      simp only [Pad.toString, StreamRef.toString, plain_append]
      exact ⟨⟨plain_ofInt _, by decide⟩, Alphanumeric.plain sound⟩

end Pad

namespace Chain

def pads (chain : Chain) : List String × List String :=
  (chain.inputs, chain.outputs)

end Chain

namespace Statement

/-- Whether the labels of a statement are made of letters and digits, and its operation
writes filters of its own. -/
structure Sound (statement : Statement) : Prop where
  inputs : ∀ pad ∈ statement.inputs, pad.Sound
  output : Alphanumeric statement.output
  operation : statement.operation.Sound statement.inputs.length

/-- The pads of the chains that a statement stands for.  Each segment of a join is held in
a chain of its own, which the joining chain reads. -/
def wiring (statement : Statement) : List (List String × List String) :=
  let inputs := statement.inputs.map Pad.toString
  match statement.operation with
  | .concat _ _ =>
      inputs.zipIdx.map (fun (name, index) => ([name], [heldLabel statement.output index])) ++
        [((List.range inputs.length).map (heldLabel statement.output), [statement.output])]
  | _ => [(inputs, [statement.output])]

def chains (statement : Statement) : List Chain :=
  (statement.render?.bind chains?).getD []

variable {statement : Statement}

/-- Whether a statement reads as chains, wired as it is itself. -/
structure Reads (statement : Statement) (chains : List Chain) : Prop where
  text : ∃ text, statement.render? = some text ∧ ReadsChains text chains
  wired : chains.map Chain.pads = statement.wiring

theorem Reads.chains_eq {chains : List Chain} (reads : statement.Reads chains) :
    statement.chains = chains := by
  obtain ⟨text, rendered, lexes⟩ := reads.text
  simp [Statement.chains, rendered, lexes.chains?_eq]

theorem Sound.plain_inputs (sound : statement.Sound) :
    ∀ name ∈ statement.inputs.map Pad.toString, Plain name := by
  simp only [List.mem_map, forall_exists_index, and_imp, forall_apply_eq_imp_iff₂]
  exact fun pad member => (sound.inputs pad member).plain

theorem Sound.reads_body (sound : statement.Sound) {body : String} {filters : List String}
    (written : statement.body? = some body) (reads : ReadsFilters body filters) :
    statement.Reads [⟨statement.inputs.map Pad.toString, filters, [statement.output]⟩] := by
  have notJoin : ∀ durations audio, statement.operation ≠ .concat durations audio := by
    intro durations audio joins
    simp [body?, joins] at written
  have chain := readsChains_between sound.plain_inputs sound.output.plain reads
  rw [List.map_map] at chain
  refine ⟨⟨_, ?_, chain⟩, ?_⟩
  · unfold render?
    split
    next durations audio joins => exact absurd joins (notJoin durations audio)
    next => rw [written, Option.map_some, Function.comp_def]
  · unfold wiring
    split
    next durations audio joins => exact absurd joins (notJoin durations audio)
    next => rfl

/-- Sound that is placed reads as the filters that move and rescale it.  If it is neither moved nor
rescaled, it passes through a filter that does nothing. -/
theorem exists_readsFilters_place {delay : Int} {factor : Option Binary64}
    (placed : statement.operation = .place delay factor) :
    ∃ body filters, statement.body? = some body ∧ ReadsFilters body filters := by
  have moved : IsFilter ("adelay=" ++ Decimal.ofInt delay ++ ":all=1") := by
    refine isFilter_of_plain ?_ (by simp)
    simp only [plain_append, plain_ofInt, and_true]
    decide
  have rescaled : ∀ factor, IsFilter ("volume=" ++ Decimal.amount factor) := fun factor =>
    isFilter_of_plain (plain_append.mpr ⟨by decide, plain_amount factor⟩) (by simp)
  have written : ∃ parts : List String, (∀ part ∈ parts, IsFilter part) ∧
      statement.body? = some (if parts.isEmpty then "anull" else Text.join "," parts) := by
    refine ⟨_, ?_, by rw [body?, placed]⟩
    intro part member
    rcases List.mem_append.mp member with delayed | scaled
    · split at delayed
      · exact List.mem_singleton.mp delayed ▸ moved
      · simp at delayed
    · split at scaled
      · exact List.mem_singleton.mp scaled ▸ rescaled _
      · simp at scaled
  obtain ⟨parts, each, written⟩ := written
  by_cases nothing : parts = []
  · have untouched : ReadsFilters "anull" ["anull"] :=
      readsFilters_of_plain (by decide) (by decide)
    exact ⟨_, _, by rw [written, nothing]; rfl, untouched⟩
  · obtain ⟨filters, reads⟩ := readsFilters_join nothing each
    exact ⟨_, filters, by simp [written, nothing], reads⟩

/-- Every operation but a join writes its filters in one body. -/
theorem Sound.exists_body (sound : statement.Sound)
    (notJoin : ∀ durations audio, statement.operation ≠ .concat durations audio) :
    ∃ body filters, statement.body? = some body ∧ ReadsFilters body filters := by
  have operation := sound.operation
  cases kind : statement.operation with
  | unspecified => simp [kind, Operation.Sound] at operation
  | concat durations audio => exact absurd kind (notJoin durations audio)
  | scale chain =>
      rw [kind] at operation
      obtain ⟨mode, width, height, rfl⟩ := operation
      have some : mode.filters width height ≠ [] := by
        simp [ScalingMode.filters]
      obtain ⟨filters, reads⟩ := readsFilters_join some fun _ => isFilter_of_mem_filters
      exact ⟨_, filters, by simp [body?, kind, ScalingMode.chain], reads⟩
  | volume factor =>
      refine ⟨_, _, by rw [body?, kind], readsFilters_of_plain ?_ (by simp)⟩
      exact plain_append.mpr ⟨by decide, plain_amount factor⟩
  | place delay factor => exact exists_readsFilters_place kind
  | drawText drawing =>
      rw [kind] at operation
      obtain ⟨_, reads⟩ := (Drawing.shows operation).readsFilters (by decide)
      exact ⟨_, _, by rw [body?, kind], reads⟩
  | resample =>
      exact ⟨_, _, by rw [body?, kind], readsFilters_of_plain (by decide) (by decide)⟩
  | mix =>
      refine ⟨_, _, by rw [body?, kind], readsFilters_of_plain ?_ (by simp [toString])⟩
      simp only [toString, plain_append, plain_ofInt, and_true]
      decide

theorem exists_readsFilters_hold (audio : Bool) (duration : Binary64) :
    ∃ filters, ReadsFilters (hold audio duration) filters := by
  have amount := plain_amount duration
  have literal : ∀ text, Plain text → text ≠ "" → IsFilter text := fun _ => isFilter_of_plain
  have trimmed : ∀ name, Plain name → name ≠ "" →
      IsFilter (name ++ Decimal.amount duration) := fun name plain named =>
    isFilter_of_plain (plain_append.mpr ⟨plain, amount⟩) (by simp [named])
  cases audio with
  | true =>
      have parts : hold true duration = Text.join "," ["apad",
          "atrim=duration=" ++ Decimal.amount duration, "asetpts=PTS-STARTPTS"] := by
        apply String.toList_inj.mp
        simp [hold, Text.join, toString, String.intercalate_cons_cons]
      rw [parts]
      refine readsFilters_join (by simp) ?_
      simp only [List.forall_mem_cons, List.not_mem_nil, false_imp_iff, implies_true, and_true]
      exact ⟨literal _ (by decide) (by decide), trimmed _ (by decide) (by decide),
        literal _ (by decide) (by decide)⟩
  | false =>
      have parts : hold false duration = Text.join ","
          ["trim=duration=" ++ Decimal.amount duration, "setpts=PTS-STARTPTS"] := by
        apply String.toList_inj.mp
        simp [hold, Text.join, toString, String.intercalate_cons_cons]
      rw [parts]
      refine readsFilters_join (by simp) ?_
      simp only [List.forall_mem_cons, List.not_mem_nil, false_imp_iff, implies_true, and_true]
      exact ⟨trimmed _ (by decide) (by decide), literal _ (by decide) (by decide)⟩

theorem map_zipIdx_zip {names : List String} {durations : List Binary64}
    (count : durations.length = names.length) :
    (names.zip durations).zipIdx.map (fun segment => (segment.1.1, segment.2)) = names.zipIdx ∧
      (names.zip durations).zipIdx.map Prod.snd = List.range names.length := by
  have first : (names.zip durations).map Prod.fst = names := List.map_fst_zip (by omega)
  constructor
  · conv => rhs; rw [← first, List.zipIdx_map]
    rfl
  · simp [count, List.range_eq_range']

def joining (audio : Bool) (count : Nat) : String :=
  "concat=n=" ++ Decimal.ofInt count ++ ":" ++ if audio then "v=0:a=1" else "v=1:a=0"

theorem concatChains_eq {durations : List Binary64} {audio : Bool}
    (joins : statement.operation = .concat durations audio)
    (count : durations.length = statement.inputs.length) :
    statement.concatChains audio =
      ((statement.inputs.map Pad.toString).zip durations).zipIdx.map (fun segment =>
        bracketed segment.1.1 ++ hold audio segment.1.2 ++
          bracketed (heldLabel statement.output segment.2)) ++
      [String.join (((List.range statement.inputs.length).map
          (heldLabel statement.output)).map bracketed) ++
        joining audio statement.inputs.length ++ bracketed statement.output] := by
  have names : durations.length = (statement.inputs.map Pad.toString).length := by
    rw [count, List.length_map]
  have places := (map_zipIdx_zip names).2
  rw [List.length_map] at places
  rw [← places, List.map_map, List.map_map]
  simp [concatChains, Statement.segments, joins, joining, Function.comp_def, String.append_assoc]

/-- A join reads as a chain for each segment and one that joins them. -/
theorem Sound.reads_concat (sound : statement.Sound) {durations : List Binary64}
    {audio : Bool} (joins : statement.operation = .concat durations audio) :
    ∃ chains, statement.Reads chains := by
  have count : durations.length = statement.inputs.length := by
    simpa [joins, Operation.Sound] using sound.operation
  choose held reads using exists_readsFilters_hold audio
  let names := statement.inputs.map Pad.toString
  let segments := (names.zip durations).zipIdx
  let labels := (List.range statement.inputs.length).map (heldLabel statement.output)
  have plainHeld : ∀ index, Plain (heldLabel statement.output index) := fun index =>
    plain_append.mpr ⟨plain_append.mpr ⟨sound.output.plain, by decide⟩, plain_ofInt index⟩
  refine ⟨segments.map (fun segment => ⟨[segment.1.1], held segment.1.2,
      [heldLabel statement.output segment.2]⟩) ++
        [⟨labels, [joining audio statement.inputs.length], [statement.output]⟩],
    ⟨_, by rw [render?, joins], ?_⟩, ?_⟩
  · rw [concatChains_eq joins count]
    refine ReadsChains.join_single (by simp) (List.rel_append ?_ (.cons ?_ .nil))
    · rw [List.forall₂_map_left_iff, List.forall₂_map_right_iff, List.forall₂_same]
      intro segment member
      have inside : segment.1.1 ∈ names :=
        (List.of_mem_zip (List.fst_mem_of_mem_zipIdx member)).1
      have plain : ∀ name ∈ [segment.1.1], Plain name := by
        simpa using sound.plain_inputs _ inside
      simpa [String.join] using
        readsChains_between plain (plainHeld segment.2) (reads segment.1.2)
    · have plain : ∀ name ∈ labels, Plain name := by
        simpa [labels] using fun index _ => plainHeld index
      refine readsChains_between plain sound.output.plain
        (readsFilters_of_plain ?_ (by simp [joining]))
      cases audio <;> simp only [joining, plain_append, plain_ofInt] <;> decide
  · have paired : segments.map (fun segment =>
        ([segment.1.1], [heldLabel statement.output segment.2])) =
        names.zipIdx.map fun entry => ([entry.1], [heldLabel statement.output entry.2]) := by
      rw [← (map_zipIdx_zip (by simp [names, count] : durations.length = names.length)).1,
        List.map_map]
      rfl
    simp only [wiring, joins, List.length_map]
    rw [List.map_append, List.map_map]
    exact congrArg (· ++ [(labels, [statement.output])]) paired

theorem Sound.exists_reads (sound : statement.Sound) : ∃ chains, statement.Reads chains := by
  by_cases join : ∃ durations audio, statement.operation = .concat durations audio
  · obtain ⟨durations, audio, joins⟩ := join
    exact sound.reads_concat joins
  · simp only [not_exists] at join
    obtain ⟨body, filters, written, reads⟩ := sound.exists_body join
    exact ⟨_, sound.reads_body written reads⟩

theorem Sound.reads (sound : statement.Sound) : statement.Reads statement.chains := by
  obtain ⟨chains, reads⟩ := sound.exists_reads
  rwa [reads.chains_eq]

theorem Sound.chains_drawText (sound : statement.Sound) {drawing : Drawing}
    (draws : statement.operation = .drawText drawing) :
    ∃ options, statement.chains =
      [⟨statement.inputs.map Pad.toString, ["drawtext=" ++ options], [statement.output]⟩] := by
  have plain : drawing.style.IsPlain := by
    simpa [draws, Operation.Sound] using sound.operation
  obtain ⟨options, reads⟩ := (Drawing.shows plain).readsFilters (by decide)
  refine ⟨options, (sound.reads_body ?_ reads).chains_eq⟩
  rw [body?, draws]

end Statement

namespace Program

/-- A program of sound statements is split into the chains of its statements, in order. -/
theorem chains?_render {program : Program} (some : program.statements ≠ [])
    (sound : ∀ statement ∈ program.statements, statement.Sound) :
    chains? program.render = .some (program.statements.flatMap Statement.chains) := by
  have reads : ∀ statements : List Statement, (∀ statement ∈ statements, statement.Sound) →
      List.Forall₂ ReadsChains (statements.filterMap Statement.render?)
        (statements.map Statement.chains) := by
    intro statements
    induction statements with
    | nil => exact fun _ => .nil
    | cons statement statements ih =>
        intro sound
        obtain ⟨text, rendered, reads⟩ := (sound statement List.mem_cons_self).reads.text
        rw [List.filterMap_cons_some rendered, List.map_cons]
        exact .cons reads (ih fun other member => sound other (List.mem_cons_of_mem _ member))
  have all := reads program.statements sound
  have texts : program.statements.filterMap Statement.render? ≠ [] := by
    rw [← List.length_pos_iff, all.length_eq, List.length_map, List.length_pos_iff]
    exact some
  rw [List.flatMap_def]
  exact (ReadsChains.join texts all).chains?_eq

end Program

end Filter

end Montage
