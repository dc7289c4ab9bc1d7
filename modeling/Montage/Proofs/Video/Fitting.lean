import Montage.Proofs.Filter.Chains
import Montage.Proofs.Filter.Expression
import Montage.Proofs.Filter.Unfolding
import Montage.Proofs.Text.Cutting
import Mathlib.Algebra.Order.Round
import Mathlib.Data.Rat.Floor
import Mathlib.Tactic.Linarith

/-!
# Fitted pictures

What a chain of filters makes of the size and the sample aspect of a picture, with expressions in
exact arithmetic.  Scaling that leaves one side open keeps the aspect of the picture and rounds to
the nearest whole number; padding takes no picture that is larger than its target, and cropping
none that is smaller.  In every mode a picture of any size comes out as large as the frame.
-/

namespace Montage

namespace Filter

/-- The size of a picture in pixels, and the aspect of a pixel. -/
structure Picture where
  width : Int
  height : Int
  aspect : ℚ
  deriving DecidableEq

structure Picture.Visible (picture : Picture) : Prop where
  width : 1 ≤ picture.width
  height : 1 ≤ picture.height

/-- A way to round to a nearest whole number, whatever becomes of ties. -/
structure NearestWhole where
  nearest : ℚ → Int
  near : ∀ value, |(nearest value : ℚ) - value| ≤ 1 / 2

def NearestWhole.halfUp : NearestWhole :=
  ⟨round, fun value => by rw [abs_sub_comm]; exact abs_sub_round value⟩

section Evaluation

/-- A filter as it is read: its name, and the expressions of its options. -/
abbrev ReadFilter := String × List Expression

/-- The filter that a text writes.  An equals sign stands behind its name, and colons between its
options. -/
def filter? (text : String) : Option ReadFilter :=
  match Text.splitBy (· == '=') text.toList with
  | [name, options] => do
      let expressions ← (Text.splitBy (· == ':') options).mapM Expression.read?
      some (String.ofList name, expressions)
  | _ => none

/-- The filters of a text that is a single chain without pads. -/
def filters? (text : String) : Option (List ReadFilter) :=
  match chains? text with
  | some [⟨[], filters, []⟩] => filters.mapM filter?
  | _ => none

def whole? (value : ℚ) : Option Int :=
  if value.den = 1 then some value.num else none

/-- The sides of a scaled picture.  A side of minus one is left open. -/
def scaledSides? (rounding : NearestWhole) (picture : Picture) (width height : Int) :
    Option (Int × Int) :=
  if width = -1 ∧ height = -1 then some (picture.width, picture.height)
  else if width = -1 ∧ 1 ≤ height then
    some (rounding.nearest (height * picture.width / picture.height), height)
  else if height = -1 ∧ 1 ≤ width then
    some (width, rounding.nearest (width * picture.height / picture.width))
  else if 1 ≤ width ∧ 1 ≤ height then some (width, height)
  else none

/-- A scaled picture shows the same in pixels of another aspect. -/
def scale? (rounding : NearestWhole) (picture : Picture) (width height : Int) : Option Picture := do
  let (across, down) ← scaledSides? rounding picture width height
  some ⟨across, down, picture.aspect * (picture.width * down) / (across * picture.height)⟩

def pad? (picture : Picture) (width height : Int) (left top : ℚ) : Option Picture :=
  if picture.width ≤ width ∧ picture.height ≤ height ∧ 0 ≤ left ∧ left + picture.width ≤ width ∧
      0 ≤ top ∧ top + picture.height ≤ height then some ⟨width, height, picture.aspect⟩
  else none

/-- A picture of which only so much is kept. -/
def crop? (picture : Picture) (width height : Int) : Option Picture :=
  if width ≤ picture.width ∧ height ≤ picture.height then some ⟨width, height, picture.aspect⟩
  else none

def filtered? (rounding : NearestWhole) (picture : Picture) (filter : ReadFilter) :
    Option Picture := do
  match filter.1, ← filter.2.mapM (·.value? picture.width picture.height) with
  | "scale", [width, height] => scale? rounding picture (← whole? width) (← whole? height)
  | "pad", [width, height, left, top] =>
      pad? picture (← whole? width) (← whole? height) left top
  | "crop", [width, height] => crop? picture (← whole? width) (← whole? height)
  | "setsar", [aspect] => some { picture with aspect }
  | _, _ => none

def stagesOf? (rounding : NearestWhole) : Picture → List ReadFilter → Option (List Picture)
  | _, [] => some []
  | picture, filter :: filters => do
      let next ← filtered? rounding picture filter
      let later ← stagesOf? rounding next filters
      some (next :: later)

def stages? (rounding : NearestWhole) (text : String) (picture : Picture) : Option (List Picture) :=
  (filters? text).bind (stagesOf? rounding picture)

end Evaluation

section Reading

open Expression ScalingMode

variable {name text : String} {options : List (List Char)} {expressions : List Expression}
  {characters across down : List Char} {first second : Expression}

/-- Characters that end neither a name nor an option nor a quote. -/
def Unmarked (characters : List Char) : Prop :=
  '=' ∉ characters ∧ ':' ∉ characters ∧ '\'' ∉ characters

def spelled (name : String) (options : List (List Char)) : String :=
  String.ofList (name.toList ++ '=' :: [':'].intercalate options)

theorem beq_eq_false_of_not_mem {mark : Char} (absent : mark ∉ characters) :
    ∀ character ∈ characters, (character == mark) = false := fun _ member =>
  beq_eq_false_iff_ne.mpr fun same => absent (same ▸ member)

theorem mem_intercalate {mark character : Char} (member : character ∈ [mark].intercalate options) :
    character = mark ∨ ∃ option ∈ options, character ∈ option := by
  induction options with
  | nil => simp at member
  | cons first options ih =>
      cases options with
      | nil => exact .inr ⟨first, by simp, by simpa using member⟩
      | cons second options =>
          simp only [List.intercalate_cons_cons, List.mem_append, List.mem_singleton] at member ih
          rcases member with (here | rfl) | later
          · exact .inr ⟨first, by simp, here⟩
          · exact .inl rfl
          · exact (ih later).imp_right fun ⟨option, known, inside⟩ =>
              ⟨option, List.mem_cons_of_mem _ known, inside⟩

theorem filter?_spelled (named : '=' ∉ name.toList) (filled : options ≠ [])
    (unmarked : ∀ option ∈ options, Unmarked option)
    (reads : List.Forall₂ (fun option expression => read? option = some expression) options
      expressions) : filter? (spelled name options) = some (name, expressions) := by
  have noEquals : '=' ∉ [':'].intercalate options := by
    intro member
    rcases mem_intercalate member with same | ⟨option, known, inside⟩
    · exact absurd same (by decide)
    · exact (unmarked option known).1 inside
  have cut : Text.splitBy (· == '=') (name.toList ++ '=' :: [':'].intercalate options) =
      [name.toList, [':'].intercalate options] := by
    rw [Text.splitBy_append_cons (by rfl) (beq_eq_false_of_not_mem named),
      Text.splitBy_of_absent (beq_eq_false_of_not_mem noEquals)]
  have apart : Text.splitBy (· == ':') ([':'].intercalate options) = options :=
    Text.splitBy_intercalate (by rfl) filled fun option member =>
      beq_eq_false_of_not_mem (unmarked option member).2.1
  rw [filter?, spelled, String.toList_ofList, cut]
  simp [apart, mapM_eq_some_of_forall₂ reads]

def Reads (text : String) (filter : ReadFilter) : Prop :=
  ∃ shown, shown ≠ "" ∧ Lexes text (literals shown) ∧ filter? shown = some filter

theorem filters?_join {texts : List String} {filters : List ReadFilter} (filled : texts ≠ [])
    (reads : List.Forall₂ Reads texts filters) :
    filters? (Text.join "," texts) = some filters := by
  obtain ⟨shown, named, lexes, each⟩ : ∃ shown : List String, "" ∉ shown ∧
      List.Forall₂ Lexes texts (shown.map literals) ∧ shown.mapM filter? = some filters := by
    clear filled
    induction reads with
    | nil => exact ⟨[], by simp, .nil, rfl⟩
    | cons head _ ih =>
        obtain ⟨first, named, lexes, here⟩ := head
        obtain ⟨shown, named', lexes', later⟩ := ih
        exact ⟨first :: shown, by simpa using ⟨named.symm ∘ .symm, named'⟩, .cons lexes lexes',
          by simp [here, later]⟩
  have separates : Lexes "," [.mark .comma] := fun rest => rfl
  have some : shown ≠ [] := by
    rintro rfl
    cases lexes
    exact filled rfl
  have single : ReadsChains (Text.join "," texts) [⟨[], shown, []⟩] := by
    refine readsChains_singleton ⟨some, named⟩ ?_
    simpa [Chain.lexemes, padLexemes, filterLexemes] using separates.intercalate lexes
  rw [filters?, single.chains?_eq]
  exact each

theorem unmarked_digitsOf (value : Nat) : Unmarked (Decimal.digitsOf value) := by
  have isDigit : ∀ digit ∈ Decimal.digitsOf value, digit.isDigit = true := fun _ member =>
    Nat.isDigit_of_mem_toDigits (by decide) (by decide) member
  refine ⟨fun member => ?_, fun member => ?_, fun member => ?_⟩ <;>
    exact absurd (isDigit _ member) (by decide)

theorem reads_of_plain (name : String) (options : List (List Char))
    (same : text.toList = name.toList ++ '=' :: [':'].intercalate options) (plain : Plain text)
    (named : '=' ∉ name.toList) (filled : options ≠ [])
    (unmarked : ∀ option ∈ options, Unmarked option)
    (reads : List.Forall₂ (fun option expression => read? option = some expression) options
      expressions) : Reads text (name, expressions) := by
  have whole : text = spelled name options := String.toList_inj.mp (by simp [spelled, same])
  refine ⟨text, ?_, lexes_of_plain plain, whole ▸ filter?_spelled named filled unmarked reads⟩
  rintro rfl
  simp at same

/-- Scaling by an expression for each side, between quotes, is read as such. -/
theorem reads_scale
    (same : text.toList = "scale='".toList ++ across ++ "':'".toList ++ down ++ ['\''])
    (unmarked : Unmarked across) (unmarked' : Unmarked down) (reads : read? across = some first)
    (reads' : read? down = some second) : Reads text ("scale", [first, second]) := by
  have textEq : text = "scale=" ++ ("'" ++ String.ofList across ++ "'") ++ ":" ++
      ("'" ++ String.ofList down ++ "'") := by
    apply String.toList_inj.mp
    simp [same]
  have shownEq : spelled "scale" [across, down] =
      "scale=" ++ String.ofList across ++ ":" ++ String.ofList down := by
    apply String.toList_inj.mp
    simp [spelled, List.intercalate_cons_cons]
  refine ⟨spelled "scale" [across, down], ?_, ?_, ?_⟩
  · simp [shownEq]
  · rw [textEq, shownEq]
    simp only [literals_append]
    refine Lexes.append (Lexes.append (Lexes.append ?_ ?_) ?_) ?_
    · exact lexes_of_plain (by decide)
    · exact lexes_quoted (by simpa using unmarked.2.2)
    · exact lexes_of_plain (by decide)
    · exact lexes_quoted (by simpa using unmarked'.2.2)
  · exact filter?_spelled (by decide) (by simp) (by simp [unmarked, unmarked'])
      (.cons reads (.cons reads' .nil))

end Reading

section Sizes

variable {rounding : NearestWhole} {picture : Picture} {first second third bound : Int}

theorem NearestWhole.nearest_le {value : ℚ} (rounding : NearestWhole) (below : value ≤ bound) :
    rounding.nearest value ≤ bound := by
  obtain ⟨-, near⟩ := abs_le.mp (rounding.near value)
  have close : (rounding.nearest value : ℚ) < bound + 1 := by linarith
  have close : rounding.nearest value < bound + 1 := by exact_mod_cast close
  omega

theorem NearestWhole.le_nearest {value : ℚ} (rounding : NearestWhole) (above : bound ≤ value) :
    bound ≤ rounding.nearest value := by
  obtain ⟨near, -⟩ := abs_le.mp (rounding.near value)
  have close : (bound : ℚ) - 1 < rounding.nearest value := by linarith
  have close : bound - 1 < rounding.nearest value := by exact_mod_cast close
  omega

theorem NearestWhole.nearest_ratio_le (rounding : NearestWhole) (positive : 1 ≤ third)
    (below : first * second ≤ bound * third) :
    rounding.nearest ((first : ℚ) * second / third) ≤ bound := by
  have positive : (0 : ℚ) < third := by exact_mod_cast positive
  refine rounding.nearest_le ((div_le_iff₀ positive).mpr ?_)
  exact_mod_cast below

theorem NearestWhole.le_nearest_ratio (rounding : NearestWhole) (positive : 1 ≤ third)
    (above : bound * third ≤ first * second) :
    bound ≤ rounding.nearest ((first : ℚ) * second / third) := by
  have positive : (0 : ℚ) < third := by exact_mod_cast positive
  refine rounding.le_nearest ((le_div_iff₀ positive).mpr ?_)
  exact_mod_cast above

theorem whole?_intCast (value : Int) : whole? (value : ℚ) = some value := by simp [whole?]

theorem scaledSides?_both : scaledSides? rounding picture (-1) (-1) =
    some (picture.width, picture.height) := by
  simp [scaledSides?]

theorem scaledSides?_width (given : 1 ≤ first) : scaledSides? rounding picture first (-1) =
    some (first, rounding.nearest (first * picture.height / picture.width)) := by
  have notOpen : first ≠ -1 := by omega
  simp [scaledSides?, notOpen, given]

theorem scaledSides?_height (given : 1 ≤ second) : scaledSides? rounding picture (-1) second =
    some (rounding.nearest (second * picture.width / picture.height), second) := by
  have notOpen : second ≠ -1 := by omega
  simp [scaledSides?, notOpen, given]

theorem scaledSides?_given (given : 1 ≤ first) (given' : 1 ≤ second) :
    scaledSides? rounding picture first second = some (first, second) := by
  have notOpen : first ≠ -1 := by omega
  have notOpen' : second ≠ -1 := by omega
  simp [scaledSides?, notOpen, notOpen', given, given']

end Sizes

end Filter

namespace ScalingMode

open Montage.Filter Montage.Filter.Expression

def sideTexts (mode : ScalingMode) (w h : String) : String × String :=
  let wider := s!"gte(iw/ih,{w}/{h})"
  match mode with
  | .fill => (w, h)
  | .contain => (s!"if({wider},{w},-1)", s!"if({wider},-1,{h})")
  | .scaleDown => (s!"if({wider},min(iw,{w}),-1)", s!"if({wider},-1,min(ih,{h}))")
  | .native => (s!"if(gt(iw,{w}),{w},-1)", s!"if(gt(ih,{h}),{h},-1)")
  | .cover => (s!"if({wider},-1,{w})", s!"if({wider},{h},-1)")

def following : Expression := .opposite (.number 1)

def wider (width height : Nat) : Expression :=
  .atLeast (.binary .over .width .height) (.binary .over (.number width) (.number height))

def sides (mode : ScalingMode) (width height : Nat) : Expression × Expression :=
  let isWider := wider width height
  match mode with
  | .fill => (.number width, .number height)
  | .contain => (.choice isWider (.number width) following,
      .choice isWider following (.number height))
  | .scaleDown => (.choice isWider (.least .width (.number width)) following,
      .choice isWider following (.least .height (.number height)))
  | .native => (.choice (.above .width (.number width)) (.number width) following,
      .choice (.above .height (.number height)) (.number height) following)
  | .cover => (.choice isWider following (.number width),
      .choice isWider (.number height) following)

theorem read?_sides (mode : ScalingMode) (w h : Nat) :
    read? (mode.sideTexts (Decimal.ofInt w) (Decimal.ofInt h)).1.toList =
        some (mode.sides w h).1 ∧
      read? (mode.sideTexts (Decimal.ofInt w) (Decimal.ofInt h)).2.toList =
        some (mode.sides w h).2 := by
  cases mode with
  | fill =>
      simp only [sideTexts, sides, Decimal.toList_ofInt_natCast, read?_digitsOf, and_self]
  | contain | scaleDown | native | cover =>
      constructor <;>
      · simp only [sideTexts, toString, String.toList_append, Decimal.toList_ofInt_natCast, read?]
        simp [tokensFrom, Word.follow, start, extend, tokenOf, Word.tokens, tokensFrom_digitsOf]
        rfl

theorem unmarked_sideTexts (mode : ScalingMode) (w h : Nat) :
    Unmarked (mode.sideTexts (Decimal.ofInt w) (Decimal.ofInt h)).1.toList ∧
      Unmarked (mode.sideTexts (Decimal.ofInt w) (Decimal.ofInt h)).2.toList := by
  have wide := unmarked_digitsOf w
  have high := unmarked_digitsOf h
  simp only [Unmarked] at wide high ⊢
  cases mode <;> simp [sideTexts, toString, Decimal.toList_ofInt_natCast, wide, high]

def padded (width height : Nat) : ReadFilter :=
  ("pad", [.number width, .number height,
    .binary .over (.binary .minus (.number width) .width) (.number 2),
    .binary .over (.binary .minus (.number height) .height) (.number 2)])

def trimming (mode : ScalingMode) (width height : Nat) : List ReadFilter :=
  match mode with
  | .fill => []
  | .contain | .scaleDown | .native => [padded width height]
  | .cover => [("crop", [.number width, .number height])]

def reading (mode : ScalingMode) (width height : Nat) : List ReadFilter :=
  ("scale", [(mode.sides width height).1, (mode.sides width height).2]) ::
    mode.trimming width height ++ [("setsar", [.number 1])]

theorem reads_padding (w h : Nat) :
    Reads (padding (Decimal.ofInt w) (Decimal.ofInt h)) (padded w h) := by
  have wide := unmarked_digitsOf w
  have high := unmarked_digitsOf h
  have across : read? ("((".toList ++ Decimal.digitsOf w ++ "-iw)/2)".toList) =
      some (.binary .over (.binary .minus (.number w) .width) (.number 2)) := by
    simp [read?, tokensFrom, Word.follow, start, extend, tokenOf, tokensFrom_digitsOf]
    rfl
  have down : read? ("((".toList ++ Decimal.digitsOf h ++ "-ih)/2)".toList) =
      some (.binary .over (.binary .minus (.number h) .height) (.number 2)) := by
    simp [read?, tokensFrom, Word.follow, start, extend, tokenOf, tokensFrom_digitsOf]
    rfl
  refine reads_of_plain "pad" [Decimal.digitsOf w, Decimal.digitsOf h,
    "((".toList ++ Decimal.digitsOf w ++ "-iw)/2)".toList,
    "((".toList ++ Decimal.digitsOf h ++ "-ih)/2)".toList] ?_ ?_ (by decide) (by simp) ?_
    (.cons (read?_digitsOf w) (.cons (read?_digitsOf h) (.cons across (.cons down .nil))))
  · simp [padding, toString, Decimal.toList_ofInt_natCast, List.intercalate_cons_cons]
  · simp only [padding, toString, plain_append, plain_ofInt, and_true]
    decide
  · simp only [Unmarked] at wide high ⊢
    simp [wide, high]

theorem reads_numbers {text : String} (name : String) (w h : Nat)
    (same : text = name ++ "=" ++ Decimal.ofInt w ++ ":" ++ Decimal.ofInt h)
    (plain : Plain name) (named : '=' ∉ name.toList) :
    Reads text (name, [.number w, .number h]) := by
  refine reads_of_plain name [Decimal.digitsOf w, Decimal.digitsOf h] ?_ ?_ named (by simp) ?_
    (.cons (read?_digitsOf w) (.cons (read?_digitsOf h) .nil))
  · simp [same, Decimal.toList_ofInt_natCast, List.intercalate_cons_cons]
  · simp only [same, plain_append, plain_ofInt, plain, and_true, true_and]
    decide
  · simp [unmarked_digitsOf]

theorem reads_square : Reads "setsar=1" ("setsar", [.number 1]) := by
  refine reads_of_plain "setsar" [Decimal.digitsOf 1] (by decide) (by decide) (by decide) (by simp)
    ?_ (.cons (read?_digitsOf 1) .nil)
  simp [unmarked_digitsOf]

theorem reads_sides {text : String} (mode : ScalingMode) (w h : Nat)
    (same : text.toList = "scale='".toList ++
      (mode.sideTexts (Decimal.ofInt w) (Decimal.ofInt h)).1.toList ++ "':'".toList ++
      (mode.sideTexts (Decimal.ofInt w) (Decimal.ofInt h)).2.toList ++ ['\'']) :
    Reads text ("scale", [(mode.sides w h).1, (mode.sides w h).2]) := by
  obtain ⟨unmarked, unmarked'⟩ := mode.unmarked_sideTexts w h
  obtain ⟨reads, reads'⟩ := mode.read?_sides w h
  exact reads_scale same unmarked unmarked' reads reads'

theorem filters?_chain (mode : ScalingMode) (w h : Nat) :
    filters? (mode.chain w h) = some (mode.reading w h) := by
  refine filters?_join (by simp [ScalingMode.filters]) ?_
  cases mode with
  | fill =>
      refine .cons (reads_numbers "scale" w h ?_ (by decide) (by decide)) (.cons reads_square .nil)
      simp [toString, String.append_assoc]
  | contain | scaleDown | native =>
      exact .cons (reads_sides _ w h (by simp [sideTexts, toString]))
        (.cons (reads_padding w h) (.cons reads_square .nil))
  | cover =>
      refine .cons (reads_sides _ w h (by simp [sideTexts, toString]))
        (.cons (reads_numbers "crop" w h ?_ (by decide) (by decide)) (.cons reads_square .nil))
      simp [toString, String.append_assoc]

section Targets

variable {rounding : NearestWhole} {source : Picture} {w h : Nat}

/-- The sides that a picture is scaled to, where minus one leaves a side open. -/
def targets (mode : ScalingMode) (width height : Int) (source : Picture) : Int × Int :=
  let isWider : Bool := width * source.height ≤ source.width * height
  match mode with
  | .fill => (width, height)
  | .contain => (if isWider then width else -1, if isWider then -1 else height)
  | .scaleDown => (if isWider then min source.width width else -1,
      if isWider then -1 else min source.height height)
  | .native => (if decide (width < source.width) then width else -1,
      if decide (height < source.height) then height else -1)
  | .cover => (if isWider then -1 else width, if isWider then height else -1)

theorem value?_wider (high : 1 ≤ h) (visible : source.Visible) :
    (wider w h).value? source.width source.height =
      some (truth (decide (w * source.height ≤ source.width * h))) := by
  have positive : (0 : ℚ) < h := by exact_mod_cast high
  have positive' : (0 : ℚ) < source.height := by exact_mod_cast visible.height
  have same : (w : ℚ) / h ≤ source.width / source.height ↔
      w * source.height ≤ source.width * h := by
    rw [div_le_div_iff₀ positive positive']
    exact_mod_cast Iff.rfl
  simp [wider, value?, operate?, positive.ne', positive'.ne', same]

theorem value?_following {width height : ℚ} :
    following.value? width height = some ((-1 : Int) : ℚ) := by
  simp [following, value?]

/-- A choice by a comparison comes to the whole number of the branch that is taken. -/
theorem value?_choice {condition met otherwise : Expression} {holds : Bool} {yes no : Int}
    {width height : ℚ} (decided : condition.value? width height = some (truth holds))
    (here : met.value? width height = some (yes : ℚ))
    (there : otherwise.value? width height = some (no : ℚ)) :
    ((Expression.choice condition met otherwise).value? width height).bind whole? =
      some (if holds then yes else no) := by
  cases holds <;> simp [value?, decided, here, there, truth, whole?_intCast]

theorem value?_sides (mode : ScalingMode) (high : 1 ≤ h) (visible : source.Visible) :
    ((mode.sides w h).1.value? source.width source.height).bind whole? =
        some (mode.targets w h source).1 ∧
      ((mode.sides w h).2.value? source.width source.height).bind whole? =
        some (mode.targets w h source).2 := by
  have isWider : (wider w h).value? source.width source.height = _ := value?_wider high visible
  have number : ∀ value : Nat, (Expression.number value).value? source.width source.height =
      some ((value : Int) : ℚ) := fun value => by simp [value?]
  have leastWidth : (Expression.least .width (.number w)).value? source.width source.height =
      some ((min source.width w : Int) : ℚ) := by simp [value?]
  have leastHeight : (Expression.least .height (.number h)).value? source.width source.height =
      some ((min source.height h : Int) : ℚ) := by simp [value?]
  have tooWide : (Expression.above .width (.number w)).value? source.width source.height =
      some (truth (decide (w < source.width))) := by
    have same : (w : ℚ) < source.width ↔ (w : Int) < source.width := by exact_mod_cast Iff.rfl
    simp [value?, same]
  have tooHigh : (Expression.above .height (.number h)).value? source.width source.height =
      some (truth (decide (h < source.height))) := by
    have same : (h : ℚ) < source.height ↔ (h : Int) < source.height := by exact_mod_cast Iff.rfl
    simp [value?, same]
  cases mode with
  | fill =>
      have alone : ∀ value : Nat,
          ((Expression.number value).value? source.width source.height).bind whole? =
            some (value : Int) := fun value => by
        rw [number, Option.bind_some, whole?_intCast]
      exact ⟨alone w, alone h⟩
  | contain =>
      exact ⟨value?_choice isWider (number w) value?_following,
        value?_choice isWider value?_following (number h)⟩
  | scaleDown =>
      exact ⟨value?_choice isWider leastWidth value?_following,
        value?_choice isWider value?_following leastHeight⟩
  | native =>
      exact ⟨value?_choice tooWide (number w) value?_following,
        value?_choice tooHigh (number h) value?_following⟩
  | cover =>
      exact ⟨value?_choice isWider value?_following (number w),
        value?_choice isWider (number h) value?_following⟩

/-- What the sides of a scaled picture have to be for the next filter to take it. -/
def Admits (mode : ScalingMode) (width height : Int) (source : Picture) (across down : Int) :
    Prop :=
  match mode with
  | .fill => across = width ∧ down = height
  | .contain => across ≤ width ∧ down ≤ height
  | .scaleDown | .native =>
      across ≤ width ∧ down ≤ height ∧ across ≤ source.width ∧ down ≤ source.height
  | .cover => width ≤ across ∧ height ≤ down

theorem min_mul_le (side bound : Int) {other : Int} (nonneg : 0 ≤ other) :
    min side bound * other ≤ side * other ∧ min side bound * other ≤ bound * other :=
  ⟨mul_le_mul_of_nonneg_right (min_le_left side bound) nonneg,
    mul_le_mul_of_nonneg_right (min_le_right side bound) nonneg⟩

theorem exists_scaledSides (mode : ScalingMode) (rounding : NearestWhole) {width height : Int}
    (wide : 1 ≤ width) (high : 1 ≤ height) (visible : source.Visible) :
    ∃ across down, scaledSides? rounding source (mode.targets width height source).1
        (mode.targets width height source).2 = some (across, down) ∧
      mode.Admits width height source across down := by
  obtain ⟨wide', high'⟩ := visible
  -- A side that is left open is rounded from the ratio, and rounding never passes a whole number:
  -- the bounds of a side hold as soon as they hold of its ratio, where no side is divided.
  cases mode with
  | fill => exact ⟨width, height, scaledSides?_given wide high, rfl, rfl⟩
  | contain =>
      by_cases isWider : width * source.height ≤ source.width * height
      · simp only [targets, isWider, decide_true, if_true, scaledSides?_width wide]
        exact ⟨_, _, rfl, le_refl _, rounding.nearest_ratio_le wide' (by linarith)⟩
      · simp only [targets, isWider, decide_false, Bool.false_eq_true, if_false,
          scaledSides?_height high]
        exact ⟨_, _, rfl, rounding.nearest_ratio_le high' (by linarith), le_refl _⟩
  | scaleDown =>
      by_cases isWider : width * source.height ≤ source.width * height
      · obtain ⟨native, within⟩ :=
          min_mul_le source.width width (by omega : 0 ≤ source.height)
        simp only [targets, isWider, decide_true, if_true,
          scaledSides?_width (le_min wide' wide)]
        exact ⟨_, _, rfl, min_le_right _ _, rounding.nearest_ratio_le wide' (by linarith),
          min_le_left _ _, rounding.nearest_ratio_le wide' (by linarith)⟩
      · obtain ⟨native, within⟩ :=
          min_mul_le source.height height (by omega : 0 ≤ source.width)
        simp only [targets, isWider, decide_false, Bool.false_eq_true, if_false,
          scaledSides?_height (le_min high' high)]
        exact ⟨_, _, rfl, rounding.nearest_ratio_le high' (by linarith), min_le_right _ _,
          rounding.nearest_ratio_le high' (by linarith), min_le_left _ _⟩
  | native =>
      by_cases across : width < source.width <;> by_cases down : height < source.height <;>
        simp only [targets, across, down, decide_true, decide_false, Bool.false_eq_true, if_true,
          if_false]
      · rw [scaledSides?_given wide high]
        exact ⟨_, _, rfl, le_refl _, le_refl _, across.le, down.le⟩
      · have native : width * source.height ≤ source.height * source.width := by nlinarith
        have kept := rounding.nearest_ratio_le wide' native
        rw [scaledSides?_width wide]
        exact ⟨_, _, rfl, le_refl _, kept.trans (not_lt.mp down), across.le, kept⟩
      · have native : height * source.width ≤ source.width * source.height := by nlinarith
        have kept := rounding.nearest_ratio_le high' native
        rw [scaledSides?_height high]
        exact ⟨_, _, rfl, kept.trans (not_lt.mp across), le_refl _, kept, down.le⟩
      · rw [scaledSides?_both]
        exact ⟨_, _, rfl, not_lt.mp across, not_lt.mp down, le_refl _, le_refl _⟩
  | cover =>
      by_cases isWider : width * source.height ≤ source.width * height
      · simp only [targets, isWider, decide_true, if_true, scaledSides?_height high]
        exact ⟨_, _, rfl, rounding.le_nearest_ratio high' (by linarith), le_refl _⟩
      · simp only [targets, isWider, decide_false, Bool.false_eq_true, if_false,
          scaledSides?_width wide]
        exact ⟨_, _, rfl, le_refl _, rounding.le_nearest_ratio wide' (by linarith)⟩

/-- The next filter brings a picture with admitted sides to the size of the frame. -/
theorem stagesOf?_trimming (mode : ScalingMode) (rounding : NearestWhole) (scaled : Picture)
    (admits : mode.Admits w h source scaled.width scaled.height) :
    ∃ between, stagesOf? rounding scaled (mode.trimming w h ++ [("setsar", [.number 1])]) =
      some (between ++ [⟨w, h, 1⟩]) := by
  have square : ∀ picture : Picture, filtered? rounding picture ("setsar", [.number 1]) =
      some ⟨picture.width, picture.height, 1⟩ := fun picture => by simp [filtered?, value?]
  have whole : ∀ value : Nat, whole? (value : ℚ) = some (value : Int) := fun value => by
    exact_mod_cast whole?_intCast value
  have pads : scaled.width ≤ w → scaled.height ≤ h → filtered? rounding scaled (padded w h) =
      some ⟨w, h, scaled.aspect⟩ := by
    intro across down
    have across' : (scaled.width : ℚ) ≤ w := by exact_mod_cast across
    have down' : (scaled.height : ℚ) ≤ h := by exact_mod_cast down
    have inside : (0 : ℚ) ≤ (w - scaled.width) / 2 ∧
        (w - scaled.width) / 2 + (scaled.width : ℚ) ≤ w := by constructor <;> linarith
    have inside' : (0 : ℚ) ≤ (h - scaled.height) / 2 ∧
        (h - scaled.height) / 2 + (scaled.height : ℚ) ≤ h := by constructor <;> linarith
    simp [filtered?, padded, value?, operate?, pad?, whole, across, down, inside, inside']
  have crops : (w : Int) ≤ scaled.width → (h : Int) ≤ scaled.height →
      filtered? rounding scaled ("crop", [.number w, .number h]) = some ⟨w, h, scaled.aspect⟩ := by
    intro across down
    simp [filtered?, value?, crop?, whole, across, down]
  -- What a mode admits is what its next filter asks for: room to pad, or enough to crop.
  cases mode with
  | fill =>
      obtain ⟨across, down⟩ := admits
      exact ⟨[], by simp [trimming, stagesOf?, square, across, down]⟩
  | contain =>
      obtain ⟨across, down⟩ := admits
      exact ⟨[⟨w, h, scaled.aspect⟩], by simp [trimming, stagesOf?, square, pads across down]⟩
  | scaleDown | native =>
      obtain ⟨across, down, -, -⟩ := admits
      exact ⟨[⟨w, h, scaled.aspect⟩], by simp [trimming, stagesOf?, square, pads across down]⟩
  | cover =>
      obtain ⟨across, down⟩ := admits
      exact ⟨[⟨w, h, scaled.aspect⟩], by simp [trimming, stagesOf?, square, crops across down]⟩

theorem filtered?_scale (mode : ScalingMode) (high : 1 ≤ h) (visible : source.Visible) :
    filtered? rounding source ("scale", [(mode.sides w h).1, (mode.sides w h).2]) =
      scale? rounding source (mode.targets w h source).1 (mode.targets w h source).2 := by
  obtain ⟨across, down⟩ := mode.value?_sides (w := w) high visible
  obtain ⟨first, given, whole⟩ := Option.bind_eq_some_iff.mp across
  obtain ⟨second, given', whole'⟩ := Option.bind_eq_some_iff.mp down
  simp [filtered?, given, given', whole, whole']

/-- A picture that is scaled to the sides that its mode asks for comes out as large as the
frame. -/
theorem exists_stages (mode : ScalingMode) (rounding : NearestWhole) (wide : 1 ≤ w) (high : 1 ≤ h)
    (visible : source.Visible) :
    ∃ scaled later, stages? rounding (mode.chain w h) source = some (scaled :: later) ∧
      (scaled :: later).getLast? = some ⟨w, h, 1⟩ ∧
      mode.Admits w h source scaled.width scaled.height := by
  obtain ⟨across, down, sides, admits⟩ := mode.exists_scaledSides rounding
    (by exact_mod_cast wide : (1 : Int) ≤ w) (by exact_mod_cast high : (1 : Int) ≤ h) visible
  let scaled : Picture :=
    ⟨across, down, source.aspect * (source.width * down) / (across * source.height)⟩
  have scales : filtered? rounding source ("scale", [(mode.sides w h).1, (mode.sides w h).2]) =
      some scaled := by
    rw [filtered?_scale mode high visible, scale?, sides]
    rfl
  obtain ⟨between, rest⟩ :=
    mode.stagesOf?_trimming rounding scaled admits
  refine ⟨scaled, between ++ [⟨w, h, 1⟩], ?_, ?_, admits⟩
  · rw [stages?, filters?_chain, Option.bind_some, reading, List.cons_append, stagesOf?, scales]
    simp [rest]
  · rw [← List.cons_append, List.getLast?_concat]

end Targets

/-- Every mode brings a picture of any size to the size of the frame with square pixels, and those
that never enlarge have scaled it to no more than its own size before.  All pictures of a graph
are brought to the size of its frame, so that they can be joined. -/
theorem fits_frame (rounding : NearestWhole) :
    (∀ (mode : ScalingMode) (width height : Int) (source : Picture), 1 ≤ width → 1 ≤ height →
      source.Visible → ∃ scaled later, stages? rounding (mode.chain width height) source =
          some (scaled :: later) ∧ (scaled :: later).getLast? = some ⟨width, height, 1⟩ ∧
        (mode = .scaleDown ∨ mode = .native →
          scaled.width ≤ source.width ∧ scaled.height ≤ source.height)) ∧
    ∀ (frame : Frame) (timeline : ResolvedTimeline) (graph : Graph),
      Graph.build frame timeline = .ok graph → 1 ≤ frame.width → 1 ≤ frame.height →
      ∃ segments picture drawings, Signal.join? false segments = some picture ∧
        graph.program.signal? (.label graph.videoLabel) = some (picture.draw drawings) ∧
        ∀ segment ∈ segments, ∃ chain stream,
          segment.1 = .result (.scale chain) [.stream stream] ∧
          ∀ source : Picture, source.Visible → ∃ stages,
            stages? rounding chain source = some stages ∧
            stages.getLast? = some ⟨frame.width, frame.height, 1⟩ := by
  have fits : ∀ (mode : ScalingMode) (width height : Int) (source : Picture), 1 ≤ width →
      1 ≤ height → source.Visible → ∃ scaled later,
        stages? rounding (mode.chain width height) source = some (scaled :: later) ∧
        (scaled :: later).getLast? = some ⟨width, height, 1⟩ ∧
        (mode = .scaleDown ∨ mode = .native →
          scaled.width ≤ source.width ∧ scaled.height ≤ source.height) := by
    intro mode width height source wide high visible
    lift width to Nat using by omega
    lift height to Nat using by omega
    obtain ⟨scaled, later, run, last, admits⟩ := mode.exists_stages rounding
      (by exact_mod_cast wide) (by exact_mod_cast high) visible
    refine ⟨scaled, later, run, last, ?_⟩
    rintro (rfl | rfl) <;> exact admits.2.2
  refine ⟨fits, fun frame timeline graph built wide high => ?_⟩
  obtain ⟨picture, joined, shown⟩ := (Graph.plays_of_build built).picture
  refine ⟨_, picture, _, joined, shown, fun segment member => ?_⟩
  obtain ⟨⟨resolved, index⟩, -, given⟩ := List.mem_filterMap.mp member
  obtain ⟨scaling, duration, fitted⟩ : ∃ scaling duration,
      (fittedPicture frame index scaling, duration) = segment := by
    unfold pictureOf? at given
    dsimp only at given
    split at given
    · exact ⟨_, _, Option.some.inj given⟩
    · exact ⟨_, _, Option.some.inj given⟩
    · simp at given
    · simp at given
  subst fitted
  refine ⟨_, _, rfl, fun source visible => ?_⟩
  obtain ⟨scaled, later, run, last, -⟩ := fits _ _ _ source wide high visible
  exact ⟨_, run, last⟩

/-- A picture that is wider than the frame, and the pictures of a graph. -/
theorem fits_frame_wide :
    (∃ scaled later, stages? .halfUp (scaleDown.chain 640 360) ⟨1000, 501, 1⟩ =
        some (scaled :: later) ∧ (scaled :: later).getLast? = some ⟨640, 360, 1⟩ ∧
      scaled.width ≤ 1000 ∧ scaled.height ≤ 501) ∧
    ∃ graph, Graph.build Graph.plainFrame Graph.mixedTimeline = .ok graph ∧
      ∃ segments picture, Signal.join? false segments = some picture ∧
        ∀ segment ∈ segments, ∃ chain stream,
          segment.1 = .result (.scale chain) [.stream stream] ∧
          ∃ stages, stages? .halfUp chain ⟨1000, 501, 1⟩ = some stages ∧
            stages.getLast? = some ⟨640, 360, 1⟩ := by
  obtain ⟨fits, agree⟩ := fits_frame .halfUp
  have visible : Picture.Visible ⟨1000, 501, 1⟩ := ⟨by decide, by decide⟩
  refine ⟨?_, ?_⟩
  · obtain ⟨scaled, later, run, last, smaller⟩ :=
      fits .scaleDown 640 360 ⟨1000, 501, 1⟩ (by decide) (by decide) visible
    exact ⟨scaled, later, run, last, smaller (.inl rfl)⟩
  · have succeeds : (Graph.build Graph.plainFrame Graph.mixedTimeline).toOption.isSome = true := by
      decide +kernel
    obtain ⟨graph, built⟩ := Option.isSome_iff_exists.mp succeeds
    have built := toOption_eq_some_iff.mp built
    obtain ⟨segments, picture, drawings, joined, -, each⟩ :=
      agree _ _ graph built (by decide) (by decide)
    refine ⟨graph, built, segments, picture, joined, fun segment member => ?_⟩
    obtain ⟨chain, stream, scales, runs⟩ := each segment member
    exact ⟨chain, stream, scales, runs _ visible⟩

end ScalingMode

end Montage
