import Montage.Filter.Graph
import Montage.Proofs.Filter.Quoting

/-!
# Statements as chains

Every statement that a graph is built from reads as its chains of filters: one chain, or
one for each segment of a join and one for the join itself.  The pads around a chain are
the labels and streams of the statement, and no value inside it has structure.
-/

namespace Montage.Filter

section Plain

def isPlain (character : Char) : Bool :=
  character != '\\' && character != '\'' &&
    Lexeme.ofCharacter character == .literal character

def Plain (text : String) : Prop :=
  ∀ character ∈ text.toList, isPlain character

instance (text : String) : Decidable (Plain text) :=
  decidable_of_iff (text.toList.all isPlain = true) List.all_eq_true

@[simp]
theorem plain_append {text more : String} : Plain (text ++ more) ↔ Plain text ∧ Plain more := by
  simp [Plain, or_imp, forall_and]

theorem lexes_of_plain {text : String} (plain : Plain text) : Lexes text (literals text) := by
  intro rest
  unfold Plain at plain
  unfold literals
  generalize text.toList = characters at plain ⊢
  induction characters with
  | nil => simp
  | cons character characters ih =>
      have first := plain character List.mem_cons_self
      have later := ih fun other member => plain other (List.mem_cons_of_mem _ member)
      simp only [isPlain, Bool.and_eq_true, bne_iff_ne, beq_iff_eq] at first
      simp [lexemesFrom?, first, later, Function.comp_def]

theorem isPlain_of_isAlphanum {character : Char} (alphanumeric : character.isAlphanum) :
    isPlain character := by
  have ne : ∀ other : Char, other.isAlphanum = false → character ≠ other := by
    rintro other fails rfl
    simp [fails] at alphanumeric
  have literal : Lexeme.ofCharacter character = .literal character := by
    unfold Lexeme.ofCharacter
    split
    · exact absurd rfl (ne '[' rfl)
    · exact absurd rfl (ne ']' rfl)
    · exact absurd rfl (ne ',' rfl)
    · exact absurd rfl (ne ';' rfl)
    · rfl
  simp [isPlain, ne '\\' rfl, ne '\'' rfl, literal]

def Alphanumeric (text : String) : Prop :=
  ∀ character ∈ text.toList, character.isAlphanum

instance (text : String) : Decidable (Alphanumeric text) :=
  decidable_of_iff (text.toList.all Char.isAlphanum = true) List.all_eq_true

theorem Alphanumeric.plain {text : String} (alphanumeric : Alphanumeric text) : Plain text :=
  fun character member => isPlain_of_isAlphanum (alphanumeric character member)

theorem isAlphanum_of_mem_digitsOf {value : Nat} {digit : Char}
    (member : digit ∈ Decimal.digitsOf value) : digit.isAlphanum := by
  have isDigit := Nat.isDigit_of_mem_toDigits (by decide) (by decide) member
  simp [Char.isAlphanum, isDigit]

theorem alphanumeric_ofInt (value : Nat) : Alphanumeric (Decimal.ofInt value) := by
  intro digit member
  have nonneg : ¬ (value : Int) < 0 := by omega
  simp only [Decimal.ofInt, if_neg nonneg, String.toList_ofList] at member
  exact isAlphanum_of_mem_digitsOf member

theorem alphanumeric_numbered {letter : String} (alphanumeric : Alphanumeric letter)
    (number : Nat) : Alphanumeric (Builder.numbered letter number) := by
  intro character member
  rw [Builder.numbered, String.toList_append, List.mem_append] at member
  exact member.elim (alphanumeric character) (alphanumeric_ofInt number character)

theorem plain_digitsOf (value : Nat) : Plain (String.ofList (Decimal.digitsOf value)) := by
  intro digit member
  rw [String.toList_ofList] at member
  exact isPlain_of_isAlphanum (isAlphanum_of_mem_digitsOf member)

theorem plain_ofInt (value : Int) : Plain (Decimal.ofInt value) := by
  unfold Decimal.ofInt
  split
  · exact plain_append.mpr ⟨by decide, plain_digitsOf _⟩
  · exact plain_digitsOf _

theorem plain_amount (number : Binary64) : Plain (Decimal.amount number) := by
  cases number with
  | nan => decide
  | infinite negative => cases negative <;> decide
  | negativeZero => decide
  | finite value exact =>
      intro character member
      simp only [Decimal.amount, Decimal.amountOfRat, String.toList_ofList, List.mem_append]
        at member
      rcases member with (sign | whole) | fraction
      · split at sign
        · rw [List.mem_singleton.mp sign]
          rfl
        · simp at sign
      · exact isPlain_of_isAlphanum (isAlphanum_of_mem_digitsOf whole)
      · split at fraction
        · simp at fraction
        · rcases List.mem_cons.mp fraction with rfl | digit
          · rfl
          · have padded := (List.dropWhile_suffix _).subset (List.mem_reverse.mp digit)
            rw [List.mem_reverse, Decimal.padZeros, List.mem_append] at padded
            rcases padded with zero | digit
            · rw [List.eq_of_mem_replicate zero]
              rfl
            · exact isPlain_of_isAlphanum (isAlphanum_of_mem_digitsOf digit)

end Plain

section Filters

def Legible (text : String) : Prop :=
  ∃ shown, Lexes text (literals shown)

def Shows (name text : String) : Prop :=
  ∃ options, Lexes text (literals (name ++ options))

theorem legible_of_plain {text : String} (plain : Plain text) : Legible text :=
  ⟨text, lexes_of_plain plain⟩

theorem Legible.append {text more : String} (legible : Legible text) (legible' : Legible more) :
    Legible (text ++ more) := by
  obtain ⟨shown, lexes⟩ := legible
  obtain ⟨shown', lexes'⟩ := legible'
  refine ⟨shown ++ shown', ?_⟩
  rw [literals_append]
  exact lexes.append lexes'

theorem Legible.join {separator : String} (plain : Plain separator) {texts : List String}
    (legible : ∀ text ∈ texts, Legible text) : Legible (Text.join separator texts) := by
  induction texts with
  | nil => exact ⟨"", lexes_empty⟩
  | cons text texts ih =>
      have first := legible text List.mem_cons_self
      have later := ih fun other member => legible other (List.mem_cons_of_mem _ member)
      cases texts with
      | nil => simpa [Text.join] using first
      | cons next texts =>
          rw [Text.join, String.intercalate_cons_cons]
          exact (first.append (legible_of_plain plain)).append later

theorem Legible.shows {name text : String} (plain : Plain name) (legible : Legible text) :
    Shows name (name ++ text) := by
  obtain ⟨shown, lexes⟩ := legible
  refine ⟨shown, ?_⟩
  rw [literals_append]
  exact (lexes_of_plain plain).append lexes

theorem legible_quote (value : String) : Legible (quote value) :=
  ⟨optionEscaped value, lexes_quote value⟩

/-- Text between quotes reads as it is unless it has a quote itself. -/
theorem lexes_quoted {text : String} (unquoted : '\'' ∉ text.toList) :
    Lexes ("'" ++ text ++ "'") (literals text) := by
  -- Up to the closing quote the reader stays inside quotes and takes all as it is.
  have inside : ∀ characters : List Char, '\'' ∉ characters → ∀ rest,
      lexemesFrom? .quoted (characters ++ '\'' :: rest) =
        (lexemesFrom? .outside rest).map (characters.map .literal ++ ·) := by
    intro characters
    induction characters with
    | nil => simp [lexemesFrom?]
    | cons character characters ih =>
        intro unquoted rest
        simp only [List.mem_cons, not_or] at unquoted
        simp [lexemesFrom?, Ne.symm unquoted.1, ih unquoted.2, Function.comp_def]
  intro rest
  simpa [lexemesFrom?, literals] using inside text.toList unquoted rest

theorem legible_quoted {text : String} (unquoted : '\'' ∉ text.toList) :
    Legible ("'" ++ text ++ "'") :=
  ⟨text, lexes_quoted unquoted⟩

end Filters

section Scaling

open ScalingMode

theorem quote_not_mem_ofInt (value : Int) : '\'' ∉ (Decimal.ofInt value).toList := by
  intro member
  have plain := plain_ofInt value '\'' member
  simp [isPlain] at plain

/-- Whether a text reads as one filter, which is not empty. -/
def IsFilter (text : String) : Prop :=
  ∃ shown, shown ≠ "" ∧ Lexes text (literals shown)

theorem Shows.isFilter {name text : String} (shows : Shows name text) (named : name ≠ "") :
    IsFilter text := by
  obtain ⟨options, lexes⟩ := shows
  exact ⟨name ++ options, fun nothing => named (String.append_eq_empty_iff.mp nothing).1, lexes⟩

theorem isFilter_of_plain {text : String} (plain : Plain text) (named : text ≠ "") :
    IsFilter text :=
  ⟨text, named, lexes_of_plain plain⟩

theorem isFilter_scale (across down : String) {text : String}
    (spelled : text.toList = "scale='".toList ++ across.toList ++ "':'".toList ++
      down.toList ++ ['\''])
    (acrossUnquoted : '\'' ∉ across.toList) (downUnquoted : '\'' ∉ down.toList) :
    IsFilter text := by
  have textEq : text = "scale=" ++ ("'" ++ across ++ "'" ++ ":" ++ ("'" ++ down ++ "'")) := by
    apply String.toList_inj.mp
    simp [spelled]
  rw [textEq]
  exact (Legible.shows (by decide) (((legible_quoted acrossUnquoted).append
    (legible_of_plain (by decide))).append (legible_quoted downUnquoted))).isFilter (by decide)

theorem isFilter_padding (width height : Int) :
    IsFilter (padding (Decimal.ofInt width) (Decimal.ofInt height)) := by
  refine isFilter_of_plain ?_ ?_
  · simp only [padding, toString, plain_append, plain_ofInt, and_true]
    decide
  · simp [padding, toString]

theorem isFilter_of_mem_filters {mode : ScalingMode} {width height : Int} {filter : String}
    (member : filter ∈ mode.filters width height) : IsFilter filter := by
  have square : IsFilter "setsar=1" := isFilter_of_plain (by decide) (by decide)
  have padded := isFilter_padding width height
  have widthUnquoted := quote_not_mem_ofInt width
  have heightUnquoted := quote_not_mem_ofInt height
  have plainWidth := plain_ofInt width
  have plainHeight := plain_ofInt height
  unfold ScalingMode.filters at member
  -- All that counts of the numbers from here on is that they are plain.
  generalize Decimal.ofInt width = w at *
  generalize Decimal.ofInt height = h at *
  let wider := s!"gte(iw/ih,{w}/{h})"
  cases mode <;>
    simp only [List.cons_append, List.nil_append, List.mem_cons, List.not_mem_nil,
      or_false] at member
  case fill =>
    rcases member with rfl | rfl
    · refine isFilter_of_plain ?_ (by simp [toString])
      simp only [toString, plain_append, plainWidth, plainHeight, and_true]
      decide
    · exact square
  case contain =>
    rcases member with rfl | rfl | rfl
    · apply isFilter_scale s!"if({wider},{w},-1)" s!"if({wider},-1,{h})" <;>
        simp [wider, toString, widthUnquoted, heightUnquoted]
    · exact padded
    · exact square
  case scaleDown =>
    rcases member with rfl | rfl | rfl
    · apply isFilter_scale s!"if({wider},min(iw,{w}),-1)" s!"if({wider},-1,min(ih,{h}))" <;>
        simp [wider, toString, widthUnquoted, heightUnquoted]
    · exact padded
    · exact square
  case native =>
    rcases member with rfl | rfl | rfl
    · apply isFilter_scale s!"if(gt(iw,{w}),{w},-1)" s!"if(gt(ih,{h}),{h},-1)" <;>
        simp [toString, widthUnquoted, heightUnquoted]
    · exact padded
    · exact square
  case cover =>
    rcases member with rfl | rfl | rfl
    · apply isFilter_scale s!"if({wider},-1,{w})" s!"if({wider},{h},-1)" <;>
        simp [wider, toString, widthUnquoted, heightUnquoted]
    · refine isFilter_of_plain ?_ (by simp [toString])
      simp only [toString, plain_append, plainWidth, plainHeight, and_true]
      decide
    · exact square

end Scaling

section Bodies

/-- Whether a text reads as filters with commas between them, of which none is empty. -/
structure ReadsFilters (text : String) (filters : List String) : Prop where
  lexes : Lexes text (filterLexemes filters)
  some : filters ≠ []
  named : "" ∉ filters

theorem Shows.readsFilters {name text : String} (shows : Shows name text) (named : name ≠ "") :
    ∃ options, ReadsFilters text [name ++ options] := by
  obtain ⟨options, lexes⟩ := shows
  refine ⟨options, by simpa [filterLexemes] using lexes, by simp, ?_⟩
  intro nothing
  exact named (String.append_eq_empty_iff.mp (List.mem_singleton.mp nothing).symm).1

theorem readsFilters_join {texts : List String} (some : texts ≠ [])
    (filters : ∀ text ∈ texts, IsFilter text) :
    ∃ shown, ReadsFilters (Text.join "," texts) shown := by
  have separates : Lexes "," [.mark .comma] := fun rest => rfl
  have each : ∃ shown : List String, "" ∉ shown ∧
      List.Forall₂ Lexes texts (shown.map literals) := by
    clear some
    induction texts with
    | nil => exact ⟨[], by simp, .nil⟩
    | cons text texts ih =>
        obtain ⟨first, named, lexes⟩ := filters text List.mem_cons_self
        obtain ⟨shown, filled, rest⟩ :=
          ih fun other member => filters other (List.mem_cons_of_mem _ member)
        refine ⟨first :: shown, ?_, .cons lexes rest⟩
        simpa [eq_comm] using ⟨named, filled⟩
  obtain ⟨shown, filled, reads⟩ := each
  refine ⟨shown, separates.intercalate reads, ?_, filled⟩
  rintro rfl
  cases reads
  exact some rfl

theorem readsFilters_of_plain {text : String} (plain : Plain text) (named : text ≠ "") :
    ReadsFilters text [text] :=
  ⟨by simpa [filterLexemes] using lexes_of_plain plain, by simp, by simpa [eq_comm] using named⟩

theorem readsChains_between {inputs filters : List String} {body output : String}
    (plain : ∀ name ∈ inputs, Plain name) (plain' : Plain output)
    (reads : ReadsFilters body filters) :
    ReadsChains (String.join (inputs.map Statement.bracketed) ++ body ++
      Statement.bracketed output) [⟨inputs, filters, [output]⟩] := by
  have pad : ∀ name, Plain name → Lexes (Statement.bracketed name)
      (.mark .opening :: literals name ++ [.mark .closing]) := by
    intro name plain
    have opens : Lexes "[" [.mark .opening] := fun rest => rfl
    have closes : Lexes "]" [.mark .closing] := fun rest => rfl
    exact (opens.append (lexes_of_plain plain)).append closes
  refine readsChains_singleton ⟨reads.some, reads.named⟩ ?_
  have before : Lexes (String.join (inputs.map Statement.bracketed)) (padLexemes inputs) :=
    Lexes.join fun name member => pad name (plain name member)
  have behind : Lexes (Statement.bracketed output) (padLexemes [output]) := by
    simpa [padLexemes] using pad output plain'
  exact (before.append reads.lexes).append behind

end Bodies

end Montage.Filter
