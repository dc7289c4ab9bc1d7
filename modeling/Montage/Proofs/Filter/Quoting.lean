import Montage.Proofs.Filter.Reading

/-!
# Quoted values read back

What quoting does to a text is undone by the readers that the text goes through: the graph
reader and the option reader, and for drawn text the drawing filter.  A quoted value has no
structure of its own wherever it stands.
-/

namespace Montage.Filter

section GraphReader

/-- Inside quotes, characters with their single quotes taken out of the quotes read as
they were. -/
theorem lexemesFrom?_flatMap_graphEscape (characters rest : List Char) :
    lexemesFrom? .quoted (characters.flatMap graphEscape ++ rest) =
      (lexemesFrom? .quoted rest).map (characters.map .literal ++ ·) := by
  induction characters with
  | nil => simp
  | cons character characters ih =>
      rw [List.flatMap_cons, List.append_assoc]
      by_cases quote : character = '\''
      · subst quote
        -- The quotes are left, a backslash keeps the quote, and new quotes are entered.
        simp [graphEscape, lexemesFrom?, ih, Function.comp_def]
      · simp [graphEscape, quote, lexemesFrom?, ih, Function.comp_def]

def optionEscaped (value : String) : String :=
  String.ofList (value.toList.flatMap optionEscape)

/-- Wherever a quoted value stands, the graph reader hands it on as it was escaped for the
option reader. -/
theorem lexes_quote (value : String) : Lexes (quote value) (literals (optionEscaped value)) := by
  intro rest
  have inside := lexemesFrom?_flatMap_graphEscape (value.toList.flatMap optionEscape)
    ('\'' :: rest)
  simp only [quote, quoteCharacters, optionEscaped, literals, String.toList_ofList,
    List.cons_append, List.append_assoc, List.nil_append, lexemesFrom?] at inside ⊢
  simpa using inside

theorem unquoted?_quote (value : String) :
    unquoted? (quote value) = some (optionEscaped value) := by
  rw [unquoted?, (lexes_quote value).lexemes?_eq, Option.bind_some, plainText?_literals]

end GraphReader

section Escapes

variable {standsForMore : Char → Bool} {escape : Char → List Char}

/-- Whether each character is escaped by a backslash, or stands for itself without one. -/
def Escapes (standsForMore : Char → Bool) (escape : Char → List Char) : Prop :=
  ∀ character, escape character = ['\\', character] ∨
    escape character = [character] ∧ character ≠ '\\' ∧ standsForMore character = false

theorem readEscaped_cons {character : Char} (noBackslash : character ≠ '\\')
    (plain : standsForMore character = false) (rest : List Char) :
    readEscaped standsForMore (character :: rest) =
      (character :: (readEscaped standsForMore rest).1,
        (readEscaped standsForMore rest).2) := by
  cases rest <;> simp [readEscaped, noBackslash, plain]

theorem readEscaped_flatMap (escapes : Escapes standsForMore escape)
    (characters : List Char) :
    readEscaped standsForMore (characters.flatMap escape) = (characters, []) := by
  induction characters with
  | nil => rfl
  | cons character characters ih =>
      rw [List.flatMap_cons]
      rcases escapes character with escaped | ⟨kept, noBackslash, plain⟩
      · simp [escaped, readEscaped, ih]
      · rw [kept, List.singleton_append, readEscaped_cons noBackslash plain, ih]

theorem escapes_optionEscape :
    Escapes (fun character => character == ':' || character == '\'') optionEscape := by
  intro character
  unfold optionEscape
  split
  next => exact .inl rfl
  next plain =>
    simp only [not_or] at plain
    exact .inr ⟨rfl, plain.1, by simp [plain.2.1, plain.2.2]⟩

theorem escapes_expansionEscape : Escapes (· == '%') expansionEscape := by
  intro character
  unfold expansionEscape
  split
  next => exact .inl rfl
  next plain =>
    simp only [not_or] at plain
    exact .inr ⟨rfl, plain.1, by simp [plain.2]⟩

theorem readOption_optionEscaped (value : String) :
    readOption (optionEscaped value) = (value, "") := by
  simp [readOption, optionEscaped, readEscaped_flatMap escapes_optionEscape]

def expansionEscaped (text : String) : String :=
  String.ofList (text.toList.flatMap expansionEscape)

theorem readDrawn_expansionEscaped (text : String) :
    readDrawn (expansionEscaped text) = (text, "") := by
  simp [readDrawn, expansionEscaped, readEscaped_flatMap escapes_expansionEscape]

theorem quoteText_eq_quote (text : String) : quoteText text = quote (expansionEscaped text) := by
  simp [quoteText, quote, expansionEscaped]

end Escapes

/-- Quoting is undone by reading.  The graph reader takes a quoted value for one text
without structure, and the option reader reads the value from it to its end.  Quoted text
for drawing goes through both in the same way, and is drawn as it was without any
expansion. -/
theorem quoting_is_undone (text : String) :
    (∃ escaped, unquoted? (quote text) = some escaped ∧ readOption escaped = (text, "")) ∧
    ∃ escaped value, unquoted? (quoteText text) = some escaped ∧
      readOption escaped = (value, "") ∧ readDrawn value = (text, "") := by
  refine ⟨⟨optionEscaped text, unquoted?_quote text, readOption_optionEscaped text⟩,
    optionEscaped (expansionEscaped text), expansionEscaped text, ?_,
    readOption_optionEscaped _, readDrawn_expansionEscaped text⟩
  rw [quoteText_eq_quote]
  exact unquoted?_quote _

example : quoteText "a'b%" = "'a\\'\\''b\\\\%'" := by decide

end Montage.Filter
