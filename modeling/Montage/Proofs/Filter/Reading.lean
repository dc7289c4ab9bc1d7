import Montage.Filter.Statement
import Montage.Proofs.Sequence
import Montage.Proofs.Text.Cutting
import Mathlib.Data.List.Forall2

/-!
# Reading filter graphs

How the text of a filter graph is read.  The graph reader takes characters out of quotes
and from behind backslashes, and splits the text at the marks outside them into chains of
filters with their pads.  What it takes for the value of an option is unescaped by the
option reader, and text that is drawn once more by the drawing filter.
-/

namespace Montage.Filter

/-- Characters with a meaning of their own outside quotes. -/
inductive Mark where
  | opening
  | closing
  | comma
  | semicolon
  deriving DecidableEq, Repr

/-- What the graph reader takes from a text: characters that stand for themselves, and
marks. -/
inductive Lexeme where
  | literal (character : Char)
  | mark (mark : Mark)
  deriving DecidableEq, Repr

namespace Lexeme

def ofCharacter : Char → Lexeme
  | '[' => .mark .opening
  | ']' => .mark .closing
  | ',' => .mark .comma
  | ';' => .mark .semicolon
  | character => .literal character

def literal? : Lexeme → Option Char
  | .literal character => some character
  | .mark _ => none

end Lexeme

/-- Where the graph reader stands: outside quotes, inside them, or behind a backslash. -/
inductive Stance where
  | outside
  | quoted
  | escaped
  deriving DecidableEq, Repr

/-- The lexemes of characters from a stance on.  There are none if a quote is not closed
or nothing follows a backslash. -/
def lexemesFrom? : Stance → List Char → Option (List Lexeme)
  | .outside, [] => some []
  | .quoted, [] => none
  | .escaped, [] => none
  | .outside, character :: rest =>
      if character = '\\' then lexemesFrom? .escaped rest
      else if character = '\'' then lexemesFrom? .quoted rest
      else (lexemesFrom? .outside rest).map (Lexeme.ofCharacter character :: ·)
  | .quoted, character :: rest =>
      if character = '\'' then lexemesFrom? .outside rest
      else (lexemesFrom? .quoted rest).map (.literal character :: ·)
  | .escaped, character :: rest =>
      (lexemesFrom? .outside rest).map (.literal character :: ·)

def lexemes? (text : String) : Option (List Lexeme) :=
  lexemesFrom? .outside text.toList

/-- The text that lexemes stand for, unless there is a mark among them. -/
def plainText? (lexemes : List Lexeme) : Option String :=
  (lexemes.mapM Lexeme.literal?).map String.ofList

/-- A text as the graph reader hands it on, unless it breaks off or has structure. -/
def unquoted? (text : String) : Option String :=
  (lexemes? text).bind plainText?

section Escapes

/-- The value at the start of characters in which a backslash makes the next one stand for
itself, and what is left from the first of some characters on that stands for more.  A
backslash at the end is left, too. -/
def readEscaped (standsForMore : Char → Bool) : List Char → List Char × List Char
  | [] => ([], [])
  | '\\' :: character :: rest =>
      let (value, left) := readEscaped standsForMore rest
      (character :: value, left)
  | character :: rest =>
      if character = '\\' ∨ standsForMore character then ([], character :: rest)
      else
        let (value, left) := readEscaped standsForMore rest
        (character :: value, left)

/-- The value of an option and what is left behind it.  A colon ends the value, and a
single quote would open another kind of text. -/
def readOption (text : String) : String × String :=
  let (value, left) := readEscaped (fun character => character == ':' || character == '\'')
    text.toList
  (String.ofList value, String.ofList left)

/-- Drawn text up to the first expansion, which a percent sign starts, and what is left
from there. -/
def readDrawn (text : String) : String × String :=
  let (value, left) := readEscaped (· == '%') text.toList
  (String.ofList value, String.ofList left)

end Escapes

/-- A chain of filters: the pads in front of it, the text of each filter, and the pads
behind it. -/
structure Chain where
  inputs : List String
  filters : List String
  outputs : List String
  deriving DecidableEq, Repr

/-- The pads at the start of lexemes, and what follows them, where the name of the pad under
way is known so far.  There are none if a pad is not closed. -/
def padsFrom? : Option (List Char) → List Lexeme → Option (List String × List Lexeme)
  | none, .mark .opening :: rest => padsFrom? (some []) rest
  | none, lexemes => some ([], lexemes)
  | some name, .literal character :: rest => padsFrom? (some (name ++ [character])) rest
  | some name, .mark .closing :: rest =>
      (padsFrom? none rest).map fun (pads, after) => (String.ofList name :: pads, after)
  | some _, _ => none

/-- The chain that lexemes between semicolons make.  Pads may only stand in front of all
its filters and behind them. -/
def chain? (lexemes : List Lexeme) : Option Chain := do
  let (inputs, rest) ← padsFrom? none lexemes
  let (outputs, beyond) ← padsFrom? none (rest.dropWhile (· != .mark .opening))
  let body := rest.takeWhile (· != .mark .opening)
  let filters ← (body.splitOn (.mark .comma)).mapM plainText?
  if beyond.isEmpty then some ⟨inputs, filters, outputs⟩ else none

/-- The chains of a filter graph, as the graph reader splits its text. -/
def chains? (text : String) : Option (List Chain) := do
  let lexemes ← lexemes? text
  (lexemes.splitOn (.mark .semicolon)).mapM chain?

section Texts

variable {text more : String} {lexemes others : List Lexeme}

/-- Whether a text reads as lexemes wherever it stands outside quotes. -/
def Lexes (text : String) (lexemes : List Lexeme) : Prop :=
  ∀ rest, lexemesFrom? .outside (text.toList ++ rest) =
    (lexemesFrom? .outside rest).map (lexemes ++ ·)

def literals (text : String) : List Lexeme :=
  text.toList.map .literal

theorem Lexes.lexemes?_eq (lexes : Lexes text lexemes) : lexemes? text = some lexemes := by
  simpa [lexemes?, lexemesFrom?] using lexes []

theorem lexes_empty : Lexes "" [] := by
  intro rest
  simp

theorem Lexes.append (lexes : Lexes text lexemes) (lexes' : Lexes more others) :
    Lexes (text ++ more) (lexemes ++ others) := by
  intro rest
  rw [String.toList_append, List.append_assoc, lexes, lexes', Option.map_map]
  simp [Function.comp_def]

theorem Lexes.join {α : Type} {write : α → String} {read : α → List Lexeme} {items : List α}
    (lexes : ∀ item ∈ items, Lexes (write item) (read item)) :
    Lexes (String.join (items.map write)) (items.flatMap read) := by
  induction items with
  | nil => exact lexes_empty
  | cons item items ih =>
      rw [List.map_cons, String.join_cons, List.flatMap_cons]
      exact (lexes item List.mem_cons_self).append
        (ih fun other member => lexes other (List.mem_cons_of_mem _ member))

/-- Texts with a separator between them read as their lexemes with its lexemes between
them. -/
theorem Lexes.intercalate {separator : String} {mark : List Lexeme}
    (separates : Lexes separator mark) {texts : List String} {reads : List (List Lexeme)}
    (lexes : List.Forall₂ Lexes texts reads) :
    Lexes (Text.join separator texts) (mark.intercalate reads) := by
  induction lexes with
  | nil => exact lexes_empty
  | cons first rest ih =>
      cases rest with
      | nil => simpa [Text.join] using first
      | cons second rest =>
          rw [Text.join, String.intercalate_cons_cons, List.intercalate_cons_cons]
          exact (first.append separates).append ih

theorem plainText?_literals (text : String) : plainText? (literals text) = some text := by
  have all : (literals text).mapM Lexeme.literal? = some text.toList :=
    mapM_map_eq_some fun _ _ => rfl
  simp [plainText?, all]

@[simp]
theorem literals_append (text more : String) :
    literals (text ++ more) = literals text ++ literals more := by
  simp [literals]

theorem mark_not_mem_literals (mark : Mark) (text : String) :
    Lexeme.mark mark ∉ literals text := by
  simp [literals]

end Texts

section Chains

def padLexemes (pads : List String) : List Lexeme :=
  pads.flatMap fun name => .mark .opening :: literals name ++ [.mark .closing]

def filterLexemes (filters : List String) : List Lexeme :=
  [.mark .comma].intercalate (filters.map literals)

namespace Chain

def lexemes (chain : Chain) : List Lexeme :=
  padLexemes chain.inputs ++ filterLexemes chain.filters ++ padLexemes chain.outputs

/-- Whether there are filters in a chain, and none of them is empty. -/
def Proper (chain : Chain) : Prop :=
  chain.filters ≠ [] ∧ "" ∉ chain.filters

end Chain

theorem padsFrom?_literals (done characters : List Char) (rest : List Lexeme) :
    padsFrom? (some done) (characters.map .literal ++ .mark .closing :: rest) =
      (padsFrom? none rest).map fun (pads, after) =>
        (String.ofList (done ++ characters) :: pads, after) := by
  induction characters generalizing done with
  | nil => simp [padsFrom?]
  | cons character characters ih => simp [padsFrom?, ih]

theorem padsFrom?_padLexemes (pads : List String) {rest : List Lexeme}
    (stops : padsFrom? none rest = some ([], rest)) :
    padsFrom? none (padLexemes pads ++ rest) = some (pads, rest) := by
  induction pads with
  | nil => exact stops
  | cons name pads ih =>
      have inside := padsFrom?_literals [] name.toList (padLexemes pads ++ rest)
      simp only [padLexemes, List.flatMap_cons, List.cons_append, List.append_assoc,
        padsFrom?, literals, List.nil_append] at inside ih ⊢
      rw [inside, ih, Option.map_some, String.ofList_toList]

theorem mem_filterLexemes {filters : List String} {lexeme : Lexeme}
    (member : lexeme ∈ filterLexemes filters) :
    lexeme = .mark .comma ∨ ∃ character, lexeme = .literal character := by
  induction filters with
  | nil => simp [filterLexemes] at member
  | cons first rest ih =>
      cases rest with
      | nil =>
          simp only [filterLexemes, literals, List.map_cons, List.map_nil,
            List.intercalate_singleton, List.mem_map] at member
          obtain ⟨character, -, rfl⟩ := member
          exact .inr ⟨character, rfl⟩
      | cons second rest =>
          simp only [filterLexemes, List.map_cons, List.intercalate_cons_cons,
            List.mem_append, List.mem_singleton, literals, List.mem_map] at member ih
          rcases member with (⟨character, -, rfl⟩ | rfl) | later
          · exact .inr ⟨character, rfl⟩
          · exact .inl rfl
          · exact ih later

theorem chain?_lexemes {chain : Chain} (proper : chain.Proper) :
    chain? chain.lexemes = some chain := by
  obtain ⟨inputs, filters, outputs⟩ := chain
  obtain ⟨filtered, filled⟩ := proper
  dsimp only at filtered filled
  -- No pad opens inside the filters, so they are cut off exactly where the outputs start.
  have noPad : ∀ lexeme ∈ filterLexemes filters, (lexeme != .mark .opening) = true := by
    intro lexeme member
    rcases mem_filterLexemes member with rfl | ⟨character, rfl⟩ <;> rfl
  have outside : padsFrom? none (padLexemes outputs) = some (outputs, []) := by
    have followed : padsFrom? none (padLexemes outputs ++ []) = some (outputs, []) :=
      padsFrom?_padLexemes outputs rfl
    simpa using followed
  have starts : padsFrom? none (filterLexemes filters ++ padLexemes outputs) =
      some ([], filterLexemes filters ++ padLexemes outputs) := by
    match filters, filtered with
    | first :: rest, _ =>
        -- The first filter is not empty: the inputs end at its first character.
        have some : first.toList ≠ [] := by
          intro none
          exact filled (by simp [String.toList_eq_nil_iff.mp none])
        obtain ⟨character, characters, spelled⟩ := List.exists_cons_of_ne_nil some
        cases rest <;>
          simp [filterLexemes, literals, spelled, padsFrom?, List.intercalate_cons_cons]
  have cut : (padLexemes outputs).takeWhile (· != .mark .opening) = [] ∧
      (padLexemes outputs).dropWhile (· != .mark .opening) = padLexemes outputs := by
    cases outputs <;> simp [padLexemes]
  have split : ((filterLexemes filters).splitOn (.mark .comma)).mapM plainText? =
      some filters := by
    rw [filterLexemes, List.splitOn_intercalate]
    · exact mapM_map_eq_some fun filter _ => plainText?_literals filter
    · simp [mark_not_mem_literals]
    · simpa using filtered
  simp only [chain?, Chain.lexemes, List.append_assoc, padsFrom?_padLexemes inputs starts,
    Option.bind_eq_bind, Option.bind_some, List.takeWhile_append_of_pos noPad,
    List.dropWhile_append_of_pos noPad, cut, outside, List.append_nil, split]
  rfl

theorem semicolon_not_mem_lexemes (chain : Chain) : .mark .semicolon ∉ chain.lexemes := by
  have pads : ∀ names, .mark .semicolon ∉ padLexemes names := by
    simp [padLexemes, mark_not_mem_literals]
  have filters : .mark .semicolon ∉ filterLexemes chain.filters := by
    intro member
    rcases mem_filterLexemes member with equal | ⟨character, equal⟩ <;> simp at equal
  simp [Chain.lexemes, pads, filters]

/-- Whether a text reads as proper chains with semicolons between them wherever it stands
outside quotes. -/
structure ReadsChains (text : String) (chains : List Chain) : Prop where
  lexes : Lexes text ([.mark .semicolon].intercalate (chains.map Chain.lexemes))
  some : chains ≠ []
  proper : ∀ chain ∈ chains, chain.Proper

theorem readsChains_singleton {text : String} {chain : Chain} (proper : chain.Proper)
    (lexes : Lexes text chain.lexemes) : ReadsChains text [chain] :=
  ⟨by simpa using lexes, by simp, by simpa using proper⟩

namespace ReadsChains

variable {text more : String} {chains others : List Chain}

theorem append (reads : ReadsChains text chains) (reads' : ReadsChains more others) :
    ReadsChains (text ++ ";" ++ more) (chains ++ others) := by
  have separates : Lexes ";" [.mark .semicolon] := fun rest => rfl
  refine ⟨?_, by simp [reads.some], ?_⟩
  · rw [List.map_append, Text.intercalate_append (by simpa using reads.some)
      (by simpa using reads'.some)]
    exact (reads.lexes.append separates).append reads'.lexes
  · intro chain member
    exact (List.mem_append.mp member).elim (reads.proper chain) (reads'.proper chain)

/-- Texts that each read as chains do so together, with semicolons between them. -/
theorem join {texts : List String} {chainLists : List (List Chain)} (some : texts ≠ [])
    (reads : List.Forall₂ ReadsChains texts chainLists) :
    ReadsChains (Text.join ";" texts) chainLists.flatten := by
  induction reads with
  | nil => exact absurd rfl some
  | cons first rest ih =>
      cases rest with
      | nil => simpa [Text.join] using first
      | cons second rest =>
          rw [Text.join, String.intercalate_cons_cons, List.flatten_cons]
          exact first.append (ih (by simp))

theorem join_single {texts : List String} (some : texts ≠ [])
    (reads : List.Forall₂ (fun text chain => ReadsChains text [chain]) texts chains) :
    ReadsChains (Text.join ";" texts) chains := by
  have single : List.Forall₂ ReadsChains texts (chains.map fun chain => [chain]) :=
    List.forall₂_map_right_iff.mpr reads
  have joined := join some single
  rwa [← List.flatMap_def, List.flatMap_singleton'] at joined

theorem chains?_eq (reads : ReadsChains text chains) : chains? text = .some chains := by
  have split : ([Lexeme.mark .semicolon].intercalate (chains.map Chain.lexemes)).splitOn
      (.mark .semicolon) = chains.map Chain.lexemes := by
    apply List.splitOn_intercalate
    · simp [semicolon_not_mem_lexemes]
    · simpa using reads.some
  simp only [chains?, reads.lexes.lexemes?_eq, Option.bind_eq_bind, Option.bind_some, split]
  exact mapM_map_eq_some fun chain member => chain?_lexemes (reads.proper chain member)

end ReadsChains

end Chains

end Montage.Filter
