import Montage.Proofs.Timeline.Subtitles
import Montage.Wire.RenderRequest

/-!
# Overlays of subtitle text

Whatever the text, no overlay that is read from it has a blank line, its times are not below
zero, and the overlays stand in the order of their timing lines.  A separator takes all the white
space from one line feed to another, so a blank line is left in a block only at its start, where
trimming has taken it.
-/

namespace Montage.Subtitles

/-- Parts of a list that stand one behind another, each covering one of the items that are shown,
in order. -/
inductive InOrder {α β : Type} (covers : List α → β → Prop) : List α → List β → Prop where
  | nil (items : List α) : InOrder covers items []
  | cons {part rest : List α} {item : β} {others : List β} (before : List α)
      (covered : covers part item) (later : InOrder covers rest others) :
      InOrder covers (before ++ (part ++ rest)) (item :: others)

namespace InOrder

variable {α β γ : Type} {covers : List α → β → Prop} {covers' : List α → γ → Prop}
  {items : List α} {shown : List β}

theorem prepend (front : List α) (order : InOrder covers items shown) :
    InOrder covers (front ++ items) shown := by
  cases order with
  | nil => exact nil _
  | cons before covered later =>
      rw [← List.append_assoc]
      exact cons (front ++ before) covered later

/-- What is chosen of the items stays in order if it is covered by the same parts. -/
theorem filterMap {choose : β → Option γ}
    (narrows : ∀ part, ∀ item ∈ shown, ∀ chosen, covers part item → choose item = some chosen →
      covers' part chosen)
    (order : InOrder covers items shown) : InOrder covers' items (shown.filterMap choose) := by
  induction order with
  | nil items => exact nil items
  | @cons part rest item others before covered later ih =>
      have order' := ih fun part other member => narrows part other (List.mem_cons_of_mem _ member)
      cases chosen : choose item with
      | none =>
          rw [List.filterMap_cons_none chosen, ← List.append_assoc]
          exact order'.prepend _
      | some found =>
          rw [List.filterMap_cons_some chosen]
          exact cons before (narrows part item List.mem_cons_self found covered chosen) order'

/-- A longer last item and items behind it disturb no order. -/
theorem extend {front behind : List α} {last longer : α}
    (filled : ∀ item, ¬ covers [] item)
    (lengthens : ∀ before item, covers (before ++ [last]) item → covers (before ++ [longer]) item)
    (order : InOrder covers (front ++ [last]) shown) :
    InOrder covers (front ++ longer :: behind) shown := by
  generalize whole : front ++ [last] = items at order
  induction order generalizing front with
  | nil => exact nil _
  | @cons part rest item others before covered later ih =>
      rcases List.eq_nil_or_concat' rest with rfl | ⟨rest, final, rfl⟩
      · rcases List.eq_nil_or_concat' part with rfl | ⟨part, final, rfl⟩
        · exact absurd covered (filled item)
        · have ends : front ++ [last] = (before ++ part) ++ [final] := by simpa using whole
          obtain ⟨rfl, same⟩ := List.append_inj' ends rfl
          obtain rfl := List.cons.inj same |>.1
          have alone : others = [] := by
            generalize empty : ([] : List α) = items at later
            cases later with
            | nil => rfl
            | cons before covered later =>
                obtain ⟨-, empty⟩ := List.append_eq_nil_iff.mp empty.symm
                rw [(List.append_eq_nil_iff.mp empty).1] at covered
                exact absurd covered (filled _)
          have longest : InOrder covers (before ++ ((part ++ [longer]) ++ behind)) [item] :=
            cons before (lengthens part item covered) (nil behind)
          rw [alone]
          simpa using longest
      · have ends : front ++ [last] = (before ++ (part ++ rest)) ++ [final] := by
          simpa using whole
        obtain ⟨rfl, same⟩ := List.append_inj' ends rfl
        obtain rfl := List.cons.inj same |>.1
        have order' := cons before covered (ih rfl)
        simpa using order'

end InOrder

def linesOf (characters : List Char) : List (List Char) :=
  Text.splitBy (· == '\n') characters

def IsVisible (line : List Char) : Prop :=
  ∃ character ∈ line, Text.isBlank character = false

section Lines

variable {characters rest line indent : List Char} {lines : List (List Char)} {character : Char}

theorem linesOf_feed (rest : List Char) : linesOf ('\n' :: rest) = [] :: linesOf rest := by
  simp [linesOf, Text.splitBy]

theorem linesOf_cons (kept : character ≠ '\n') (others : linesOf rest = line :: lines) :
    linesOf (character :: rest) = (character :: line) :: lines :=
  Text.splitBy_cons (by simpa using kept) others

theorem not_isVisible_nil : ¬ IsVisible [] := fun ⟨_, member, _⟩ => List.not_mem_nil member

/-- Behind an indentation a visible character stands in the first line. -/
theorem isVisible_first (absent : '\n' ∉ indent) (visible : Text.isBlank character = false)
    (same : linesOf (indent ++ character :: rest) = line :: lines) : IsVisible line := by
  have kept : character ≠ '\n' := fun feed => by
    rw [feed] at visible
    exact absurd visible (by decide)
  obtain ⟨first, others, cut⟩ := Text.exists_splitBy_cons (· == '\n') rest
  have alone : Text.splitBy (· == '\n') indent = [] ++ [indent] :=
    Text.splitBy_of_absent fun other member => by
      simpa using fun feed : other = '\n' => absent (feed ▸ member)
  have whole := Text.splitBy_append alone (linesOf_cons kept cut)
  obtain ⟨rfl, -⟩ := List.cons.inj (same.symm.trans whole)
  exact ⟨character, by simp, visible⟩

theorem exists_linesOf_concat (characters : List Char) :
    ∃ front last, linesOf characters = front ++ [last] := by
  obtain ⟨line, lines, cut⟩ := Text.exists_splitBy_cons (· == '\n') characters
  refine (List.eq_nil_or_concat' (linesOf characters)).resolve_left ?_
  simp [linesOf, cut]

/-- Lines that all have a visible character neither begin nor end with a line feed. -/
theorem trimmed_of_visible (visible : ∀ line ∈ linesOf characters, IsVisible line) :
    Text.Trimmed (· == '\n') characters := by
  refine ⟨fun character first => ?_, fun character last => ?_⟩
  · obtain ⟨rest, rfl⟩ := List.head?_eq_some_iff.mp first
    apply beq_eq_false_iff_ne.mpr
    rintro rfl
    rw [linesOf_feed] at visible
    exact not_isVisible_nil (visible [] List.mem_cons_self)
  · obtain ⟨front, rfl⟩ := List.getLast?_eq_some_iff.mp last
    apply beq_eq_false_iff_ne.mpr
    rintro rfl
    obtain ⟨others, final, cut⟩ := exists_linesOf_concat front
    have feed : Text.splitBy (· == '\n') ['\n'] = [[], []] := by decide
    have whole := Text.splitBy_append cut feed
    have member : [] ∈ linesOf (front ++ ['\n']) := by
      rw [linesOf, whole]
      simp
    exact not_isVisible_nil (visible [] member)

/-- Characters of which a visible one is the last, if there are any. -/
def EndsVisible (characters : List Char) : Prop :=
  ∀ character, characters.getLast? = some character → Text.isBlank character = false

theorem EndsVisible.of_append (characters : List Char)
    (ends : EndsVisible (characters ++ rest)) : EndsVisible rest := by
  intro character last
  apply ends character
  rw [List.getLast?_append, last, Option.some_or]

/-- What ends visibly is white space and a visible character, if it is anything. -/
theorem EndsVisible.exists_visible (ends : EndsVisible characters) (filled : characters ≠ []) :
    ∃ character rest, characters = characters.takeWhile Text.isBlank ++ character :: rest ∧
      characters.dropWhile Text.isBlank = character :: rest ∧ Text.isBlank character = false := by
  cases solid : characters.dropWhile Text.isBlank with
  | nil =>
      have last := List.getLast?_eq_some_getLast filled
      have blank := List.dropWhile_eq_nil_iff.mp solid _ (List.mem_of_getLast? last)
      simp [ends _ last] at blank
  | cons character rest =>
      have whole := List.takeWhile_append_dropWhile (p := Text.isBlank) (l := characters)
      rw [solid] at whole
      have begins : (characters.dropWhile Text.isBlank).head? = some character := by
        rw [solid, List.head?_cons]
      exact ⟨character, rest, whole.symm, rfl, Text.removed_head?_dropWhile begins⟩

end Lines

section Separators

variable {rest remaining : List Char}

/-- A separator ends with a line feed, behind which an indentation may stand. -/
theorem exists_gap (separated : afterSeparator? rest = some remaining) :
    ∃ gap indent, rest = gap ++ '\n' :: remaining ∧ '\n' ∉ indent ∧
      remaining = indent ++ rest.dropWhile Text.isBlank := by
  obtain ⟨indent, after, rfl⟩ := Option.map_eq_some_iff.mp separated
  unfold afterLastFeed? at after
  split at after
  next feeds =>
    generalize blanks : rest.takeWhile Text.isBlank = run at feeds after
    obtain rfl := Option.some.inj after
    have back := List.takeWhile_append_dropWhile (p := (· != '\n')) (l := run.reverse)
    have found : run.reverse.dropWhile (· != '\n') ≠ [] := by
      intro none
      have absent := List.dropWhile_eq_nil_iff.mp none '\n' (by simpa using feeds)
      simp at absent
    obtain ⟨character, gap, cut⟩ := List.exists_cons_of_ne_nil found
    have begins : (run.reverse.dropWhile (· != '\n')).head? = some character := by
      rw [cut, List.head?_cons]
    have feed : character = '\n' := by simpa using Text.removed_head?_dropWhile begins
    subst feed
    refine ⟨gap.reverse, (run.reverse.takeWhile (· != '\n')).reverse, ?_, fun member => ?_, rfl⟩
    · have whole := List.takeWhile_append_dropWhile (p := Text.isBlank) (l := rest)
      rw [cut] at back
      have run' := congrArg List.reverse back
      rw [List.reverse_reverse, List.reverse_append, List.reverse_cons] at run'
      rw [blanks] at whole
      calc rest
          = run ++ rest.dropWhile Text.isBlank := whole.symm
        _ = gap.reverse ++ ['\n'] ++ (run.reverse.takeWhile (· != '\n')).reverse ++
              rest.dropWhile Text.isBlank :=
            congrArg (· ++ rest.dropWhile Text.isBlank) run'.symm
        _ = _ := by simp
    · have kept := List.mem_takeWhile_imp (List.mem_reverse.mp member)
      simp at kept
  next => simp at after

/-- Where no separator begins, the white space that follows has no line feed. -/
theorem not_mem_of_afterSeparator? (unseparated : afterSeparator? rest = none) :
    '\n' ∉ rest.takeWhile Text.isBlank := by
  intro member
  simp [afterSeparator?, afterLastFeed?, member] at unseparated

end Separators

section Blocks

variable {characters rest block : List Char} {more : List (List Char)}

/-- The lines of a block behind its first. -/
def Follows (part : List (List Char)) (block : List Char) : Prop :=
  ∃ index, linesOf block = index :: part

/-- Characters that are cut into blocks, of which only the first may begin within a line: all other
lines of the blocks are visible, and they stand in order in the characters. -/
structure IsCut (characters block : List Char) (more : List (List Char)) : Prop where
  lines : ∃ first others behind, linesOf block = first :: others ∧
    linesOf characters = first :: (others ++ behind) ∧ (∀ line ∈ others, IsVisible line) ∧
    InOrder Follows behind more
  visible : ∀ block ∈ more, ∀ line ∈ linesOf block, IsVisible line

namespace IsCut

theorem nil : IsCut [] [] [] where
  lines := ⟨[], [], [], rfl, rfl, by simp, .nil []⟩
  visible := by simp

theorem cons {character : Char} (kept : character ≠ '\n') (cut : IsCut characters block more) :
    IsCut (character :: characters) (character :: block) more := by
  obtain ⟨first, others, behind, lines, whole, visible, order⟩ := cut.lines
  exact ⟨⟨character :: first, others, behind, linesOf_cons kept lines, linesOf_cons kept whole,
    visible, order⟩, cut.visible⟩

/-- A line feed that begins no separator stands before a visible line. -/
theorem feed (begins : ∀ first others, linesOf characters = first :: others → IsVisible first)
    (cut : IsCut characters block more) : IsCut ('\n' :: characters) ('\n' :: block) more := by
  obtain ⟨first, others, behind, lines, whole, visible, order⟩ := cut.lines
  refine ⟨⟨[], first :: others, behind, ?_, ?_, ?_, order⟩, cut.visible⟩
  · rw [linesOf_feed, lines]
  · rw [linesOf_feed, whole, List.cons_append]
  · exact List.forall_mem_cons.mpr ⟨begins first _ whole, visible⟩

/-- Behind a separator a block begins with a visible line. -/
theorem separator {gap : List Char}
    (begins : ∀ first others, linesOf characters = first :: others → IsVisible first)
    (cut : IsCut characters block more) :
    IsCut ('\n' :: (gap ++ '\n' :: characters)) [] (block :: more) := by
  obtain ⟨first, others, behind, lines, whole, visible, order⟩ := cut.lines
  obtain ⟨front, last, skipped⟩ := exists_linesOf_concat gap
  have joined : linesOf (gap ++ '\n' :: characters) =
      front ++ (last ++ []) :: (first :: (others ++ behind)) :=
    Text.splitBy_append skipped ((linesOf_feed characters).trans (by rw [whole]))
  refine ⟨⟨[], [], _, rfl, by rw [linesOf_feed, joined, List.nil_append], by simp, ?_⟩, ?_⟩
  · have order' : InOrder Follows (front ++ [last, first] ++ (others ++ behind)) (block :: more) :=
      .cons _ ⟨first, lines⟩ order
    simpa using order'
  · refine List.forall_mem_cons.mpr ⟨?_, cut.visible⟩
    rw [lines]
    exact List.forall_mem_cons.mpr ⟨begins first _ whole, visible⟩

end IsCut

/-- The blocks of what ends visibly have no blank lines, except perhaps at the start. -/
theorem exists_isCut (ends : EndsVisible characters) :
    ∃ block more, blocks characters = block :: more ∧ IsCut characters block more := by
  induction size : characters.length using Nat.strong_induction_on generalizing characters with
  | _ length ih =>
      cases characters with
      | nil => exact ⟨[], [], by rw [blocks], .nil⟩
      | cons character rest =>
          have ends' : EndsVisible rest := ends.of_append [character]
          have shorter : rest.length < length := by
            rw [← size, List.length_cons]
            exact Nat.lt_succ_self _
          by_cases feed : character = '\n'
          · subst feed
            have filled : rest ≠ [] := by
              rintro rfl
              exact absurd (ends '\n' rfl) (by decide)
            obtain ⟨visible, beyond, split, solid, shown⟩ := ends'.exists_visible filled
            cases separated : afterSeparator? rest with
            | none =>
                obtain ⟨block, more, others, cut⟩ := ih _ shorter ends' rfl
                have begins : ∀ first others, linesOf rest = first :: others →
                    IsVisible first := by
                  intro first others same
                  rw [split] at same
                  exact isVisible_first (not_mem_of_afterSeparator? separated) shown same
                exact ⟨_, more, blocks_cons (fun _ => separated) others, cut.feed begins⟩
            | some remaining =>
                obtain ⟨gap, indent, whole, absent, behind⟩ := exists_gap separated
                have shorter' : remaining.length < length :=
                  (length_afterSeparator separated).trans_lt shorter
                have ends'' : EndsVisible remaining := by
                  rw [whole] at ends'
                  exact (ends'.of_append gap).of_append ['\n']
                obtain ⟨block, more, others, cut⟩ := ih _ shorter' ends'' rfl
                have begins : ∀ first others, linesOf remaining = first :: others →
                    IsVisible first := by
                  intro first others same
                  rw [behind, solid] at same
                  exact isVisible_first absent shown same
                refine ⟨[], block :: more, ?_, ?_⟩
                · rw [blocks_of_separator separated, others]
                · rw [whole]
                  exact cut.separator begins
          · obtain ⟨block, more, others, cut⟩ := ih _ shorter ends' rfl
            exact ⟨_, more, blocks_cons (fun same => absurd same feed) others, cut.cons feed⟩

/-- The blocks of trimmed characters have no blank lines, and the lines behind the first line of
each stand in order behind the first line of the characters. -/
theorem blocks_of_trimmed (trimmed : Text.Trimmed Text.isBlank characters)
    (filled : characters ≠ []) :
    (∀ block ∈ blocks characters, ∀ line ∈ linesOf block, IsVisible line) ∧
      ∃ first others, linesOf characters = first :: others ∧
        InOrder Follows others (blocks characters) := by
  obtain ⟨block, more, cut, isCut⟩ := exists_isCut trimmed.ends
  obtain ⟨first, others, behind, lines, whole, visible, order⟩ := isCut.lines
  obtain ⟨character, rest, rfl⟩ := List.exists_cons_of_ne_nil filled
  have begins : IsVisible first :=
    isVisible_first List.not_mem_nil (trimmed.begins character rfl) whole
  rw [cut]
  refine ⟨List.forall_mem_cons.mpr ⟨?_, isCut.visible⟩, first, others ++ behind, whole, ?_⟩
  · rw [lines]
    exact List.forall_mem_cons.mpr ⟨begins, visible⟩
  · have order' : InOrder Follows ([] ++ (others ++ behind)) (block :: more) :=
      .cons [] ⟨first, lines⟩ order
    exact order'

end Blocks

section Times

variable {count value : Nat} {characters line rest : List Char}

theorem lt_of_takeNumber? (taken : takeNumber? count characters = some (value, rest)) :
    value < 10 ^ count := by
  unfold takeNumber? at taken
  dsimp only at taken
  split at taken
  next full =>
    obtain ⟨rfl, -⟩ := Prod.mk.inj (Option.some.inj taken)
    have few : ∀ digit ∈ (characters.take count).filterMap Text.digitValue?, digit < 10 := by
      intro digit member
      obtain ⟨character, -, reads⟩ := List.mem_filterMap.mp member
      exact Numeral.digitValue?_lt reads
    have small := Numeral.ofDigits_lt few
    rwa [full] at small
  next => cases taken

theorem exists_clock {values : Nat × Nat × Nat × Nat}
    (taken : takeClock? characters = some (values, rest)) :
    ∃ clock : Clock, clock.values = values := by
  unfold takeClock? at taken
  split at taken
  next hours _ first =>
    split at taken
    next minutes _ second =>
      split at taken
      next seconds _ third =>
        obtain ⟨⟨milliseconds, _⟩, fourth, same⟩ := Option.map_eq_some_iff.mp taken
        obtain ⟨rfl, -⟩ := Prod.mk.inj same
        exact ⟨⟨⟨hours, lt_of_takeNumber? first⟩, ⟨minutes, lt_of_takeNumber? second⟩,
          ⟨seconds, lt_of_takeNumber? third⟩, ⟨milliseconds, lt_of_takeNumber? fourth⟩⟩, rfl⟩
      next => cases taken
    next => cases taken
  next => cases taken

theorem exists_clocks {start finish : Nat × Nat × Nat × Nat}
    (timed : timing? line = some (start, finish)) :
    ∃ opening closing : Clock, opening.values = start ∧ closing.values = finish := by
  unfold timing? at timed
  split at timed
  next opening _ first =>
    split at timed
    next =>
      obtain ⟨⟨closing, _⟩, second, same⟩ := Option.map_eq_some_iff.mp timed
      obtain ⟨rfl, rfl⟩ := Prod.mk.inj same
      obtain ⟨clock, reads⟩ := exists_clock first
      obtain ⟨clock', reads'⟩ := exists_clock second
      exact ⟨clock, clock', reads, reads'⟩
    next => cases timed
  next => cases timed

theorem exists_seconds (clock : Clock) :
    ∃ value, (seconds clock.values).toRat? = some value ∧ 0 ≤ value := by
  obtain ⟨total, value, counted, denotes, nonneg⟩ := exists_clockSeconds clock
  refine ⟨value, ?_, nonneg⟩
  simp only [seconds, Clock.values, counted, denotes]

/-- Times that are read are not below zero, and neither is what lies between them. -/
theorem nonneg_of_timing? {start finish : Nat × Nat × Nat × Nat}
    (timed : timing? line = some (start, finish)) (ordered : ¬ seconds finish < seconds start) :
    0 ≤ seconds start ∧ 0 ≤ seconds finish - seconds start := by
  obtain ⟨opening, closing, rfl, rfl⟩ := exists_clocks timed
  obtain ⟨left, denotes, nonneg⟩ := exists_seconds opening
  obtain ⟨right, denotes', -⟩ := exists_seconds closing
  rw [Binary64.lt_iff_of_toRat? denotes' denotes, not_lt] at ordered
  exact ⟨Binary64.zero_le_iff.mpr (.inr ⟨left, denotes, nonneg⟩),
    Binary64.zero_le_sub denotes denotes' ordered⟩

end Times

section Overlays

variable {block : List Char} {part : List (List Char)} {overlay : TextOverlay}

/-- A timing line and the lines behind it, which an overlay shows from its first to its second
time.  White space at the end of the text may be missing. -/
def Shows (part : List (List Char)) (overlay : TextOverlay) : Prop :=
  ∃ timing text start finish blanks, part = timing :: text ∧ text ≠ [] ∧
    timing? timing = some (start, finish) ∧ ¬ seconds finish < seconds start ∧
    overlay = overlayOf overlay.text (seconds start) (seconds finish) ∧
    ['\n'].intercalate text = overlay.text.toList ++ blanks ∧
    ∀ character ∈ blanks, Text.isBlank character = true

theorem Shows.ne_nil : ¬ Shows [] overlay := by
  rintro ⟨timing, text, start, finish, blanks, same, -⟩
  cases same

theorem intercalate_concat_append (separator last blanks : List Char) (front : List (List Char)) :
    separator.intercalate (front ++ [last ++ blanks]) =
      separator.intercalate (front ++ [last]) ++ blanks := by
  induction front with
  | nil => simp
  | cons first front ih =>
      obtain ⟨next, others, same⟩ : ∃ next others, front ++ [last] = next :: others :=
        List.exists_cons_of_ne_nil (by simp)
      obtain ⟨next', others', same'⟩ : ∃ next others, front ++ [last ++ blanks] = next :: others :=
        List.exists_cons_of_ne_nil (by simp)
      rw [List.cons_append, List.cons_append, same, same', List.intercalate_cons_cons,
        List.intercalate_cons_cons, ← same, ← same', ih]
      simp

/-- White space behind the last line leaves the text as it is shown. -/
theorem Shows.lengthen {before : List (List Char)} {last behind : List Char}
    (blank : ∀ character ∈ behind, Text.isBlank character = true)
    (shows : Shows (before ++ [last]) overlay) : Shows (before ++ [last ++ behind]) overlay := by
  obtain ⟨timing, text, start, finish, blanks, same, filled, timed, ordered, made, joined,
    spaces⟩ := shows
  obtain ⟨front, final, rfl⟩ := (List.eq_nil_or_concat' text).resolve_left filled
  have ends : before ++ [last] = (timing :: front) ++ [final] := same
  obtain ⟨rfl, same'⟩ := List.append_inj' ends rfl
  obtain rfl := (List.cons.inj same').1
  refine ⟨timing, front ++ [last ++ behind], start, finish, blanks ++ behind, rfl, by simp, timed,
    ordered, made, ?_, ?_⟩
  · rw [intercalate_concat_append, joined, List.append_assoc]
  · intro character member
    rcases List.mem_append.mp member with early | late
    · exact spaces character early
    · exact blank character late

/-- White space around a text makes its first and its last line longer, and other lines before and
behind them. -/
theorem inOrder_around {characters behind first : List Char} {others : List (List Char)}
    {overlays : List TextOverlay} (before : List Char)
    (blank : ∀ character ∈ behind, Text.isBlank character = true)
    (lines : linesOf characters = first :: others) (order : InOrder Shows others overlays) :
    InOrder Shows (linesOf (before ++ characters ++ behind)) overlays := by
  obtain ⟨front, indent, opens⟩ := exists_linesOf_concat before
  obtain ⟨front', last, cut⟩ := exists_linesOf_concat (before ++ characters)
  obtain ⟨space, spaces, closes⟩ := Text.exists_splitBy_cons (· == '\n') behind
  have joined : linesOf (before ++ characters) = front ++ (indent ++ first) :: others :=
    Text.splitBy_append opens lines
  have order' : InOrder Shows (front' ++ [last]) overlays := by
    rw [← cut, joined]
    simpa using order.prepend (front ++ [indent ++ first])
  have whole : linesOf (before ++ characters ++ behind) = front' ++ (last ++ space) :: spaces :=
    Text.splitBy_append cut closes
  have blank' : ∀ character ∈ space, Text.isBlank character = true := fun character member =>
    blank character (Text.of_mem_splitBy (closes ▸ List.mem_cons_self) character member).1
  rw [whole]
  exact order'.extend (fun _ => Shows.ne_nil) fun _ _ shows => shows.lengthen blank'

def fieldsOf (overlay : TextOverlay) : Wire.Members :=
  [("type", .text "text"), ("text", .text overlay.text), ("style", .text overlay.style),
    ("position", .text position), ("startTime", .number overlay.startTime),
    ("duration", .number overlay.duration)]

/-- What the wire model asks of a text item, and more: the text has no blank line. -/
structure IsProper (overlay : TextOverlay) : Prop where
  accepted : Wire.RenderRequest.textReader (fieldsOf overlay) = .valid (.text overlay)
  filled : overlay.text ≠ ""
  visible : ∀ line ∈ Text.lines overlay.text,
    ∃ character ∈ line.toList, Text.isBlank character = false
  start : 0 ≤ overlay.startTime
  duration : 0 ≤ overlay.duration

theorem textReader_fieldsOf {text : String} {start duration : Binary64} (filled : text ≠ "")
    (nonneg : 0 ≤ start) (nonneg' : 0 ≤ duration) :
    Wire.RenderRequest.textReader
        (fieldsOf ⟨text, style, none, .named position, start, duration⟩) =
      .valid (.text ⟨text, style, none, .named position, start, duration⟩) := by
  have shown : Wire.Reader.nonemptyText (.text text) = .valid text := by
    have nonempty : ¬ text.isEmpty = true := by simpa using filled
    change (if text.isEmpty then _ else _) = _
    rw [if_neg nonempty]
  have measured : ∀ number : Binary64, 0 ≤ number →
      Wire.Reader.notNegative Wire.Reader.number (.number number) = .valid number := by
    intro number above
    change (if 0 ≤ number then _ else _) = _
    rw [if_pos above]
  simp only [Wire.RenderRequest.textReader, fieldsOf, Wire.Members.required,
    Wire.Members.optional, Wire.Members.optionalAs, Json.member?, List.lookup_cons,
    List.lookup_nil, String.reduceBEq, Option.isSome_some, Option.isSome_none, if_true, shown,
    measured start nonneg, measured duration nonneg']
  rfl

/-- A block that comes to an overlay has an index, a timing line whose times are in order, and lines
of text. -/
theorem exists_lines_of_shown (trimmed : Text.Trimmed (· == '\n') block)
    (shown : entry? block = some (.overlay overlay)) :
    ∃ index timing line more start finish,
      linesOf block = index :: timing :: line :: more ∧
      timing? timing = some (start, finish) ∧ ¬ seconds finish < seconds start ∧
      overlay = overlayOf (Text.join "\n" ((line :: more).map String.ofList)) (seconds start)
        (seconds finish) := by
  unfold entry? at shown
  rw [Text.trimBy_of_trimmed trimmed] at shown
  split at shown
  next index timing line more lines =>
    split at shown
    next => cases shown
    next start finish timed =>
      split at shown
      next => cases shown
      next ordered =>
        obtain rfl := Entry.overlay.inj (Option.some.inj shown)
        exact ⟨index, timing, line, more, start, finish, lines, timed, ordered, rfl⟩
  next => cases shown

theorem linesOf_join {lines : List (List Char)} (filled : lines ≠ [])
    (taken : ∀ line ∈ lines, line ∈ linesOf block) :
    linesOf (Text.join "\n" (lines.map String.ofList)).toList = lines := by
  rw [Text.toList_join]
  apply Text.splitBy_intercalate (by decide) filled
  intro line member character inside
  exact (Text.of_mem_splitBy (taken line member) character inside).2

/-- The overlay that a block of visible lines comes to shows the lines behind its index, and is a
proper text item. -/
theorem proper_of_shown (visible : ∀ line ∈ linesOf block, IsVisible line)
    (shown : entry? block = some (.overlay overlay)) :
    (∃ index part, linesOf block = index :: part ∧ Shows part overlay) ∧ IsProper overlay := by
  obtain ⟨index, timing, line, more, start, finish, lines, timed, ordered, rfl⟩ :=
    exists_lines_of_shown (trimmed_of_visible visible) shown
  obtain ⟨nonneg, nonneg'⟩ := nonneg_of_timing? timed ordered
  have taken : ∀ shown ∈ line :: more, shown ∈ linesOf block := fun shown member => by
    rw [lines]
    exact List.mem_cons_of_mem _ (List.mem_cons_of_mem _ member)
  have whole := linesOf_join (List.cons_ne_nil line more) taken
  have filled : Text.join "\n" ((line :: more).map String.ofList) ≠ "" := by
    intro empty
    rw [empty] at whole
    obtain ⟨rfl, rfl⟩ := List.cons.inj whole
    exact not_isVisible_nil (visible [] (taken [] List.mem_cons_self))
  refine ⟨⟨index, timing :: line :: more, lines, timing, line :: more, start, finish, [], rfl,
    by simp, timed, ordered, rfl, ?_, by simp⟩, ?_⟩
  · rw [List.append_nil]
    exact (Text.toList_join (line :: more)).symm
  · refine ⟨textReader_fieldsOf filled nonneg nonneg', filled, fun shown member => ?_, nonneg,
      nonneg'⟩
    obtain ⟨piece, known, rfl⟩ := List.mem_map.mp member
    have known' : piece ∈ line :: more := whole ▸ known
    rw [String.toList_ofList]
    exact visible piece (taken piece known')

theorem parse_eq (content : String) :
    parse content = (blocks (normalize content.toList)).filterMap fun block =>
      ( entry? block).bind Entry.overlay? := by
  rw [parse, entries, List.filterMap_filterMap]

theorem exists_of_choose {block : List Char} (chosen : ( entry? block).bind Entry.overlay? =
    some overlay) : entry? block = some (.overlay overlay) := by
  obtain ⟨entry, found, shown⟩ := Option.bind_eq_some_iff.mp chosen
  cases entry with
  | overlay other => exact found.trans (congrArg (some ∘ Entry.overlay) (Option.some.inj shown))
  | invalidTiming | reversedTiming => cases shown

/-- Every overlay that is read from a text is a proper text item without blank lines, and the
overlays stand in the order of their timing lines in the text, of which line breaks of all kinds
end the lines. -/
theorem parse_proper_inOrder (content : String) :
    (∀ overlay ∈ parse content, IsProper overlay) ∧
      InOrder Shows (linesOf (withFeeds content.toList)) (parse content) := by
  rw [parse_eq]
  by_cases empty : normalize content.toList = []
  · have nothing : (blocks (normalize content.toList)).filterMap
        (fun block => ( entry? block).bind Entry.overlay?) = [] := by
      rw [empty, blocks]
      rfl
    rw [nothing]
    exact ⟨by simp, .nil _⟩
  have trimmed := Text.trimmed_trimBy Text.isBlank (withFeeds content.toList)
  obtain ⟨before, behind, whole, -, blank⟩ :=
    Text.exists_trimBy Text.isBlank (withFeeds content.toList)
  rw [← normalize_eq] at trimmed whole
  obtain ⟨visible, first, others, lines, order⟩ := blocks_of_trimmed trimmed empty
  refine ⟨fun overlay member => ?_, ?_⟩
  · obtain ⟨block, known, chosen⟩ := List.mem_filterMap.mp member
    exact (proper_of_shown (visible block known) (exists_of_choose chosen)).2
  · have shows : InOrder Shows others ((blocks (normalize content.toList)).filterMap
        fun block => ( entry? block).bind Entry.overlay?) := by
      refine order.filterMap fun part block known overlay follows chosen => ?_
      obtain ⟨index, cut⟩ := follows
      obtain ⟨⟨index', part', cut', shows⟩, -⟩ :=
        proper_of_shown (visible block known) (exists_of_choose chosen)
      obtain ⟨-, rfl⟩ := List.cons.inj (cut.symm.trans cut')
      exact shows
    rw [whole]
    exact inOrder_around before blank lines shows

end Overlays

end Montage.Subtitles
