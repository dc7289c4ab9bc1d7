import Montage.Proofs.Numeric.Digits
import Montage.Proofs.Numeric.Rounding
import Montage.Proofs.Sequence
import Montage.Timeline.Subtitles

/-!
# Printed subtitles

Cues that are printed as SubRip text, with line ends of any of the three kinds, are read back as
they were: every cue is shown as one overlay, and its lines of text neither make blocks nor take
them away.
-/

namespace Montage.Subtitles

/-- A time of day, with fields of two digits and three for the milliseconds. -/
structure Clock where
  hours : Fin 100
  minutes : Fin 100
  seconds : Fin 100
  milliseconds : Fin 1000
  deriving DecidableEq

namespace Clock

def values (clock : Clock) : Nat × Nat × Nat × Nat :=
  (clock.hours, clock.minutes, clock.seconds, clock.milliseconds)

def printed (clock : Clock) : List Char :=
  Numeral.field 2 clock.hours ++ ':' :: (Numeral.field 2 clock.minutes ++
    ':' :: (Numeral.field 2 clock.seconds ++ ',' :: Numeral.field 3 clock.milliseconds))

def read (clock : Clock) : Except Fault Binary64 :=
  readClock (String.ofList (Numeral.field 2 clock.hours))
    (String.ofList (Numeral.field 2 clock.minutes))
    (String.ofList (Numeral.field 2 clock.seconds))
    (String.ofList (Numeral.field 3 clock.milliseconds))

end Clock

/-- Lines that a block can hold: they begin and end with a visible character, and nothing in them
counts as a line break. -/
structure IsPlain (line : List Char) : Prop where
  filled : line ≠ []
  trimmed : Text.Trimmed Text.isBlank line
  unbroken : '\n' ∉ line ∧ '\r' ∉ line
  unescaped : Text.occursIn ['\\', 'n'] line = false

/-- A line of text that can be shown. -/
structure Line where
  text : String
  plain : IsPlain text.toList

/-- Lines of text with the time at which they are shown, which does not end before it starts. -/
structure Cue where
  number : Nat
  start : Clock
  finish : Clock
  text : List Line
  filled : text ≠ []
  ordered : ∃ opening closing, start.read = .ok opening ∧ finish.read = .ok closing ∧
    opening ≤ closing

inductive LineEnd where
  | feed
  | returnFeed
  | escaped
  deriving DecidableEq

def LineEnd.characters : LineEnd → List Char
  | .feed => ['\n']
  | .returnFeed => ['\r', '\n']
  | .escaped => ['\\', 'n']

namespace Cue

def timing (cue : Cue) : List Char :=
  cue.start.printed ++ " --> ".toList ++ cue.finish.printed

def lines (cue : Cue) : List (List Char) :=
  (Decimal.ofInt cue.number).toList :: cue.timing :: cue.text.map fun line => line.text.toList

def overlay (cue : Cue) : Except Fault TextOverlay := do
  let opening ← cue.start.read
  let closing ← cue.finish.read
  .ok ⟨Text.join "\n" (cue.text.map Line.text), "subtitle", none, .named "bottom-center", opening,
    closing - opening⟩

end Cue

/-- Cues as SubRip text: a blank line stands between cues, and any number of line ends may stand
behind the last. -/
def print (ending : LineEnd) (extra : Nat) (cues : List Cue) : String :=
  String.ofList
    ((ending.characters ++ ending.characters).intercalate
        (cues.map fun cue => ending.characters.intercalate cue.lines) ++
      (List.replicate extra ending.characters).flatten)

section Clocks

variable {count value : Nat} {rest : List Char}

theorem takeNumber?_field (small : value < 10 ^ count) :
    takeNumber? count (Numeral.field count value ++ rest) = some (value, rest) := by
  have width : (Numeral.field count value).length = count := by
    rw [Numeral.field, List.length_map, Numeral.length_lastDigits]
  have digits : (Numeral.field count value).filterMap Text.digitValue? =
      Numeral.lastDigits count value :=
    Numeral.filterMap_digits fun last => Numeral.lt_of_mem_lastDigits
  have front : (Numeral.field count value ++ rest).take count = Numeral.field count value := by
    rw [List.take_append_of_le_length width.ge, List.take_of_length_le width.le]
  have back : (Numeral.field count value ++ rest).drop count = rest := by
    rw [List.drop_append_of_le_length width.ge, List.drop_of_length_le width.le, List.nil_append]
  simp only [takeNumber?, front, back, digits, Numeral.length_lastDigits, if_true,
    Numeral.ofDigits_lastDigits small]

theorem takeClock?_printed (clock : Clock) :
    takeClock? (clock.printed ++ rest) = some (clock.values, rest) := by
  have hours : (clock.hours : Nat) < 10 ^ 2 := clock.hours.isLt
  have minutes : (clock.minutes : Nat) < 10 ^ 2 := clock.minutes.isLt
  have seconds : (clock.seconds : Nat) < 10 ^ 2 := clock.seconds.isLt
  have milliseconds : (clock.milliseconds : Nat) < 10 ^ 3 := clock.milliseconds.isLt
  simp only [takeClock?, Clock.printed, List.append_assoc, List.cons_append,
    takeNumber?_field hours, takeNumber?_field minutes, takeNumber?_field seconds,
    takeNumber?_field milliseconds, Option.map_some]
  rfl

theorem exists_digit_printed (clock : Clock) :
    ∃ value rest, value < 10 ∧ clock.printed = Numeral.digit value :: rest := by
  have leading : (clock.hours : Nat) / 10 % 10 < 10 := Nat.mod_lt _ (by decide)
  exact ⟨_, _, leading, rfl⟩

theorem timing?_timing (cue : Cue) :
    timing? cue.timing = some (cue.start.values, cue.finish.values) := by
  have solid : ∀ (clock : Clock) (beyond : List Char),
      (clock.printed ++ beyond).dropWhile Text.isBlank = clock.printed ++ beyond := by
    intro clock beyond
    obtain ⟨value, rest, small, shown⟩ := exists_digit_printed clock
    rw [shown, List.cons_append, List.dropWhile_cons_of_neg]
    simp [(Numeral.digit_spec small).2.1]
  have arrow : " --> ".toList = [' ', '-', '-', '>', ' '] := rfl
  have space : Text.isBlank ' ' = true := rfl
  have dash : Text.isBlank '-' = false := rfl
  have finish := solid cue.finish []
  have last : takeClock? (cue.finish.printed ++ []) = some (cue.finish.values, []) :=
    takeClock?_printed cue.finish
  rw [List.append_nil] at finish last
  simp only [timing?, Cue.timing, List.append_assoc, solid, takeClock?_printed, arrow,
    List.cons_append, List.nil_append, List.dropWhile_cons, space, dash, if_true,
    Bool.false_eq_true, if_false, Text.dropStart?, finish, last, Option.map_some]

theorem exists_clockSeconds (clock : Clock) :
    ∃ seconds value, clockSeconds clock.hours clock.minutes clock.seconds clock.milliseconds =
      .ok seconds ∧ seconds.toRat? = some value ∧ 0 ≤ value := by
  have hours := clock.hours.isLt
  have minutes := clock.minutes.isLt
  have seconds := clock.seconds.isLt
  have few : (clock.hours * 3600 + clock.minutes * 60 + clock.seconds : Nat) < 2 ^ 52 := by omega
  have nonneg : (0 : Rat) ≤ ((clock.milliseconds : Int) : Rat) / 1000 := by positivity
  have small : ((clock.milliseconds : Int) : Rat) / 1000 < 1 := by
    have bound : ((clock.milliseconds : Nat) : Rat) < 1000 := by
      exact_mod_cast clock.milliseconds.isLt
    rw [Int.cast_natCast]
    linarith
  have whole := Binary64.toRat?_ofInt_natCast (few.trans (by decide))
  have fraction := Binary64.toRat?_ofRat nonneg (small.trans (by norm_num))
  obtain ⟨value, sum, above⟩ := Binary64.exists_toRat?_add few nonneg small
  have seconds' : ((clock.hours * 3600 + clock.minutes * 60 + clock.seconds : Nat) : Int) =
      clock.hours * 3600 + clock.minutes * 60 + clock.seconds := by push_cast; rfl
  rw [seconds'] at whole sum
  unfold clockSeconds
  dsimp only
  cases hour : Binary64.ofInt (clock.hours * 3600 + clock.minutes * 60 + clock.seconds) with
  | infinite negative => simp [hour, Binary64.toRat?] at whole
  | nan | negativeZero | finite =>
      cases part : Binary64.ofRat (((clock.milliseconds : Int) : Rat) / 1000) with
      | infinite negative =>
          rw [part] at fraction
          simp [Binary64.toRat?] at fraction
      | nan | negativeZero | finite =>
          rw [hour, part] at sum
          exact ⟨_, value, rfl, sum, above⟩

/-- The seconds of a time of day can be read, and are those that a block comes to. -/
theorem Clock.read_eq (clock : Clock) : clock.read = .ok (Subtitles.seconds clock.values) := by
  have hours := clock.hours.isLt
  have minutes := clock.minutes.isLt
  have seconds := clock.seconds.isLt
  have milliseconds := clock.milliseconds.isLt
  obtain ⟨total, -, counted, -⟩ := exists_clockSeconds clock
  simp only [Clock.read, readClock, String.toList_ofList]
  rw [Numeral.int?_field (by decide) (by decide) (by omega),
    Numeral.int?_field (by decide) (by decide) (by omega),
    Numeral.int?_field (by decide) (by decide) (by omega),
    Numeral.int?_field (by decide) (by decide) (by omega)]
  simp only [Subtitles.seconds, Clock.values, counted]

/-- The finish of a cue is not below its start, as a block finds them. -/
theorem Cue.not_reversed (cue : Cue) :
    ¬ seconds cue.finish.values < seconds cue.start.values := by
  obtain ⟨opening, closing, starts, finishes, inOrder⟩ := cue.ordered
  rw [Clock.read_eq, Except.ok.injEq] at starts finishes
  rw [starts, finishes]
  obtain ⟨known, known'⟩ := Binary64.ne_nan_of_le inOrder
  rw [Binary64.le_iff_rank known known'] at inOrder
  rw [Binary64.lt_iff_rank known' known, not_lt]
  exact inOrder

end Clocks

section Plain

variable {line : List Char}

theorem IsPlain.of_forall (filled : line ≠ []) (trimmed : Text.Trimmed Text.isBlank line)
    (plain : ∀ character ∈ line, character ∉ ['\n', '\r', '\\']) : IsPlain line := by
  have absent : ∀ character ∈ ['\n', '\r', '\\'], character ∉ line := by
    intro character special member
    exact plain character member special
  exact ⟨filled, trimmed, ⟨absent _ (by simp), absent _ (by simp)⟩,
    Text.occursIn_of_not_mem (absent _ (by simp))⟩

theorem isPlain_number (number : Nat) : IsPlain (Decimal.ofInt number).toList := by
  rw [Decimal.toList_ofInt_natCast]
  have visible : ∀ character ∈ Decimal.digitsOf number, Text.isBlank character = false ∧
      character ∉ ['\n', '\r', '\\'] := by
    intro character member
    have digit := Nat.isDigit_of_mem_toDigits (by decide) (by decide) member
    obtain ⟨lower, upper⟩ : 48 ≤ character.toNat ∧ character.toNat ≤ 57 := by
      simpa [Char.isDigit, UInt32.le_iff_toNat_le] using digit
    refine ⟨?_, ?_⟩
    · simp [Text.isBlank]
      omega
    · intro special
      simp only [List.mem_cons, List.not_mem_nil, or_false] at special
      rcases special with rfl | rfl | rfl <;> simp at lower upper
  exact .of_forall Nat.toDigits_ne_nil
    ⟨fun character first => (visible character (List.mem_of_head? first)).1,
      fun character last => (visible character (List.mem_of_getLast? last)).1⟩
    fun character member => (visible character member).2

theorem exists_printed_concat (clock : Clock) :
    ∃ front value, value < 10 ∧ clock.printed = front ++ [Numeral.digit value] := by
  have last : (clock.milliseconds : Nat) % 10 < 10 := Nat.mod_lt _ (by decide)
  refine ⟨Numeral.field 2 clock.hours ++ ':' :: (Numeral.field 2 clock.minutes ++
    ':' :: (Numeral.field 2 clock.seconds ++ ',' :: Numeral.field 2 (clock.milliseconds / 10))),
    _, last, ?_⟩
  simp [Clock.printed, Numeral.field_succ 2 clock.milliseconds]

theorem not_mem_field {count value : Nat} :
    ∀ character ∈ Numeral.field count value, character ∉ ['\n', '\r', '\\'] := by
  intro character member
  obtain ⟨last, known, rfl⟩ := List.mem_map.mp member
  have special := (Numeral.digit_spec (Numeral.lt_of_mem_lastDigits known)).2.2
  simp only [List.mem_cons, not_or] at special ⊢
  tauto

theorem isPlain_timing (cue : Cue) : IsPlain cue.timing := by
  obtain ⟨first, rest, small, begins⟩ := exists_digit_printed cue.start
  obtain ⟨front, last, small', ends⟩ := exists_printed_concat cue.finish
  have printed : ∀ clock : Clock, ∀ character ∈ clock.printed,
      character ∉ ['\n', '\r', '\\'] := by
    intro clock character member
    simp only [Clock.printed, List.mem_append, List.mem_cons] at member
    rcases member with member | rfl | member | rfl | member | rfl | member
    · exact not_mem_field character member
    · decide
    · exact not_mem_field character member
    · decide
    · exact not_mem_field character member
    · decide
    · exact not_mem_field character member
  refine .of_forall ?_ ⟨fun character same => ?_, fun character same => ?_⟩ ?_
  · simp [Cue.timing, begins]
  · have head : Numeral.digit first = character := by simpa [Cue.timing, begins] using same
    exact head ▸ (Numeral.digit_spec small).2.1
  · have shape : cue.timing = (cue.start.printed ++ " --> ".toList ++ front) ++
        [Numeral.digit last] := by
      simp [Cue.timing, ends]
    rw [shape, List.getLast?_concat, Option.some.injEq] at same
    exact same ▸ (Numeral.digit_spec small').2.1
  · intro character member
    simp only [Cue.timing, List.mem_append] at member
    rcases member with (member | member) | member
    · exact printed _ character member
    · have letters : " --> ".toList.all (· ∉ ['\n', '\r', '\\']) = true := by decide
      simpa using List.all_eq_true.mp letters character member
    · exact printed _ character member

theorem Cue.isPlain_of_mem_lines (cue : Cue) {line : List Char} (member : line ∈ cue.lines) :
    IsPlain line := by
  simp only [Cue.lines, List.mem_cons, List.mem_map] at member
  rcases member with rfl | rfl | ⟨shown, -, rfl⟩
  · exact isPlain_number cue.number
  · exact isPlain_timing cue
  · exact shown.plain

theorem isPlain_pages (cues : List Cue) :
    ∀ page ∈ cues.map Cue.lines, page ≠ [] ∧ ∀ line ∈ page, IsPlain line := by
  intro page member
  obtain ⟨cue, -, rfl⟩ := List.mem_map.mp member
  exact ⟨by simp [Cue.lines], fun line => cue.isPlain_of_mem_lines⟩

end Plain

section Normalization

variable {ending : LineEnd} {line rest : List Char} {lines : List (List Char)}

def withFeeds (content : List Char) : List Char :=
  Text.replacePair '\r' '\n' ['\n'] (Text.replacePair '\\' 'n' ['\n'] content)

theorem normalize_eq (content : List Char) :
    normalize content = Text.trimBy Text.isBlank (withFeeds content) := rfl

theorem withFeeds_ending (ending : LineEnd) (rest : List Char) :
    withFeeds (ending.characters ++ rest) = '\n' :: withFeeds rest := by
  cases ending with
  | feed =>
      rw [withFeeds, LineEnd.characters, List.singleton_append,
        Text.replacePair_cons_of_ne (by decide), Text.replacePair_cons_of_ne (by decide), withFeeds]
  | returnFeed =>
      have kept : Text.replacePair '\\' 'n' ['\n'] ('\r' :: '\n' :: rest) =
          '\r' :: '\n' :: Text.replacePair '\\' 'n' ['\n'] rest := by
        rw [Text.replacePair_cons_of_ne (by decide), Text.replacePair_cons_of_ne (by decide)]
      rw [withFeeds, LineEnd.characters, List.cons_append, List.singleton_append, kept,
        Text.replacePair_pair, List.singleton_append, withFeeds]
  | escaped =>
      rw [withFeeds, LineEnd.characters, List.cons_append, List.singleton_append,
        Text.replacePair_pair, List.singleton_append, Text.replacePair_cons_of_ne (by decide),
        withFeeds]

/-- A plain line is left as it is.  A backslash at its end would make a line break with a letter n
behind it. -/
theorem withFeeds_line (plain : IsPlain line) (apart : rest.head? ≠ some 'n') :
    withFeeds (line ++ rest) = line ++ withFeeds rest := by
  rw [withFeeds, Text.replacePair_append plain.unescaped fun _ => apart,
    Text.replacePair_append_of_not_mem plain.unbroken.2, withFeeds]

theorem head?_ending_append (ending : LineEnd) (rest : List Char) :
    (ending.characters ++ rest).head? ≠ some 'n' := by
  cases ending <;> simp [LineEnd.characters]

theorem withFeeds_lines (plain : ∀ line ∈ lines, IsPlain line) (apart : rest.head? ≠ some 'n') :
    withFeeds (ending.characters.intercalate lines ++ rest) =
      ['\n'].intercalate lines ++ withFeeds rest := by
  induction lines with
  | nil => simp
  | cons line lines ih =>
      rw [List.forall_mem_cons] at plain
      -- What stands behind a line is never the letter n: a line end, or else the rest.
      cases lines with
      | nil => simpa using withFeeds_line plain.1 apart
      | cons next lines =>
          simp only [List.intercalate_cons_cons, List.append_assoc]
          rw [withFeeds_line plain.1 (head?_ending_append _ _), withFeeds_ending, ih plain.2]
          simp

theorem withFeeds_pages (ending : LineEnd) {pages : List (List (List Char))}
    (plain : ∀ page ∈ pages, ∀ line ∈ page, IsPlain line) (apart : rest.head? ≠ some 'n') :
    withFeeds ((ending.characters ++ ending.characters).intercalate
        (pages.map ending.characters.intercalate) ++ rest) =
      ['\n', '\n'].intercalate (pages.map ['\n'].intercalate) ++ withFeeds rest := by
  induction pages with
  | nil => simp
  | cons page pages ih =>
      rw [List.forall_mem_cons] at plain
      cases pages with
      | nil => simpa using withFeeds_lines plain.1 apart
      | cons next pages =>
          simp only [List.map_cons, List.intercalate_cons_cons, List.append_assoc] at ih ⊢
          rw [withFeeds_lines plain.1 (head?_ending_append _ _), withFeeds_ending,
            withFeeds_ending, ih plain.2]
          simp

theorem withFeeds_endings (ending : LineEnd) (extra : Nat) :
    withFeeds (List.replicate extra ending.characters).flatten = List.replicate extra '\n' := by
  induction extra with
  | zero => rfl
  | succ extra ih =>
      rw [List.replicate_succ, List.flatten_cons, withFeeds_ending, ih, List.replicate_succ]

theorem trimmed_page {page : List (List Char)} (plain : ∀ line ∈ page, IsPlain line)
    (filled : page ≠ []) :
    ['\n'].intercalate page ≠ [] ∧ Text.Trimmed Text.isBlank (['\n'].intercalate page) := by
  constructor
  · cases page with
    | nil => exact absurd rfl filled
    | cons line page => exact Text.intercalate_ne_nil (plain line List.mem_cons_self).filled
  · exact Text.trimmed_intercalate fun line member =>
      ⟨(plain line member).filled, (plain line member).trimmed⟩

theorem normalize_print (ending : LineEnd) (extra : Nat) (cues : List Cue) :
    normalize (print ending extra cues).toList =
      ['\n', '\n'].intercalate ((cues.map Cue.lines).map ['\n'].intercalate) := by
  have plain := isPlain_pages cues
  have apart : (List.replicate extra ending.characters).flatten.head? ≠ some 'n' := by
    cases extra with
    | zero => simp
    | succ extra =>
        rw [List.replicate_succ, List.flatten_cons]
        exact head?_ending_append _ _
  have feeds := withFeeds_pages ending (fun page member => (plain page member).2) apart
  have pages : cues.map (fun cue => ending.characters.intercalate cue.lines) =
      (cues.map Cue.lines).map ending.characters.intercalate := by
    rw [List.map_map]
    rfl
  rw [normalize_eq, print, String.toList_ofList, pages, feeds, withFeeds_endings]
  apply Text.trimBy_append
  · refine Text.trimmed_intercalate fun page member => ?_
    obtain ⟨lines, known, rfl⟩ := List.mem_map.mp member
    exact trimmed_page (plain lines known).2 (plain lines known).1
  · intro character member
    rw [List.eq_of_mem_replicate member]
    rfl

end Normalization

section Blocks

variable {line rest remaining block : List Char} {more : List (List Char)}

theorem blocks_of_separator (separated : afterSeparator? rest = some remaining) :
    blocks ('\n' :: rest) = [] :: blocks remaining := by
  have cut : ∃ bound, separator? '\n' rest = some ⟨remaining, bound⟩ := by
    unfold separator?
    rw [if_pos rfl]
    split
    next found known =>
      obtain rfl := Option.some.inj (known.symm.trans separated)
      exact ⟨length_afterSeparator separated, rfl⟩
    next missing => simp [missing] at separated
  obtain ⟨bound, cut⟩ := cut
  rw [blocks, cut]

/-- A character that starts no separator belongs to the first block. -/
theorem blocks_cons {character : Char}
    (inside : character = '\n' → afterSeparator? rest = none)
    (others : blocks rest = block :: more) :
    blocks (character :: rest) = (character :: block) :: more := by
  have uncut : separator? character rest = none := by
    unfold separator?
    split
    next feed =>
      split
      next found known => simp [inside feed] at known
      next => rfl
    next => rfl
  rw [blocks, uncut]
  simp only [others]

theorem blocks_line (absent : '\n' ∉ line) (others : blocks rest = block :: more) :
    blocks (line ++ rest) = (line ++ block) :: more := by
  induction line with
  | nil => exact others
  | cons character line ih =>
      simp only [List.mem_cons, not_or] at absent
      exact blocks_cons (fun same => absurd same.symm absent.1) (ih absent.2)

theorem afterSeparator?_eq_none (visible : ∃ character, rest.head? = some character ∧
    Text.isBlank character = false) : afterSeparator? rest = none := by
  obtain ⟨character, first, visible⟩ := visible
  obtain ⟨beyond, rfl⟩ := List.head?_eq_some_iff.mp first
  simp [afterSeparator?, afterLastFeed?, visible]

theorem afterSeparator?_feed (visible : ∃ character, rest.head? = some character ∧
    Text.isBlank character = false) : afterSeparator? ('\n' :: rest) = some rest := by
  obtain ⟨character, first, visible⟩ := visible
  obtain ⟨beyond, rfl⟩ := List.head?_eq_some_iff.mp first
  have feed : Text.isBlank '\n' = true := rfl
  simp [afterSeparator?, afterLastFeed?, visible, feed]

theorem exists_visible {page : List (List Char)} (plain : ∀ line ∈ page, IsPlain line)
    (filled : page ≠ []) (rest : List Char) :
    ∃ character, (['\n'].intercalate page ++ rest).head? = some character ∧
      Text.isBlank character = false := by
  obtain ⟨shown, trimmed⟩ := trimmed_page plain filled
  have first := List.head?_eq_some_head shown
  exact ⟨_, by rw [List.head?_append, first, Option.some_or], trimmed.begins _ first⟩

theorem blocks_page {page : List (List Char)} (plain : ∀ line ∈ page, IsPlain line)
    (filled : page ≠ []) (ends : blocks rest = [] :: more) :
    blocks (['\n'].intercalate page ++ rest) = ['\n'].intercalate page :: more := by
  induction page with
  | nil => exact absurd rfl filled
  | cons line page ih =>
      rw [List.forall_mem_cons] at plain
      cases page with
      | nil => simpa using blocks_line plain.1.unbroken.1 ends
      | cons next page =>
          have others := ih plain.2 (by simp)
          have inside := afterSeparator?_eq_none (exists_visible plain.2 (by simp) rest)
          simp only [List.intercalate_cons_cons, List.append_assoc]
          exact blocks_line plain.1.unbroken.1 (blocks_cons (fun _ => inside) others)

theorem blocks_pages {pages : List (List (List Char))}
    (plain : ∀ page ∈ pages, page ≠ [] ∧ ∀ line ∈ page, IsPlain line) (filled : pages ≠ []) :
    blocks (['\n', '\n'].intercalate (pages.map ['\n'].intercalate)) =
      pages.map ['\n'].intercalate := by
  induction pages with
  | nil => exact absurd rfl filled
  | cons page pages ih =>
      rw [List.forall_mem_cons] at plain
      obtain ⟨⟨lined, first⟩, others⟩ := plain
      cases pages with
      | nil =>
          have ends : blocks [] = [[]] := by rw [blocks]
          simpa using blocks_page first lined ends
      | cons next pages =>
          have beyond := ih others (by simp)
          -- The next page begins with a visible character, so the separator takes nothing of it.
          obtain ⟨lined', first'⟩ := others next List.mem_cons_self
          have visible : ∃ character, (['\n', '\n'].intercalate
              ((next :: pages).map ['\n'].intercalate)).head? = some character ∧
                Text.isBlank character = false := by
            rw [List.map_cons, Text.head?_intercalate (trimmed_page first' lined').1]
            simpa using exists_visible first' lined' []
          have cut := blocks_of_separator (afterSeparator?_feed visible)
          rw [beyond] at cut
          rw [List.map_cons, List.map_cons, List.intercalate_cons_cons, List.append_assoc,
            ← List.map_cons]
          exact blocks_page first lined cut

end Blocks

section Printing

def Cue.shown (cue : Cue) : TextOverlay :=
  overlayOf (Text.join "\n" (cue.text.map Line.text)) (seconds cue.start.values)
    (seconds cue.finish.values)

theorem Cue.overlay_eq (cue : Cue) : cue.overlay = .ok cue.shown := by
  simp only [overlay, Clock.read_eq]
  rfl

theorem entry?_lines (cue : Cue) :
    entry? (['\n'].intercalate cue.lines) = some (.overlay cue.shown) := by
  have plain : ∀ line ∈ cue.lines, IsPlain line := fun line => cue.isPlain_of_mem_lines
  have filled : cue.lines ≠ [] := by simp [Cue.lines]
  have trimmed : Text.Trimmed (· == '\n') (['\n'].intercalate cue.lines) := by
    refine (trimmed_page plain filled).2.of_imp fun character same => ?_
    rw [eq_of_beq same]
    rfl
  have pieces : Text.splitBy (· == '\n') (['\n'].intercalate cue.lines) = cue.lines := by
    refine Text.splitBy_intercalate rfl filled fun line member character inside => ?_
    refine beq_eq_false_iff_ne.mpr fun same => ?_
    exact (plain line member).unbroken.1 (same ▸ inside)
  obtain ⟨line, more, text⟩ := List.exists_cons_of_ne_nil cue.filled
  simp only [ entry?, Text.trimBy_of_trimmed trimmed, pieces]
  simp only [Cue.lines, text, List.map_cons, timing?_timing, if_neg cue.not_reversed, Cue.shown,
    List.map_map, Function.comp_def, String.ofList_toList]

theorem entries_print (ending : LineEnd) (extra : Nat) (cues : List Cue) :
    entries (print ending extra cues) = cues.map fun cue => .overlay cue.shown := by
  rw [entries, normalize_print]
  by_cases none : cues = []
  · rw [none]
    simp [blocks, entry?, Text.trimBy, Text.splitBy]
  · have each : ( entry? ∘ ['\n'].intercalate) ∘ Cue.lines =
        some ∘ fun cue : Cue => .overlay cue.shown := by
      funext cue
      simp only [Function.comp_apply, entry?_lines]
    rw [blocks_pages (isPlain_pages cues) (by simpa using none), List.filterMap_map,
      List.filterMap_map, each, List.filterMap_eq_map]

/-- Reading undoes printing, whatever the line ends are: the times of all cues can be read, and
the overlays of printed cues are those of the cues, in order. -/
theorem parse_print (ending : LineEnd) (extra : Nat) (cues : List Cue) :
    cues.mapM Cue.overlay = .ok (parse (print ending extra cues)) := by
  have shown : Entry.overlay? ∘ (fun cue : Cue => .overlay cue.shown) = some ∘ Cue.shown := rfl
  rw [parse, entries_print, List.filterMap_map, shown, List.filterMap_eq_map]
  exact mapM_eq_ok_map (fun cue _ => cue.overlay_eq)

/-- A cue of two lines, where a backslash at the end of the first meets the letter n. -/
def pathCue : Cue where
  number := 1
  start := ⟨0, 0, 1, 0⟩
  finish := ⟨0, 0, 4, 500⟩
  text := [⟨"C:\\", ⟨by decide, ⟨by simp [Text.isBlank], by simp [Text.isBlank]⟩, by decide,
      by decide⟩⟩,
    ⟨"new", ⟨by decide, ⟨by simp [Text.isBlank], by simp [Text.isBlank]⟩, by decide, by decide⟩⟩]
  filled := by simp
  ordered := ⟨_, _, Clock.read_eq _, Clock.read_eq _, by decide +kernel⟩

/-- The cue is printed with escaped line ends and read back with its backslash. -/
theorem parse_pathCue :
    print .escaped 0 [pathCue] =
      "1\\n00:00:01,000 --> 00:00:04,500\\nC:\\\\nnew" ∧
    (parse (print .escaped 0 [pathCue])).map TextOverlay.text = ["C:\\\nnew"] := by
  refine ⟨by decide, ?_⟩
  have shown : [pathCue].mapM Cue.overlay = .ok [pathCue.shown] :=
    mapM_eq_ok_map fun cue _ => cue.overlay_eq
  have read := (parse_print .escaped 0 [pathCue]).symm.trans shown
  rw [Except.ok.inj read]
  rfl

end Printing

end Montage.Subtitles
