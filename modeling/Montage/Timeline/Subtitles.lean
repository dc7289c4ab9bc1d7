import Montage.Fault
import Montage.Text.Literal
import Montage.Timeline.Item

/-!
# Subtitles

SubRip text as bottom-centred text overlays.  Blank lines separate the blocks of the
text; a block has an index line, a timing line and at least one line of text.
-/

namespace Montage.Subtitles

def style : String := "subtitle"

def position : String := "bottom-center"

/-- Hours, minutes, seconds and milliseconds as seconds. -/
def clockSeconds (hours minutes seconds milliseconds : Int) :
    Except Fault Binary64 :=
  let whole := Binary64.ofInt (hours * 3600 + minutes * 60 + seconds)
  -- The fraction is rounded by itself before it is added to the whole seconds.
  let fraction := Binary64.ofRat ((milliseconds : Rat) / 1000)
  match whole, fraction with
  | .infinite _, _ => .error .tooLarge
  | _, .infinite _ => .error .tooLarge
  | whole, fraction => .ok (whole + fraction)

def readClock (hours minutes seconds milliseconds : String) :
    Except Fault Binary64 :=
  match Numeral.int? hours.toList, Numeral.int? minutes.toList,
      Numeral.int? seconds.toList, Numeral.int? milliseconds.toList with
  | some hours, some minutes, some seconds, some milliseconds =>
      clockSeconds hours minutes seconds milliseconds
  | _, _, _, _ => .error .badValue

/-- Content with every line break as a line feed and without white space around it.
A backslash followed by the letter n counts as a line break. -/
def normalize (content : List Char) : List Char :=
  Text.trimBy Text.isBlank
    (Text.replacePair '\r' '\n' ['\n'] (Text.replacePair '\\' 'n' ['\n'] content))

def afterLastFeed? (run : List Char) : Option (List Char) :=
  if run.contains '\n' then some (run.reverse.takeWhile (· != '\n')).reverse
  else none

/-- What follows a blank-line separator that starts at a line feed: white space up to
and including its last line feed is dropped. -/
def afterSeparator? (rest : List Char) : Option (List Char) :=
  (afterLastFeed? (rest.takeWhile Text.isBlank)).map
    (· ++ rest.dropWhile Text.isBlank)

theorem length_afterSeparator {rest remaining : List Char}
    (separated : afterSeparator? rest = some remaining) :
    remaining.length ≤ rest.length := by
  simp only [afterSeparator?, afterLastFeed?, Option.map_eq_some_iff] at separated
  obtain ⟨tail, found, rfl⟩ := separated
  split at found
  · simp only [Option.some.injEq] at found
    subst found
    have whole := congrArg List.length
      (List.takeWhile_append_dropWhile (p := Text.isBlank) (l := rest))
    have kept := (List.takeWhile_prefix (· != '\n')
      (l := (rest.takeWhile Text.isBlank).reverse)).length_le
    simp only [List.length_append, List.length_reverse] at whole kept ⊢
    omega
  · simp at found

/-- What follows a blank-line separator whose first character is given, which is no
longer than the text it is cut from. -/
def separator? (character : Char) (rest : List Char) :
    Option { remaining : List Char // remaining.length ≤ rest.length } :=
  if character = '\n' then
    match separated : afterSeparator? rest with
    | some remaining => some ⟨remaining, length_afterSeparator separated⟩
    | none => none
  else none

def blocks (content : List Char) : List (List Char) :=
  match content with
  | [] => [[]]
  | character :: rest =>
      match separator? character rest with
      | some ⟨remaining, _⟩ => [] :: blocks remaining
      | none =>
          match blocks rest with
          | [] => [[character]]
          | block :: more => (character :: block) :: more
termination_by content.length
decreasing_by
  · simp; omega
  · simp

def takeNumber? (count : Nat) (characters : List Char) : Option (Nat × List Char) :=
  let digits := (characters.take count).filterMap Text.digitValue?
  if digits.length = count then
    some (Numeral.ofDigits digits, characters.drop count)
  else none

/-- A time of day with milliseconds, and what follows it. -/
def takeClock? (characters : List Char) :
    Option ((Nat × Nat × Nat × Nat) × List Char) :=
  match takeNumber? 2 characters with
  | some (hours, ':' :: rest) =>
      match takeNumber? 2 rest with
      | some (minutes, ':' :: rest) =>
          match takeNumber? 2 rest with
          | some (seconds, ',' :: rest) =>
              (takeNumber? 3 rest).map fun (milliseconds, rest) =>
                ((hours, minutes, seconds, milliseconds), rest)
          | _ => none
      | _ => none
  | _ => none

/-- The start and end of a timing line.  What follows the second time is not read. -/
def timing? (line : List Char) :
    Option ((Nat × Nat × Nat × Nat) × (Nat × Nat × Nat × Nat)) :=
  match takeClock? (line.dropWhile Text.isBlank) with
  | some (start, rest) =>
      match Text.dropStart? ['-', '-', '>'] (rest.dropWhile Text.isBlank) with
      | some rest =>
          (takeClock? (rest.dropWhile Text.isBlank)).map fun (finish, _) =>
            (start, finish)
      | none => none
  | none => none

/-- The seconds of a clock reading with two digits a field and three for the
milliseconds. -/
def seconds (clock : Nat × Nat × Nat × Nat) : Binary64 :=
  match clockSeconds clock.1 clock.2.1 clock.2.2.1 clock.2.2.2 with
  | .ok seconds => seconds
  | .error _ => .zero

/-- What a block of subtitle text comes to. -/
inductive Entry where
  | overlay (overlay : TextOverlay)
  | invalidTiming (line : String)
  | reversedTiming (line : String)

def overlayOf (text : String) (start finish : Binary64) : TextOverlay :=
  ⟨text, style, none, .named position, start, finish - start⟩

/-- What a block comes to. -/
def entry? (block : List Char) : Option Entry :=
  match Text.splitBy (· == '\n') (Text.trimBy (· == '\n') block) with
  | _ :: timing :: line :: more =>
      match timing? timing with
      | none => some (.invalidTiming (String.ofList timing))
      | some (start, finish) =>
          if seconds finish < seconds start then
            some (.reversedTiming (String.ofList timing))
          else
            let text := Text.join "\n" ((line :: more).map String.ofList)
            some (.overlay (overlayOf text (seconds start) (seconds finish)))
  -- Fewer than three lines come to nothing, and nothing is said of them.
  | _ => none

def entries (content : String) : List Entry :=
  (blocks (normalize content.toList)).filterMap entry?

def Entry.overlay? : Entry → Option TextOverlay
  | .overlay shown => some shown
  | _ => none

def Entry.warning? : Entry → Option String
  | .overlay _ => none
  | .invalidTiming line => some
      ("[subtitles] Skipping block with invalid timing line: " ++ Text.literal line)
  | .reversedTiming line => some
      ("[subtitles] Skipping block that ends before it starts: " ++ Text.literal line)

def parse (content : String) : List TextOverlay :=
  (entries content).filterMap Entry.overlay?

end Montage.Subtitles
