import Montage.Console.Literal
import Montage.Console.Styled
import Montage.Console.StyleName
import Montage.Console.Symbols
import Montage.Fault

/-!
# Message markup

Style tags in square brackets inside console messages.  A tag may have a parameter after
an equals sign.  A tag without a style is ignored, but a closing tag has to match an open
one, and the parameter of a closed tag for events has to be one: the name of a handler, the
name with arguments in parentheses, or a literal.
-/

namespace Montage.Console.Parameter

def isValid (text : String) : Bool :=
  let characters := Text.trimBy Text.isBlank text.toList
  let name := characters.takeWhile fun character => Text.isWord character || character = '.'
  match characters.drop name.length with
  | [] => true
  | '(' :: rest =>
      let arguments := '(' :: rest
      if rest.getLast? = some ')' ∧ !rest.contains '\n' then isLiteral arguments
      else isLiteral characters
  | _ => isLiteral characters

end Montage.Console.Parameter

namespace Montage.Console

/-- Reasons why a message cannot be printed. -/
inductive MarkupError where
  | unmatched (tag : String) (position : Nat)
  | nothingToClose (position : Nat)
  | badParameter (parameter : String)
  | badStyle (part : String)
  deriving DecidableEq, Repr, Inhabited

namespace MarkupError

def fault : MarkupError → Fault
  | .unmatched tag position =>
      let index := Decimal.ofInt position
      .badMarkup s!"closing tag '{tag}' at position {index} doesn't match any open tag"
  | .nothingToClose position =>
      let index := Decimal.ofInt position
      .badMarkup s!"closing tag '[/]' at position {index} has nothing to close"
  | .badParameter parameter => .badMarkup s!"error parsing {parameter}"
  | .badStyle part => .badNumeral part

end MarkupError

namespace Markup

def startsTag (character : Char) : Bool :=
  ('a' ≤ character && character ≤ 'z') || character == '#' || character == '/' ||
    character == '@'

def insideTag (character : Char) : Bool :=
  character != '[' && character != ']'

/-- A tag at the start of a list: the number of backslashes in front of it, its
inside, and what follows it. -/
def takeTag? (characters : List Char) : Option (Nat × List Char × List Char) :=
  match characters.dropWhile (· == '\\') with
  | '[' :: first :: rest =>
      if startsTag first then
        match rest.dropWhile insideTag with
        | ']' :: beyond =>
            some ((characters.takeWhile (· == '\\')).length,
              first :: rest.takeWhile insideTag, beyond)
        | _ => none
      else none
  | _ => none

theorem takeTag?_length {characters inside beyond : List Char} {escapes : Nat}
    (taken : takeTag? characters = some (escapes, inside, beyond)) :
    beyond.length < characters.length := by
  simp only [takeTag?] at taken
  split at taken
  next first rest opened =>
    split at taken
    · split at taken
      next after closed =>
        simp only [Option.some.injEq, Prod.mk.injEq] at taken
        obtain ⟨-, -, rfl⟩ := taken
        have outer := (List.dropWhile_suffix (l := characters) (· == '\\')).length_le
        have inner := (List.dropWhile_suffix (l := rest) insideTag).length_le
        rw [opened] at outer
        rw [closed] at inner
        simp only [List.length_cons] at outer inner
        omega
      · simp at taken
    · simp at taken
  · simp at taken

/-- The parts of a message: characters as they are, those that a backslash keeps from
being a tag, and tags with their position. -/
inductive Part where
  | plain (characters : List Char)
  | kept (characters : List Char)
  | tag (position : Nat) (inside : List Char)
  deriving DecidableEq, Repr, Inhabited

/-- The parts that a tag comes to. -/
def tagParts (position escapes : Nat) (inside : List Char) : List Part :=
  -- Pairs of backslashes in front of it stand for one each, and a single one makes it plain.
  let backslashes := escapes / 2
  let lead := if backslashes = 0 then []
    else [Part.kept (List.replicate backslashes '\\')]
  if escapes % 2 = 1 then lead ++ [.kept ('[' :: inside ++ [']'])]
  else lead ++ [.tag (position + 2 * backslashes) inside]

def parts (position : Nat) (characters : List Char) : List Part :=
  match characters with
  | [] => []
  | character :: rest =>
      match taken : takeTag? (character :: rest) with
      | some (escapes, inside, beyond) =>
          have _shorter := takeTag?_length taken
          tagParts position escapes inside ++
            parts (position + escapes + inside.length + 2) beyond
      | none =>
          match parts (position + 1) rest with
          | .plain characters :: more => .plain (character :: characters) :: more
          | more => .plain [character] :: more
termination_by characters.length
decreasing_by
  · assumption
  · simp

/-- A tag: a name, and what follows an equals sign after it. -/
structure Tag where
  name : String
  parameter : Option String
  deriving DecidableEq, Repr, Inhabited

namespace Tag

def ofInside (inside : List Char) : Tag :=
  ⟨String.ofList (inside.takeWhile (· != '=')),
    match inside.dropWhile (· != '=') with
    | [] => none
    | _ :: parameter => some (String.ofList parameter)⟩

def style (tag : Tag) : String :=
  match tag.parameter with
  | none => tag.name
  | some parameter => tag.name ++ " " ++ parameter

def isForEvents (tag : Tag) : Bool := tag.name.toList.head? == some '@'

def close (tag : Tag) : Except MarkupError Unit :=
  match tag.parameter with
  | none => .ok ()
  | some parameter =>
      if tag.isForEvents && !parameter.isEmpty && !Parameter.isValid parameter then
        .error (.badParameter parameter)
      else .ok ()

end Tag

def styleName (style : String) : Except MarkupError String :=
  match StyleName.normalize style with
  | .ok name => .ok name
  | .error reason => .error (.badStyle reason.part)

/-- A tag, and the number of characters that come before what it encloses. -/
structure OpenTag where
  tag : Tag
  start : Nat
  deriving DecidableEq, Repr, Inhabited

def takeOpen? (name : String) : List OpenTag → Option (OpenTag × List OpenTag)
  | [] => none
  | first :: rest =>
      if first.tag.name = name then some (first, rest)
      else (takeOpen? name rest).map fun (found, others) => (found, first :: others)

/-- The open tags after a tag that comes behind so many characters, innermost first, and
the tag that it closes. -/
def step (position behind : Nat) (inside : List Char) (stack : List OpenTag) :
    Except MarkupError (List OpenTag × Option OpenTag) :=
  let tag := Tag.ofInside inside
  match tag.name.toList with
  | '/' :: rest =>
      let wanted := Text.trimBy Text.isBlank rest
      if wanted.isEmpty then
        match stack with
        | [] => .error (.nothingToClose position)
        | closed :: others => do
            closed.tag.close
            .ok (others, some closed)
      else do
        let name ← styleName (String.ofList wanted)
        match takeOpen? name stack with
        | none => .error (.unmatched (String.ofList ('[' :: inside ++ [']'])) position)
        | some (closed, others) => do
            closed.tag.close
            .ok (others, some closed)
  | _ => do
      let name ← styleName tag.name
      .ok (⟨{ tag with name }, behind⟩ :: stack, none)

/-- The stretches of closed and open tags behind so many characters, last one to open
first among those that start together. -/
def spansOf (behind : Nat) (closed : List Span) (stack : List OpenTag) : List Span :=
  let unclosed : List Span := stack.map fun opened => ⟨opened.start, behind, opened.tag.style⟩
  (closed ++ unclosed.filter fun span => !span.style.isEmpty).reverse.mergeSort
    fun first second => first.start ≤ second.start

def shownOf (characters : List Char) : List Char :=
  Layout.printable
    (Symbols.replaceCharacters (Text.replacePair '\\' '[' ['['] characters))

/-- The text of parts behind other text under open tags. -/
def gather (before : List Char) (closed : List Span) (stack : List OpenTag) :
    List Part → Except MarkupError Styled
  | [] => .ok ⟨before, spansOf before.length closed stack⟩
  | .plain characters :: rest | .kept characters :: rest =>
      gather (before ++ shownOf characters) closed stack rest
  | .tag position inside :: rest => do
      let (stack, ended) ← step position before.length inside stack
      let spans := ended.toList.map fun ended =>
        ⟨ended.start, before.length, ended.tag.style⟩
      gather before (closed ++ spans) stack rest

def styled (message : String) : Except MarkupError Styled :=
  gather [] [] [] (parts 0 message.toList)

def checkStyle (span : Span) : Except MarkupError Unit :=
  if span.style.toList.head? = some '@' then .ok ()
  else (styleName span.style).map fun _ => ()

def linesWithin (width : Nat) (message : String) : Except MarkupError (List Styled) := do
  let lines := (← styled message).printedLines width
  (lines.flatMap Styled.spans).forM checkStyle
  .ok lines

def render (message : String) : Except MarkupError String :=
  (linesWithin Layout.consoleWidth message).map (Styled.printed Layout.consoleWidth)

end Markup

end Montage.Console
