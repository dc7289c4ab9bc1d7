import Montage.Yaml.Cursor

/-!
# Block scalars

Scalars that stand on lines of their own, which are indented further than what is around
them.  They are either literal, or folded: then lines that start with a character are
joined by blanks.
-/

namespace Montage.Yaml.Block

/-- What becomes of the line ends that end a block scalar. -/
inductive Chomping where
  | strip
  | clip
  | keep
  deriving DecidableEq, Repr, Inhabited

/-- What stands behind the mark of a block scalar. -/
structure Header where
  chomping : Chomping
  indentation : Option Nat
  deriving DecidableEq, Repr, Inhabited

def takeChomping (cursor : Cursor) : Chomping × Cursor :=
  match cursor.peek with
  | some '+' => (.keep, cursor.next)
  | some '-' => (.strip, cursor.next)
  | _ => (.clip, cursor)

/-- A digit for the indentation at a cursor, which is not zero, and the cursor behind
it. -/
def takeIndentation (cursor : Cursor) : Except Fault (Option Nat × Cursor) :=
  match cursor.peek with
  | some digit =>
      if digit = '0' then .error .unreadableYaml
      else if digit.isDigit then .ok (some (digit.toNat - 48), cursor.next)
      else .ok (none, cursor)
  | none => .ok (none, cursor)

/-- The header at a cursor, whose two parts may come in any order, and the cursor behind
its line. -/
def takeHeader (cursor : Cursor) : Except Fault (Header × Cursor) := do
  let (early, afterEarly) := takeChomping cursor
  let (indentation, afterDigit) ← takeIndentation afterEarly
  let (late, behind) : Chomping × Cursor :=
    if early = .clip ∧ indentation.isSome then takeChomping afterDigit
    else (.clip, afterDigit)
  if behind.isAtEndOr fun character => character = ' ' || isBreak character then
    let start ← behind.finishLine
    .ok (⟨if early = .clip then late else early, indentation⟩, start)
  else .error .unreadableYaml

/-- The ends of empty lines before the first line with text, the greatest column that
blanks lead to there, and the cursor at that text. -/
def takeLead : Nat → Cursor → List Char × Nat × Cursor
  | 0, cursor => ([], 0, cursor)
  | fuel + 1, cursor =>
      let ahead := cursor.skipBlanks
      if ahead.isAt isBreak then
        let (lineEnd, behind) := ahead.takeBreak
        let (breaks, column, behind) := takeLead fuel behind
        (lineEnd ++ breaks, max ahead.column column, behind)
      else ([], ahead.column, ahead)

/-- The ends of empty lines, and the cursor at the first line with text behind blanks up to
a column. -/
def takeBreaks (column : Nat) : Nat → Cursor → List Char × Cursor
  | 0, cursor => ([], cursor)
  | fuel + 1, cursor =>
      let ahead := cursor.skipBlanksTo column
      if ahead.isAt isBreak then
        let (lineEnd, behind) := ahead.takeBreak
        let (breaks, behind) := takeBreaks column fuel behind
        (lineEnd ++ breaks, behind)
      else ([], ahead)

def isJoinable (cursor : Cursor) : Bool :=
  !cursor.isAt fun character => character = ' ' || character = '\t'

/-- The lines of a block scalar from a cursor on: their text, the line ends that end it,
and the cursor behind it. -/
def takeLines (column : Nat) (isFolded : Bool) :
    Nat → List Char → Cursor → List Char × List Char × List Char × Cursor
  | 0, breaks, cursor => ([], [], breaks, cursor)
  | fuel + 1, breaks, cursor =>
      if cursor.column ≠ column ∨ cursor.isAtEnd then ([], [], breaks, cursor)
      else
        let (content, lineBehind) := cursor.takeWhile fun character => !isBreak character
        let (lineEnd, behind) := lineBehind.takeBreak
        let (following, ahead) := takeBreaks column behind.rest.length behind
        if ahead.column = column ∧ !ahead.isAtEnd then
          -- Folding makes one line of two, unless either of them is indented further.
          let joint :=
            if isFolded && lineEnd == ['\n'] && isJoinable cursor && isJoinable ahead then
              if following.isEmpty then [' '] else []
            else lineEnd
          let (text, last, trailing, end_) :=
            takeLines column isFolded fuel following ahead
          (breaks ++ content ++ joint ++ text, last, trailing, end_)
        else (breaks ++ content, lineEnd, following, ahead)

/-- The block scalar whose mark is at a cursor.  It is indented by at least `floor`. -/
def take (floor : Nat) (cursor : Cursor) : Except Fault (String × Cursor) := do
  let isFolded := cursor.isAt (· == '>')
  let (header, start) ← takeHeader cursor.next
  let least := max 1 floor
  let fuel := start.rest.length + 1
  let (column, breaks, first) : Nat × List Char × Cursor := match header.indentation with
    -- If the header says nothing of it, the first lines show how far the scalar is indented.
    | none =>
        let (breaks, column, first) := takeLead fuel start
        (max least column, breaks, first)
    | some indentation =>
        let column := least + indentation - 1
        let (breaks, first) := takeBreaks column fuel start
        (column, breaks, first)
  let (text, last, trailing, behind) := takeLines column isFolded fuel breaks first
  let ending := match header.chomping with
    | .strip => []
    | .clip => last
    | .keep => last ++ trailing
  .ok (String.ofList (text ++ ending), behind)

end Montage.Yaml.Block
