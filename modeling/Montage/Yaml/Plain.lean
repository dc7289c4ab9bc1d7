import Montage.Yaml.Cursor

/-!
# Plain scalars

Scalars without quotes.  They end before a remark, before a colon that ends a key, and in
front of a line that is not indented enough; lines that go on are joined.
-/

namespace Montage.Yaml.Plain

def flowMarks : List Char := ",?[]\x7b\x7d".toList

/-- Whether a plain scalar ends before a character with this behind it. -/
def endsAt (inFlow : Bool) (character : Char) (rest : List Char) : Bool :=
  isGap character ||
    (character == ':' && rest.head?.all fun next =>
      isGap next || (inFlow && ",[]\x7b\x7d".toList.contains next)) ||
    (inFlow && flowMarks.contains character)

/-- The part of a plain scalar without gaps at the start of characters. -/
def piece (inFlow : Bool) : List Char → List Char
  | [] => []
  | character :: rest =>
      if endsAt inFlow character rest then [] else character :: piece inFlow rest

def otherMarks : List Char := "-?:,[]\x7b\x7d#&*!|>'\"%@\x60".toList

def startsAt (inFlow : Bool) : List Char → Bool
  | [] => false
  | character :: rest =>
      !(isGap character || otherMarks.contains character) ||
        (!rest.head?.all isGap &&
          (character == '-' || (!inFlow && (character == '?' || character == ':'))))

/-- What lies between two parts of a plain scalar. -/
structure Gap where
  /-- What it stands for in the scalar; nothing if the scalar ends here. -/
  text : List Char
  isOverLines : Bool
  cursor : Cursor
  deriving Inhabited

/-- The ends of empty lines and the cursor behind them, unless a document starts or ends
there. -/
def takeBreaks : Nat → Cursor → Option (List Char) × Cursor
  | 0, cursor => (some [], cursor)
  | fuel + 1, cursor =>
      if cursor.isAtDocument && cursor.column == 0 then (none, cursor)
      else
        let ahead := cursor.skipBlanks
        if ahead.isAt isBreak then
          let (lineEnd, behind) := ahead.takeBreak
          let (more, behind) := takeBreaks fuel behind
          (more.map (lineEnd ++ ·), behind)
        else (some [], ahead)

def takeGap (cursor : Cursor) : Gap :=
  let (blanks, ahead) := cursor.takeWhile (· == ' ')
  if ahead.isAt isBreak then
    let (lineEnd, behind) := ahead.takeBreak
    match takeBreaks behind.rest.length behind with
    | (none, cursor) => ⟨[], true, cursor⟩
    | (some breaks, cursor) =>
        let first := if lineEnd != ['\n'] then lineEnd
          else if breaks.isEmpty then [' '] else []
        ⟨first ++ breaks, true, cursor⟩
  else ⟨blanks, false, ahead⟩

/-- A plain scalar that has been read. -/
structure Scan where
  text : List Char
  /-- Whether a key may start behind it. -/
  allowsKey : Bool
  cursor : Cursor
  deriving Inhabited

/-- The rest of a plain scalar from the end of a gap on. -/
def takeFrom (floor : Nat) (inFlow : Bool) : Nat → Gap → Scan
  | 0, gap => ⟨[], gap.isOverLines, gap.cursor⟩
  | fuel + 1, gap =>
      let part := piece inFlow gap.cursor.rest
      if part.isEmpty then ⟨[], gap.isOverLines, gap.cursor⟩
      else
        let next := takeGap (gap.cursor.advance part.length)
        -- The scalar ends at a comment, and outside brackets at a line that is indented less.
        let scan : Scan :=
          if next.text.isEmpty || next.cursor.isAt (· == '#') ||
              (!inFlow && next.cursor.column < floor) then
            ⟨[], next.isOverLines, next.cursor⟩
          else takeFrom floor inFlow fuel next
        { scan with text := gap.text ++ part ++ scan.text }

def take (floor : Nat) (inFlow : Bool) (cursor : Cursor) : Scan :=
  takeFrom floor inFlow (cursor.rest.length + 1) ⟨[], false, cursor⟩

end Montage.Yaml.Plain
