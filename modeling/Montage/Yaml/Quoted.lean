import Montage.Yaml.Cursor

/-!
# Quoted scalars

Scalars between single or double quotes.  A single quote is written twice between single
quotes; escapes stand only between double quotes.  Lines are joined by blanks.
-/

namespace Montage.Yaml.Quoted

def escapes : List (Char × Char) := [
  ('0', '\x00'), ('a', '\x07'), ('b', '\x08'), ('t', '\t'), ('\t', '\t'), ('n', '\n'),
  ('v', '\x0B'), ('f', '\x0C'), ('r', '\r'), ('e', '\x1B'), (' ', ' '), ('"', '"'),
  ('\\', '\\'), ('/', '/'), ('N', '\u0085'), ('_', '\u00A0'), ('L', '\u2028'),
  ('P', '\u2029')]

def codeLengths : List (Char × Nat) := [('x', 2), ('u', 4), ('U', 8)]

def ofCode (code : Nat) : Except Fault Char :=
  if code ≤ 0x10FFFF then .ok (Char.ofNat code)
  else if code < 0x80000000 then .error .badValue
  else .error .tooLarge

/-- The ends of empty lines at the start of a line, and the cursor at the text of the first
line with any. -/
def takeBreaks : Nat → Cursor → Except Fault (List Char × Cursor)
  | 0, cursor => .ok ([], cursor)
  | fuel + 1, cursor =>
      -- No document may start or end inside quotes.
      if cursor.isAtDocument then .error .unreadableYaml
      else
        let ahead := cursor.skipWhile fun blank => blank == ' ' || blank == '\t'
        if ahead.isAt isBreak then do
          let (lineEnd, behind) := ahead.takeBreak
          let (more, behind) ← takeBreaks fuel behind
          .ok (lineEnd ++ more, behind)
        else .ok ([], ahead)

def takeGap (cursor : Cursor) : Except Fault (List Char × Cursor) :=
  let (blanks, ahead) := cursor.takeWhile fun blank => blank == ' ' || blank == '\t'
  if ahead.isAtEnd then .error .unreadableYaml
  else if ahead.isAt isBreak then do
    let (lineEnd, behind) := ahead.takeBreak
    let (breaks, behind) ← takeBreaks behind.rest.length behind
    let first := if lineEnd != ['\n'] then lineEnd else if breaks.isEmpty then [' '] else []
    .ok (first ++ breaks, behind)
  else .ok (blanks, ahead)

/-- What an escape stands for, and the cursor behind it, given the one behind its
backslash. -/
def takeEscape (cursor : Cursor) : Except Fault (List Char × Cursor) :=
  match cursor.peek with
  | none => .error .unreadableYaml
  | some mark =>
      match escapes.lookup mark, codeLengths.lookup mark with
      | some character, _ => .ok ([character], cursor.next)
      | none, some length => do
          let digits := cursor.next.rest.take length
          if !areHexDigits length digits then .error .unreadableYaml
          else
            let character ← ofCode (ofHexDigits digits)
            .ok ([character], cursor.next.advance length)
      | none, none =>
          if isBreak mark then
            let behind := cursor.takeBreak.2
            takeBreaks behind.rest.length behind
          else .error .unreadableYaml

/-- The inside of a quoted scalar from a cursor on, and the cursor behind the quote that
ends it. -/
def takeFrom (quote : Char) : Nat → Cursor → Except Fault (List Char × Cursor)
  | 0, _ => .error .unreadableYaml
  | fuel + 1, cursor =>
      match cursor.rest with
      | [] => .error .unreadableYaml
      | character :: rest =>
          if character == quote then
            if quote == '\'' && rest.head? == some '\'' then do
              let (text, behind) ← takeFrom quote fuel cursor.next.next
              .ok ('\'' :: text, behind)
            else .ok ([], cursor.next)
          else do
            let (piece, ahead) ←
              if quote == '"' && character == '\\' then takeEscape cursor.next
              else if isGap character then takeGap cursor
              else .ok ([character], cursor.next)
            let (text, behind) ← takeFrom quote fuel ahead
            .ok (piece ++ text, behind)

def take (quote : Char) (cursor : Cursor) : Except Fault (String × Cursor) := do
  let (text, behind) ← takeFrom quote (cursor.rest.length + 1) cursor.next
  .ok (String.ofList text, behind)

end Montage.Yaml.Quoted
