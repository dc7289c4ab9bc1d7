import Montage.Numeric.Numeral
import Montage.Yaml.Cursor

/-!
# Tokens

The tokens of a YAML document, and those of them that a mark announces: names of anchors,
tags, and directives.
-/

namespace Montage.Yaml

/-- Tokens.  Collections in blocks have tokens for their starts and ends as well. -/
inductive Token where
  | streamEnd
  | version (major : Nat)
  | handle (name start : String)
  | otherDirective
  | documentStart
  | documentEnd
  | blockSequenceStart
  | blockMappingStart
  | blockEnd
  | flowSequenceStart
  | flowSequenceEnd
  | flowMappingStart
  | flowMappingEnd
  | flowEntry
  | blockEntry
  | key
  | value
  | reference (anchor : String)
  | anchor (name : String)
  /-- A tag: a handle, unless it is written in full, and what follows the handle. -/
  | tag (handle : Option String) (suffix : String)
  | scalar (text : String) (isPlain : Bool)
  deriving DecidableEq, Repr, Inhabited

namespace Token

/-- The name at a cursor, which has at least one character, and the cursor behind it. -/
def takeName (cursor : Cursor) : Except Fault (String × Cursor) :=
  match cursor.takeWhile isNameCharacter with
  | ([], _) => .error .unreadableYaml
  | (name, behind) => .ok (String.ofList name, behind)

/-- The name of an anchor behind the mark at a cursor, and the cursor behind it. -/
def takeAnchor (cursor : Cursor) : Except Fault (String × Cursor) := do
  let (name, behind) ← takeName cursor.next
  if behind.isAtEndOr fun character =>
      isGap character || "?:,]\x7d%@\x60".toList.contains character then
    .ok (name, behind)
  else .error .unreadableYaml

def isAddressCharacter (character : Char) : Bool :=
  character.isAlphanum || "-;/?:@&=+$,_.!~*'()[]%".toList.contains character

/-- Characters with the bytes in percent encoding decoded, which have to be text. -/
def decodeAddress : Nat → List Char → Except Fault (List Char)
  | 0, _ => .ok []
  | _, [] => .ok []
  | fuel + 1, '%' :: rest => do
      let (bytes, beyond) ← takeBytes (rest.length + 1) ('%' :: rest)
      match String.fromUTF8? (ByteArray.mk bytes.toArray) with
      | some text => .ok (text.toList ++ (← decodeAddress fuel beyond))
      | none => .error .unreadableYaml
  | fuel + 1, character :: rest => do .ok (character :: (← decodeAddress fuel rest))
where
  takeBytes : Nat → List Char → Except Fault (List UInt8 × List Char)
    | fuel + 1, '%' :: rest =>
        if areHexDigits 2 (rest.take 2) then do
          let (bytes, beyond) ← takeBytes fuel (rest.drop 2)
          .ok (UInt8.ofNat (ofHexDigits (rest.take 2)) :: bytes, beyond)
        else .error .unreadableYaml
    | _, characters => .ok ([], characters)

def takeAddress (cursor : Cursor) : Except Fault (String × Cursor) :=
  match cursor.takeWhile isAddressCharacter with
  | ([], _) => .error .unreadableYaml
  | (characters, behind) => do
      let decoded ← decodeAddress characters.length characters
      .ok (String.ofList decoded, behind)

/-- The handle of a tag at a cursor, and the cursor behind it: an exclamation mark, or a
name between two of them. -/
def takeHandle (cursor : Cursor) : Except Fault (String × Cursor) :=
  if !cursor.isAt (· == '!') then .error .unreadableYaml
  else
    let opened := cursor.next
    if opened.isAt (· == ' ') then .ok ("!", opened)
    else
      let (name, closing) := opened.takeWhile isNameCharacter
      if closing.isAt (· == '!') then
        .ok (String.ofList ('!' :: name ++ ['!']), closing.next)
      else .error .unreadableYaml

def isDone (cursor : Cursor) : Bool :=
  cursor.isAtEndOr fun character => character = ' ' || isBreak character

/-- The tag whose mark is at a cursor, and the cursor behind it. -/
def takeTag (cursor : Cursor) : Except Fault (Token × Cursor) := do
  let opened := cursor.next
  let (token, behind) ←
    if opened.isAt (· == '<') then do
      let (address, closing) ← takeAddress opened.next
      if closing.isAt (· == '>') then .ok (Token.tag none address, closing.next)
      else .error .unreadableYaml
    else if opened.isAtEndOr isGap then .ok (Token.tag none "!", opened)
    else do
      let ahead := opened.rest.takeWhile fun character =>
        !(character = ' ' || isBreak character)
      let (opening, start) ←
        if ahead.contains '!' then takeHandle cursor else .ok ("!", opened)
      let (suffix, behind) ← takeAddress start
      .ok (Token.tag (some opening) suffix, behind)
  if isDone behind then .ok (token, behind) else .error .unreadableYaml

def takeNumber (cursor : Cursor) : Except Fault (Nat × Cursor) :=
  match cursor.takeWhile Char.isDigit with
  | ([], _) => .error .unreadableYaml
  | (digits, behind) => .ok (Numeral.ofDigits (Numeral.takeDigits digits).1, behind)

def takeVersion (cursor : Cursor) : Except Fault (Token × Cursor) := do
  let (major, point) ← takeNumber cursor.skipBlanks
  if !point.isAt (· == '.') then .error .unreadableYaml
  else
    let (_, behind) ← takeNumber point.next
    if isDone behind then .ok (.version major, behind) else .error .unreadableYaml

/-- The handle and what it stands for in a directive at a cursor, and the cursor behind
it. -/
def takeHandleDirective (cursor : Cursor) : Except Fault (Token × Cursor) := do
  let (name, afterName) ← takeHandle cursor.skipBlanks
  if !afterName.isAt (· == ' ') then .error .unreadableYaml
  else
    let (start, behind) ← takeAddress afterName.skipBlanks
    if isDone behind then .ok (.handle name start, behind) else .error .unreadableYaml

/-- The directive whose mark is at a cursor, and the cursor behind its line. -/
def takeDirective (cursor : Cursor) : Except Fault (Token × Cursor) := do
  let (name, afterName) ← takeName cursor.next
  if !isDone afterName then .error .unreadableYaml
  else
    let (token, behind) ← match name with
      | "YAML" => takeVersion afterName
      | "TAG" => takeHandleDirective afterName
      | _ => .ok (.otherDirective, afterName.skipLine)
    .ok (token, ← behind.finishLine)

end Token

end Montage.Yaml
