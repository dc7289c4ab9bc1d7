import Montage.Yaml.Block
import Montage.Yaml.Plain
import Montage.Yaml.Quoted
import Montage.Yaml.Token

/-!
# Lexical analysis

The tokens of a document in order.  What starts like a node may turn out to be a key once
a colon comes behind it on the same line; then the tokens for the key, and for the mapping
that it may start, are put in front of it.
-/

namespace Montage.Yaml

/-- A node that is a key if a colon comes behind it. -/
structure Candidate where
  position : Nat
  isRequired : Bool
  start : Cursor
  deriving Inhabited

/-- The state of the lexical analysis of a text. -/
structure Lexer where
  cursor : Cursor
  tokens : Array Token := #[]
  isDone : Bool := false
  flowDepth : Nat := 0
  /-- The least column that a collection inside the current one is indented by; zero
  outside all collections. -/
  floor : Nat := 0
  /-- The floors of the collections around the current one, innermost first. -/
  floors : List Nat := []
  allowsKey : Bool := true
  candidates : List (Nat × Candidate) := []
  deriving Inhabited

namespace Lexer

def inFlow (lexer : Lexer) : Bool := lexer.flowDepth ≠ 0

def push (token : Token) (lexer : Lexer) : Lexer :=
  { lexer with tokens := lexer.tokens.push token }

def insert (position : Nat) (token : Token) (lexer : Lexer) : Lexer :=
  { lexer with tokens := lexer.tokens.insertIdxIfInBounds position token }

def advance (count : Nat) (lexer : Lexer) : Lexer :=
  { lexer with cursor := lexer.cursor.advance count }

def keyLength : Nat := 1024

/-- The cursor at the next token, behind blanks, remarks and empty lines, and whether it is
on another line. -/
def skipToToken : Nat → Cursor → Cursor × Bool
  | 0, cursor => (cursor, false)
  | fuel + 1, cursor =>
      let afterBlanks := cursor.skipBlanks
      let ahead := if afterBlanks.isAt (· == '#') then afterBlanks.skipLine else afterBlanks
      if ahead.isAt isBreak then ((skipToToken fuel ahead.takeBreak.2).1, true)
      else (ahead, false)

def toToken (lexer : Lexer) : Lexer :=
  let start := if lexer.cursor.index = 0 ∧ lexer.cursor.peek = some byteOrderMark then
    lexer.cursor.next else lexer.cursor
  let (cursor, isOnNewLine) := skipToToken (start.rest.length + 1) start
  { lexer with cursor, allowsKey := lexer.allowsKey || (isOnNewLine && !lexer.inFlow) }

def isStale (cursor : Cursor) (candidate : Candidate) : Bool :=
  candidate.start.line ≠ cursor.line || keyLength < cursor.index - candidate.start.index

/-- The analysis without the candidates that are too far back. -/
def dropStale (lexer : Lexer) : Except Fault Lexer :=
  let (stale, fresh) := lexer.candidates.partition fun entry => isStale lexer.cursor entry.2
  if stale.any fun entry => entry.2.isRequired then .error .unreadableYaml
  else .ok { lexer with candidates := fresh }

/-- The analysis without the candidate between the current brackets. -/
def dropCandidate (lexer : Lexer) : Except Fault Lexer :=
  match lexer.candidates.lookup lexer.flowDepth with
  | none => .ok lexer
  | some candidate =>
      if candidate.isRequired then .error .unreadableYaml
      else .ok { lexer with
        candidates := lexer.candidates.filter fun entry => entry.1 ≠ lexer.flowDepth }

/-- The analysis with what comes next as a candidate, if a key may start here. -/
def addCandidate (lexer : Lexer) : Except Fault Lexer :=
  if !lexer.allowsKey then .ok lexer
  else do
    let cursor := lexer.cursor
    let isRequired := !lexer.inFlow && lexer.floor = cursor.column + 1
    let lexer ← lexer.dropCandidate
    let candidate : Candidate := ⟨lexer.tokens.size, isRequired, cursor⟩
    .ok { lexer with candidates := (lexer.flowDepth, candidate) :: lexer.candidates }

/-- The analysis after the end of the collections that are indented by more than a floor
allows. -/
def closeBlocksTo (floor : Nat) (lexer : Lexer) : Lexer :=
  if lexer.inFlow then lexer
  else
    let rec close (current : Nat) : List Nat → Lexer
      | [] => { lexer with floor := current, floors := [] }
      | outer :: rest =>
          if current ≤ floor then { lexer with floor := current, floors := outer :: rest }
          else (close outer rest).push .blockEnd
    close lexer.floor lexer.floors

/-- The analysis in a collection that starts at a column, and whether that is a new
one. -/
def openBlock (column : Nat) (lexer : Lexer) : Lexer × Bool :=
  if lexer.floor ≤ column then
    ({ lexer with floor := column + 1, floors := lexer.floor :: lexer.floors }, true)
  else (lexer, false)

/-- The analysis after a mark that starts a part of a collection in a block, with a token
in front of it for a collection that it starts. -/
def openAtMark (start : Token) (lexer : Lexer) : Except Fault Lexer :=
  if lexer.inFlow then .ok lexer
  else if !lexer.allowsKey then .error .unreadableYaml
  else
    let (lexer, isNew) := lexer.openBlock lexer.cursor.column
    .ok (if isNew then lexer.push start else lexer)

def closeAll (lexer : Lexer) : Except Fault Lexer := do
  let lexer ← (lexer.closeBlocksTo 0).dropCandidate
  .ok { lexer with allowsKey := false }

def finish (lexer : Lexer) : Except Fault Lexer := do
  let lexer ← lexer.closeAll
  .ok { (lexer.push .streamEnd) with isDone := true, candidates := [] }

def readDirective (lexer : Lexer) : Except Fault Lexer := do
  let lexer ← lexer.closeAll
  let (token, cursor) ← Token.takeDirective lexer.cursor
  .ok { (lexer.push token) with cursor }

def readDocumentMark (token : Token) (lexer : Lexer) : Except Fault Lexer := do
  let lexer ← lexer.closeAll
  .ok ((lexer.push token).advance 3)

def openFlow (token : Token) (lexer : Lexer) : Except Fault Lexer := do
  let lexer ← lexer.addCandidate
  .ok { ((lexer.push token).advance 1) with
    flowDepth := lexer.flowDepth + 1, allowsKey := true }

/-- The analysis after a closing bracket, which has to be open. -/
def closeFlow (token : Token) (lexer : Lexer) : Except Fault Lexer := do
  let lexer ← lexer.dropCandidate
  if !lexer.inFlow then .error .unreadableYaml
  else .ok { ((lexer.push token).advance 1) with
    flowDepth := lexer.flowDepth - 1, allowsKey := false }

def readComma (lexer : Lexer) : Except Fault Lexer := do
  let lexer ← lexer.dropCandidate
  .ok { ((lexer.push .flowEntry).advance 1) with allowsKey := true }

def readDash (lexer : Lexer) : Except Fault Lexer := do
  let lexer ← (← lexer.openAtMark .blockSequenceStart).dropCandidate
  .ok { ((lexer.push .blockEntry).advance 1) with allowsKey := true }

def readQuestion (lexer : Lexer) : Except Fault Lexer := do
  let lexer ← (← lexer.openAtMark .blockMappingStart).dropCandidate
  .ok { ((lexer.push .key).advance 1) with allowsKey := !lexer.inFlow }

/-- The analysis after a colon. -/
def readColon (lexer : Lexer) : Except Fault Lexer :=
  match lexer.candidates.lookup lexer.flowDepth with
  -- The candidate between the current brackets turns out to be a key, so its mark and the start
  -- of its mapping are put in front of tokens that were read already.
  | some candidate =>
      let candidates := lexer.candidates.filter fun entry => entry.1 ≠ lexer.flowDepth
      let keyed := { lexer with candidates }.insert candidate.position .key
      let (opened, isNew) := if keyed.inFlow then (keyed, false)
        else keyed.openBlock candidate.start.column
      let ready := if isNew then opened.insert candidate.position .blockMappingStart
        else opened
      .ok { ((ready.push .value).advance 1) with allowsKey := false }
  | none => do
      let lexer ← lexer.openAtMark .blockMappingStart
      let lexer ← { lexer with allowsKey := !lexer.inFlow }.dropCandidate
      .ok ((lexer.push .value).advance 1)

def readNode (lexer : Lexer) (token : Token) (cursor : Cursor) (allowsKey : Bool) :
    Except Fault Lexer := do
  let lexer ← lexer.addCandidate
  .ok { (lexer.push token) with cursor, allowsKey }

def readAnchor (token : String → Token) (lexer : Lexer) : Except Fault Lexer := do
  let (name, cursor) ← Token.takeAnchor lexer.cursor
  lexer.readNode (token name) cursor false

def readTag (lexer : Lexer) : Except Fault Lexer := do
  let (token, cursor) ← Token.takeTag lexer.cursor
  lexer.readNode token cursor false

def readQuoted (quote : Char) (lexer : Lexer) : Except Fault Lexer := do
  let (text, cursor) ← Quoted.take quote lexer.cursor
  lexer.readNode (.scalar text false) cursor false

def readBlock (lexer : Lexer) : Except Fault Lexer := do
  let lexer ← lexer.dropCandidate
  let (text, cursor) ← Block.take lexer.floor lexer.cursor
  .ok { (lexer.push (.scalar text false)) with cursor, allowsKey := true }

/-- The analysis after a scalar without quotes. -/
def readPlain (lexer : Lexer) : Except Fault Lexer :=
  let scan := Plain.take lexer.floor lexer.inFlow lexer.cursor
  lexer.readNode (.scalar (String.ofList scan.text) true) scan.cursor scan.allowsKey

/-- The analysis after the token that starts with a character. -/
def readAt (lexer : Lexer) (character : Char) : Except Fault Lexer :=
  let cursor := lexer.cursor
  let isAlone := cursor.rest.tail.head?.all isGap
  if character = '%' ∧ cursor.column = 0 then lexer.readDirective
  else if cursor.column = 0 ∧ cursor.isAtMark '-' then lexer.readDocumentMark .documentStart
  else if cursor.column = 0 ∧ cursor.isAtMark '.' then lexer.readDocumentMark .documentEnd
  else if character = '[' then lexer.openFlow .flowSequenceStart
  else if character = '\x7b' then lexer.openFlow .flowMappingStart
  else if character = ']' then lexer.closeFlow .flowSequenceEnd
  else if character = '\x7d' then lexer.closeFlow .flowMappingEnd
  else if character = ',' then lexer.readComma
  else if character = '-' ∧ isAlone then lexer.readDash
  else if character = '?' ∧ (lexer.inFlow ∨ isAlone) then lexer.readQuestion
  else if character = ':' ∧ (lexer.inFlow ∨ isAlone) then lexer.readColon
  else if character = '*' then lexer.readAnchor .reference
  else if character = '&' then lexer.readAnchor .anchor
  else if character = '!' then lexer.readTag
  else if (character = '|' ∨ character = '>') ∧ !lexer.inFlow then lexer.readBlock
  else if character = '\'' ∨ character = '"' then lexer.readQuoted character
  else if Plain.startsAt lexer.inFlow cursor.rest then lexer.readPlain
  else .error .unreadableYaml

def step (lexer : Lexer) : Except Fault Lexer := do
  let lexer ← lexer.toToken.dropStale
  let lexer := lexer.closeBlocksTo (lexer.cursor.column + 1)
  match lexer.cursor.peek with
  | none => lexer.finish
  | some character => lexer.readAt character

/-- The analysis up to the end of the text or to a fault, which comes along. -/
def run : Nat → Lexer → Lexer × Option Fault
  | 0, lexer => (lexer, none)
  | fuel + 1, lexer =>
      if lexer.isDone then (lexer, none)
      else match lexer.step with
        | .ok lexer => run fuel lexer
        | .error fault => (lexer, some fault)

end Lexer

/-- Tokens, and the fault that comes after them, if the text cannot be read further. -/
structure Tokens where
  list : List Token
  fault : Option Fault
  deriving Inhabited

def Tokens.ofText (characters : List Char) : Tokens :=
  let (lexer, fault) := Lexer.run (characters.length + 2) { cursor := { rest := characters } }
  ⟨lexer.tokens.toList, fault⟩

end Montage.Yaml
