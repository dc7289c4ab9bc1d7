import Montage.Console.Literal.Written

/-!
# The tokens of a literal

The marks, numbers, texts and words that a literal is written with.  Blanks, remarks and
empty lines are between tokens, and lines end only outside brackets.
-/

namespace Montage.Console.Literal

/-- A piece of a literal. -/
inductive Token where
  | opening (bracket : Char)
  | closing (bracket : Char)
  | comma
  | colon
  | sign
  | number (kind : NumberKind)
  | text (isBytes : Bool)
  | constant
  /-- The word that makes an empty set when parentheses follow. -/
  | setWord
  | lineEnd
  deriving DecidableEq, Repr, Inhabited

def constants : List String := ["None", "True", "False"]

/-- The code points of the letters of a word in compatible forms, the letter itself first:
superscript and subscript, full width, and mathematical letters. -/
def setLetters : List (List Nat) := [
  [115, 383, 738, 8347, 65363, 119852, 119904, 119956, 120008, 120060, 120112, 120164,
    120216, 120268, 120320, 120372, 120424, 120476],
  [101, 7497, 8337, 8495, 8519, 65349, 119838, 119890, 119942, 120046, 120098, 120150,
    120202, 120254, 120306, 120358, 120410, 120462],
  [116, 7511, 8348, 65364, 119853, 119905, 119957, 120009, 120061, 120113, 120165,
    120217, 120269, 120321, 120373, 120425, 120477]]

def isSetWord (word : List Char) : Bool :=
  word.length == setLetters.length &&
    (word.zip setLetters).all fun (letter, forms) => forms.contains letter.toNat

def isWordPart (character : Char) : Bool :=
  character.isAlphanum || character == '_' || 127 < character.toNat

def takeWord? (characters : List Char) : Option (Token × List Char) :=
  let word := characters.takeWhile isWordPart
  let beyond := characters.dropWhile isWordPart
  if constants.contains (String.ofList word) then some (.constant, beyond)
  else if isSetWord word then some (.setWord, beyond)
  else none

/-- A token other than a bracket and a line end at the start of characters. -/
def takeToken? (characters : List Char) : Option (Token × List Char) :=
  match characters with
  | ',' :: beyond => some (.comma, beyond)
  | ':' :: beyond => some (.colon, beyond)
  | '+' :: beyond => some (.sign, beyond)
  | '-' :: beyond => some (.sign, beyond)
  | '.' :: '.' :: '.' :: beyond => some (.constant, beyond)
  | _ =>
      match takeText? characters with
      | some (isBytes, beyond) => some (.text isBytes, beyond)
      | none =>
          match takeNumber? characters with
          -- A number that runs into a word is neither.
          | some (kind, beyond) =>
              if beyond.head?.any isWordPart then none else some (.number kind, beyond)
          | none => takeWord? characters

def isGap (character : Char) : Bool :=
  character = ' ' || character = '\t' || character = '\x0C'

/-- The indentation at the start of a line and what follows it. -/
def indentation? : Nat → Nat → List Char → Option (Nat × List Char)
  | first, column, ' ' :: rest => indentation? first (column + 1) rest
  | first, column, '\t' :: rest => indentation? first ((column / 8 + 1) * 8) rest
  -- A form feed starts again.
  | first, _, '\x0C' :: rest => indentation? first 0 rest
  -- Where the line is joined to others the first indentation counts.
  | first, column, '\\' :: '\n' :: next :: rest =>
      indentation? (if first = 0 then column else first) column (next :: rest)
  | first, column, characters =>
      if characters.head? = some '\\' then none
      else some (if first = 0 then column else first, characters)

def depthLimit : Nat := 200

def closingOf (bracket : Char) : Char := if bracket = '(' then ')' else '\x7d'

/-- The tokens of characters within brackets that are closed by those given, innermost
first.  A line starts at the characters if `isStart`, and ends in a token unless
`isBlank`. -/
def tokensFrom? : Nat → List Char → Bool → Bool → List Char → Option (List Token)
  | 0, _, _, _, _ => none
  | fuel + 1, closers, true, _, characters => do
      let (column, rest) ← indentation? 0 0 characters
      let isBlank := rest.head?.any fun next => next = '#' || next = '\n'
      -- Indentation means nothing on blank lines and inside brackets.
      if column ≠ 0 ∧ !isBlank ∧ closers.isEmpty then none
      else tokensFrom? fuel closers false isBlank rest
  | _ + 1, closers, false, _, [] => if closers.isEmpty then some [] else none
  | fuel + 1, closers, false, isBlank, character :: rest =>
      if isGap character then tokensFrom? fuel closers false isBlank rest
      else if character = '#' then
        tokensFrom? fuel closers false isBlank (rest.dropWhile (· != '\n'))
      else if character = '\n' then
        let beyond := tokensFrom? fuel closers true false rest
        if isBlank || !closers.isEmpty then beyond else beyond.map (.lineEnd :: ·)
      else if character = '\\' then
        match rest with
        | '\n' :: next :: beyond => tokensFrom? fuel closers false isBlank (next :: beyond)
        | _ => none
      else if character = '(' ∨ character = '\x7b' then
        if closers.length < depthLimit then
          (tokensFrom? fuel (closingOf character :: closers) false isBlank rest).map
            (.opening character :: ·)
        else none
      else if character = ')' ∨ character = '\x7d' then
        if closers.head? = some character then
          (tokensFrom? fuel closers.tail false isBlank rest).map (.closing character :: ·)
        else none
      else do
        let (token, beyond) ← takeToken? (character :: rest)
        let tokens ← tokensFrom? fuel closers false isBlank beyond
        some (token :: tokens)

def tokens? (characters : List Char) : Option (List Token) :=
  tokensFrom? (2 * characters.length + 2) [] true false characters

end Montage.Console.Literal
