import Montage.Console.Literal.Token

/-!
# Literals

Numbers, texts, bytes, constants, and tuples, sets and dictionaries of literals, as they
may be the arguments of a handler.  A literal is checked and not evaluated.
-/

namespace Montage.Console.Literal

/-- What matters of a literal for what may stand around it. -/
inductive Shape where
  /-- A real number, which may have a sign and be too great to be added to others. -/
  | real (isSigned isVast : Bool)
  | imaginary
  | otherNumber
  /-- Another value, which may or may not be an element of a set. -/
  | value (isElement : Bool)
  | setWord
  deriving DecidableEq, Repr, Inhabited

namespace Shape

def ofNumber : NumberKind → Shape
  | .real isVast => .real false isVast
  | .imaginary => .imaginary

/-- Whether a literal may be an element of a set or a key of a dictionary. -/
def isElement : Shape → Bool
  | .value isElement => isElement
  | .setWord => false
  | _ => true

def isComplete : Shape → Bool
  | .setWord => false
  | _ => true

/-- The shape of a literal with a sign in front, which is a number without one. -/
def signed? : Shape → Option Shape
  | .real false isVast => some (.real true isVast)
  | .imaginary => some .otherNumber
  | _ => none

def sum? : Shape → Shape → Option Shape
  | .real _ false, .imaginary => some .otherNumber
  | _, _ => none

end Shape

/-- The levels of the grammar between a literal and the elements in it: the first one, the
second one and all others. -/
structure Nesting where
  first : Nat
  second : Nat
  later : Nat
  deriving DecidableEq, Repr, Inhabited

namespace Nesting

def rest (nesting : Nesting) : Nesting :=
  ⟨nesting.second, nesting.later, nesting.later⟩

def parentheses : Nesting := ⟨28, 30, 31⟩

def braces : Nesting := ⟨29, 30, 30⟩

def outside : Nesting := ⟨2, 4, 4⟩

end Nesting

def tokenLevels : Nat := 23

def textLevels : Nat := 25

def setLevels : Nat := 50

def levelLimit : Nat := 6000

/-- A literal at the start of tokens: its shape, the levels in it, and what follows. -/
structure Reading where
  shape : Shape
  levels : Nat
  rest : List Token
  deriving DecidableEq, Repr, Inhabited

/-- An element in brackets, which is an entry if it has a value after a colon. -/
structure Element where
  shape : Shape
  value : Option Shape
  deriving DecidableEq, Repr, Inhabited

namespace Element

def isOfTuple (element : Element) : Bool :=
  element.value.isNone && element.shape.isComplete

def isOfSet (element : Element) : Bool :=
  element.value.isNone && element.shape.isElement

def isOfDictionary (element : Element) : Bool :=
  element.value.any Shape.isComplete && element.shape.isElement

end Element

/-- Elements at the start of tokens: the levels in them, whether there is one that no comma
follows, and what follows the bracket. -/
structure Elements where
  elements : List Element
  levels : Nat
  isGroup : Bool
  rest : List Token
  deriving DecidableEq, Repr, Inhabited

namespace Elements

/-- The reading of elements in parentheses, which is the element itself where there is one
without a comma. -/
def inParentheses? (inside : Elements) : Option Reading :=
  match inside.elements, inside.isGroup with
  | [⟨shape, none⟩], true => some ⟨shape, inside.levels, inside.rest⟩
  | elements, _ =>
      if elements.all Element.isOfTuple then
        some ⟨.value (elements.all fun element => element.shape.isElement),
          inside.levels, inside.rest⟩
      else none

def inBraces? (inside : Elements) : Option Reading :=
  if inside.elements.all Element.isOfSet || inside.elements.all Element.isOfDictionary then
    some ⟨.value false, inside.levels, inside.rest⟩
  else none

end Elements

def simple? : List Token → Option Reading
  | .number kind :: rest => some ⟨.ofNumber kind, tokenLevels, rest⟩
  | .constant :: rest => some ⟨.value true, tokenLevels, rest⟩
  | .setWord :: rest => some ⟨.setWord, tokenLevels, rest⟩
  | .text isBytes :: rest =>
      match rest.dropWhile (· == .text isBytes) with
      | .text _ :: _ => none
      | beyond => some ⟨.value true, textLevels, beyond⟩
  | _ => none

mutual

def literal? : Nat → List Token → Option Reading
  | 0, _ => none
  | fuel + 1, tokens => do
      let left ← term? fuel tokens
      match left.rest with
      | .sign :: rest =>
          let right ← atom? fuel rest
          let shape ← left.shape.sum? right.shape
          some ⟨shape, max left.levels right.levels, right.rest⟩
      | _ => some left

/-- A literal that is no sum, with or without a sign. -/
def term? : Nat → List Token → Option Reading
  | 0, _ => none
  | fuel + 1, .sign :: rest => do
      let operand ← atom? fuel rest
      let shape ← operand.shape.signed?
      some ⟨shape, operand.levels + 1, operand.rest⟩
  | fuel + 1, tokens => atom? fuel tokens

/-- A literal without a sign, with the parentheses that make a set of the word for it. -/
def atom? : Nat → List Token → Option Reading
  | 0, _ => none
  | fuel + 1, tokens => do
      let found ← match tokens with
        | .opening '(' :: rest =>
            (elements? fuel .parentheses rest).bind Elements.inParentheses?
        | .opening _ :: rest => (elements? fuel .braces rest).bind Elements.inBraces?
        | _ => simple? tokens
      match found.shape, found.rest with
      | .setWord, .opening _ :: .closing ')' :: beyond =>
          some ⟨.value false, max found.levels setLevels, beyond⟩
      | _, .opening _ :: _ => none
      | _, _ => some found

/-- Elements with commas between them up to a closing bracket. -/
def elements? : Nat → Nesting → List Token → Option Elements
  | 0, _, _ => none
  | _ + 1, nesting, .closing _ :: rest =>
      some ⟨[], nesting.first + tokenLevels, false, rest⟩
  | fuel + 1, nesting, tokens => do
      let (element, inside, rest) ← element? fuel tokens
      let levels := nesting.first + inside
      match rest with
      | .comma :: more =>
          let others ← elements? fuel nesting.rest more
          some ⟨element :: others.elements, max levels others.levels, false, others.rest⟩
      | .closing _ :: beyond => some ⟨[element], levels, true, beyond⟩
      | _ => none

def element? : Nat → List Token → Option (Element × Nat × List Token)
  | 0, _ => none
  | fuel + 1, tokens => do
      let first ← literal? fuel tokens
      match first.rest with
      | .colon :: more =>
          let value ← literal? fuel more
          some (⟨first.shape, some value.shape⟩, max first.levels value.levels, value.rest)
      | rest => some (⟨first.shape, none⟩, first.levels, rest)

end

/-- Whether tokens are literals with commas between them up to the end of a line, after
which there are only line ends. -/
def isListing : Nat → Nesting → List Token → Bool
  | 0, _, _ => false
  | fuel + 1, nesting, tokens =>
      match literal? (5 * tokens.length + 5) tokens with
      | none => false
      | some ⟨shape, levels, rest⟩ =>
          shape.isComplete && nesting.first + levels ≤ levelLimit &&
            match rest with
            | .comma :: more =>
                more.all (· == .lineEnd) || isListing fuel nesting.rest more
            | _ => rest.all (· == .lineEnd)

def isSpace (character : Char) : Bool := character = ' ' || character = '\t'

end Literal

def isLiteral (characters : List Char) : Bool :=
  let written := Text.withLineFeeds (characters.dropWhile Literal.isSpace)
  !written.contains '\x00' && (Literal.tokens? written).any fun tokens =>
    Literal.isListing (tokens.length + 1) .outside tokens

end Montage.Console
