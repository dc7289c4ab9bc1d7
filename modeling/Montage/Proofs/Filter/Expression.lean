import Montage.Proofs.Numeric.Digits
import Mathlib.Data.Rat.Defs
import Mathlib.Algebra.Field.Rat
import Mathlib.Algebra.Order.Ring.Unbundled.Rat

/-!
# Expressions of filters

How the expressions in the options of filters are read, and what they come to in exact
arithmetic.  The reader keeps what is still open on a stack: a sign, the left side of an operation,
a bracket, or a call with the arguments so far.
-/

namespace Montage.Filter

inductive Operator where
  | plus
  | minus
  | times
  | over
  deriving DecidableEq, Repr

/-- Expressions in the size of the picture that a filter is given. -/
inductive Expression where
  | number (value : Nat)
  | width
  | height
  | opposite (value : Expression)
  | binary (operator : Operator) (first second : Expression)
  | least (first second : Expression)
  | atLeast (first second : Expression)
  | above (first second : Expression)
  | choice (condition met otherwise : Expression)
  deriving DecidableEq, Repr

namespace Expression

section Meaning

def truth (holds : Bool) : ℚ := if holds then 1 else 0

/-- What an operation gives, unless it divides by zero. -/
def operate? : Operator → ℚ → ℚ → Option ℚ
  | .plus, first, second => some (first + second)
  | .minus, first, second => some (first - second)
  | .times, first, second => some (first * second)
  | .over, first, second => if second = 0 then none else some (first / second)

/-- The value of an expression for a picture of some size.  Of a choice only the branch that is
taken needs one. -/
def value? (width height : ℚ) : Expression → Option ℚ
  | .number value => some value
  | .width => some width
  | .height => some height
  | .opposite value => (value.value? width height).map (- ·)
  | .binary operator first second => do
      operate? operator (← first.value? width height) (← second.value? width height)
  | .least first second => do
      some (min (← first.value? width height) (← second.value? width height))
  | .atLeast first second => do
      let bound ← second.value? width height
      some (truth (bound ≤ (← first.value? width height)))
  | .above first second => do
      let bound ← second.value? width height
      some (truth (bound < (← first.value? width height)))
  | .choice condition met otherwise => do
      if (← condition.value? width height) = 0 then otherwise.value? width height
      else met.value? width height

end Meaning

/-- The words of expressions.  A name with a bracket behind it is a call. -/
inductive Token where
  | number (value : Nat)
  | variable (name : List Char)
  | call (name : List Char)
  | operator (operator : Operator)
  | comma
  | opening
  | closing
  | unknown (character : Char)
  deriving DecidableEq, Repr

/-- What the characters so far are the start of. -/
inductive Word where
  | none
  | number (value : Nat)
  | name (letters : List Char)

def tokenOf : Char → Token
  | '+' => .operator .plus
  | '-' => .operator .minus
  | '*' => .operator .times
  | '/' => .operator .over
  | ',' => .comma
  | '(' => .opening
  | ')' => .closing
  | character => .unknown character

def extend (value : Nat) (digit : Char) : Nat :=
  10 * value + (digit.toNat - '0'.toNat)

def start (character : Char) : List Token × Word :=
  if character.isDigit then ([], .number (extend 0 character))
  else if character.isAlpha then ([], .name [character])
  else ([tokenOf character], .none)

/-- A word with a character behind it: what has ended, and the word that is under way. -/
def Word.follow : Word → Char → List Token × Word
  | .none, character => start character
  | .number value, character =>
      if character.isDigit then ([], .number (extend value character))
      else (.number value :: (start character).1, (start character).2)
  | .name letters, character =>
      if character.isAlphanum then ([], .name (letters ++ [character]))
      else if character = '(' then ([.call letters], .none)
      else (.variable letters :: (start character).1, (start character).2)

def Word.tokens : Word → List Token
  | .none => []
  | .number value => [.number value]
  | .name letters => [.variable letters]

def tokensFrom : Word → List Char → List Token
  | word, [] => word.tokens
  | word, character :: rest => (word.follow character).1 ++ tokensFrom (word.follow character).2 rest

/-- What is still open while an expression is read. -/
inductive Open where
  | sign
  | left (first : Expression) (operator : Operator)
  | bracket
  | call (name : List Char) (arguments : List Expression)

def rank : Operator → Nat
  | .plus => 1
  | .minus => 1
  | .times => 2
  | .over => 2

/-- A value after the operations to its left that bind at least so tightly. -/
def settle (least : Nat) : Expression → List Open → Expression × List Open
  | value, .sign :: stack => settle least (.opposite value) stack
  | value, .left first operator :: stack =>
      if least ≤ rank operator then settle least (.binary operator first value) stack
      else (value, .left first operator :: stack)
  | value, stack => (value, stack)

def side? : List Char → Option Expression
  | ['i', 'w'] => some .width
  | ['i', 'h'] => some .height
  | _ => none

def call? : List Char → List Expression → Option Expression
  | ['m', 'i', 'n'], [first, second] => some (.least first second)
  | ['g', 't', 'e'], [first, second] => some (.atLeast first second)
  | ['g', 't'], [first, second] => some (.above first second)
  | ['i', 'f'], [condition, met, otherwise] => some (.choice condition met otherwise)
  | _, _ => none

/-- The expression of tokens, where some is open on a stack and a value may be under way. -/
def parse? : List Open → Option Expression → List Token → Option Expression
  | stack, none, .number value :: rest => parse? stack (some (.number value)) rest
  | stack, none, .variable name :: rest =>
      match side? name with
      | some value => parse? stack (some value) rest
      | none => none
  | stack, none, .call name :: rest => parse? (.call name [] :: stack) none rest
  | stack, none, .opening :: rest => parse? (.bracket :: stack) none rest
  | stack, none, .operator .minus :: rest => parse? (.sign :: stack) none rest
  | stack, some value, .operator operator :: rest =>
      let (first, stack) := settle (rank operator) value stack
      parse? (.left first operator :: stack) none rest
  | stack, some value, .comma :: rest =>
      match settle 0 value stack with
      | (argument, .call name arguments :: stack) =>
          parse? (.call name (arguments ++ [argument]) :: stack) none rest
      | _ => none
  | stack, some value, .closing :: rest =>
      match settle 0 value stack with
      | (inner, .bracket :: stack) => parse? stack (some inner) rest
      | (argument, .call name arguments :: stack) =>
          match call? name (arguments ++ [argument]) with
          | some value => parse? stack (some value) rest
          | none => none
      | _ => none
  | stack, some value, [] =>
      match settle 0 value stack with
      | (whole, []) => some whole
      | _ => none
  | _, _, _ => none

def read? (characters : List Char) : Option Expression :=
  parse? [] none (tokensFrom .none characters)

section Numerals

variable {value : Nat} {digits rest : List Char}

theorem tokensFrom_digits (isDigit : ∀ digit ∈ digits, digit.isDigit = true) :
    tokensFrom (.number value) (digits ++ rest) =
      tokensFrom (.number (Nat.ofDigitChars 10 digits value)) rest := by
  induction digits generalizing value with
  | nil => rfl
  | cons digit digits ih =>
      rw [List.forall_mem_cons] at isDigit
      rw [List.cons_append, tokensFrom, Word.follow, if_pos isDigit.1, Nat.ofDigitChars_cons]
      exact ih isDigit.2

theorem tokensFrom_digitsOf :
    tokensFrom .none (Decimal.digitsOf value ++ rest) = tokensFrom (.number value) rest := by
  have isDigit : ∀ digit ∈ Decimal.digitsOf value, digit.isDigit = true := fun _ member =>
    Nat.isDigit_of_mem_toDigits (by decide) (by decide) member
  have same : Nat.ofDigitChars 10 (Decimal.digitsOf value) 0 = value :=
    Nat.ofDigitChars_ten_toDigits
  have some : Decimal.digitsOf value ≠ [] := Nat.toDigits_ne_nil
  obtain ⟨digit, digits, spelled⟩ := List.exists_cons_of_ne_nil some
  rw [spelled] at isDigit same ⊢
  rw [List.forall_mem_cons] at isDigit
  rw [List.cons_append, tokensFrom, Word.follow, start, if_pos isDigit.1]
  rw [Nat.ofDigitChars_cons] at same
  exact (tokensFrom_digits isDigit.2).trans (by rw [extend, same])

theorem read?_digitsOf (value : Nat) : read? (Decimal.digitsOf value) = some (.number value) := by
  have numeral : tokensFrom .none (Decimal.digitsOf value ++ []) = [.number value] :=
    tokensFrom_digitsOf
  rw [List.append_nil] at numeral
  rw [read?, numeral]
  rfl

end Numerals

end Expression

end Montage.Filter
