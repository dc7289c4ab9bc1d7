import Montage.Text.Basic

/-!
# Options

How the words after a command are told apart: options with their values, flags, and
arguments.  An option that is given twice has its last value.
-/

namespace Montage.CommandLine

/-- An option with its long name and, if it has one, its letter. -/
structure OptionForm where
  name : String
  letter : Option Char := none
  takesValue : Bool := true
  deriving DecidableEq, Repr, Inhabited

/-- The words of a command line, told apart. -/
structure Words where
  /-- Options in the order in which they were given.  A flag has an empty value. -/
  options : List (String × String) := []
  arguments : List String := []
  deriving DecidableEq, Repr, Inhabited

namespace Words

def value? (words : Words) (name : String) : Option String :=
  words.options.reverse.lookup name

def has (words : Words) (name : String) : Bool :=
  (words.value? name).isSome

def addOption (name value : String) (words : Words) : Words :=
  { words with options := (name, value) :: words.options }

def addArgument (argument : String) (words : Words) : Words :=
  { words with arguments := argument :: words.arguments }

end Words

/-- What a word says about options. -/
inductive WordKind where
  /-- Options, and maybe the start of the value of the last one; `open` if that value
  is still to come. -/
  | options (given : List (String × String)) (pending : Option String)
  | argument
  | separator
  | invalid
  deriving DecidableEq, Repr, Inhabited

/-- The options that the letters of a word stand for. -/
def readLetters (forms : List OptionForm) : List Char → WordKind
  | [] => .options [] none
  | letter :: rest =>
      match forms.find? (·.letter == some letter) with
      | none => .invalid
      | some form =>
          -- The letters after one that takes a value are that value.
          if form.takesValue then
            if rest.isEmpty then .options [] (some form.name)
            else .options [(form.name, String.ofList rest)] none
          else match readLetters forms rest with
            | .options given pending => .options ((form.name, "") :: given) pending
            | other => other

def readLong (forms : List OptionForm) (name : String) (value : Option String) :
    WordKind :=
  match forms.find? (·.name == name), value with
  | none, _ => .invalid
  | some form, some value =>
      if form.takesValue then .options [(name, value)] none else .invalid
  | some form, none =>
      if form.takesValue then .options [] (some name) else .options [(name, "")] none

def readWord (forms : List OptionForm) (word : String) : WordKind :=
  match word.toList with
  | ['-', '-'] => .separator
  | '-' :: '-' :: name =>
      let (name, value) := name.span (· ≠ '=')
      readLong forms (String.ofList name) (value.tail?.map String.ofList)
  | ['-'] => .argument
  | '-' :: letters => readLetters forms letters
  | _ => .argument

/-- The words of a command line, told apart; none if they cannot be. -/
def readWords (forms : List OptionForm) (interspersed : Bool) :
    List String → Option Words
  | [] => some {}
  | word :: rest =>
      match readWord forms word with
      | .invalid => none
      | .separator => some { arguments := rest }
      | .argument =>
          -- Unless options may follow arguments, the first argument ends the options.
          if interspersed then (readWords forms interspersed rest).map (.addArgument word)
          else some { arguments := word :: rest }
      | .options given none =>
          (readWords forms interspersed rest).map fun words =>
            given.foldr (fun (name, value) words => words.addOption name value) words
      | .options given (some name) =>
          match rest with
          | [] => none
          | value :: rest =>
              (readWords forms interspersed rest).map fun words =>
                given.foldr (fun (name, value) words => words.addOption name value)
                  (words.addOption name value)

end Montage.CommandLine
