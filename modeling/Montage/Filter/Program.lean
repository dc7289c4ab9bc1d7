import Montage.Filter.Statement
import Montage.Text.Basic
import Montage.Text.Literal

/-!
# Filter programs

A program is a list of statements in which every label is produced once, before it
is consumed, and consumed at most once.
-/

namespace Montage.Filter

/-- Reasons why a filter graph cannot be built. -/
inductive GraphError where
  | unknownInput (stream : StreamRef)
  | danglingLabel (label : String)
  | consumedTwice (label : String)
  | producedTwice (label : String)
  | neverProduced (labels : List String)
  | neverConsumed (labels : List String)
  | noVideo
  | unknownStyle (name : String)
  deriving DecidableEq, Repr, Inhabited

namespace GraphError

def message : GraphError → String
  | .unknownInput stream =>
      let reference := stream.toString
      s!"statement references unknown input {reference}"
  | .danglingLabel label => s!"dangling label [{label}]"
  | .consumedTwice label => s!"label [{label}] consumed twice"
  | .producedTwice label => s!"label [{label}] produced twice"
  | .neverProduced labels =>
      let listed := Text.literalList labels
      s!"terminal label never produced: {listed}"
  | .neverConsumed labels =>
      let listed := Text.literalList labels
      s!"labels produced but never consumed: {listed}"
  | .noVideo => "no video track"
  | .unknownStyle name => s!"Invalid text style: {name}"

end GraphError

/-- A label-checked list of statements. -/
structure Program where
  statements : List Statement
  inputCount : Int
  produced : List String
  consumed : List String
  deriving DecidableEq, Inhabited

namespace Program

def empty (inputCount : Int) : Program := ⟨[], inputCount, [], []⟩

def consume (program : Program) (pad : Pad) : Except GraphError Program :=
  match pad with
  | .stream stream =>
      if 0 ≤ stream.index ∧ stream.index < program.inputCount then .ok program
      else .error (.unknownInput stream)
  | .label label =>
      if label ∉ program.produced then .error (.danglingLabel label)
      else if label ∈ program.consumed then .error (.consumedTwice label)
      else .ok { program with consumed := program.consumed ++ [label] }

/-- Marks what pads read as consumed, up to the first that cannot be. -/
def consumeAll : Program → List Pad → Program × Option GraphError
  | program, [] => (program, none)
  | program, pad :: rest =>
      match program.consume pad with
      | .ok program => consumeAll program rest
      | .error reason => (program, some reason)

/-- The program after a statement was offered, and why it was refused, if it was. -/
def add (program : Program) (statement : Statement) : Program × Option GraphError :=
  match program.consumeAll statement.inputs with
  -- A refused statement leaves the labels marked that were consumed before the fault.
  | (program, some reason) => (program, some reason)
  | (program, none) =>
      if statement.output ∈ program.produced then
        (program, some (.producedTwice statement.output))
      else
        ({ program with
            statements := program.statements ++ [statement]
            produced := program.produced ++ [statement.output] }, none)

def add? (program : Program) (statement : Statement) : Except GraphError Program :=
  match program.add statement with
  | (program, none) => .ok program
  | (_, some reason) => .error reason

def terminals (video : String) (audio : Option String) : List String :=
  video :: (audio.filter fun label => !label.isEmpty && label != video).toList

def validate (program : Program) (video : String) (audio : Option String) :
    Except GraphError Unit :=
  let terminal := terminals video audio
  let missing := terminal.filter (· ∉ program.produced)
  let dangling := program.produced.filter fun label =>
    label ∉ program.consumed ∧ label ∉ terminal
  if ¬ missing.isEmpty then .error (.neverProduced (Text.sorted missing))
  else if ¬ dangling.isEmpty then .error (.neverConsumed (Text.sorted dangling))
  else .ok ()

def render? (program : Program) : Option String :=
  (program.statements.mapM Statement.render?).map (Text.join ";")

def render (program : Program) : String :=
  Text.join ";" (program.statements.filterMap Statement.render?)

end Program

end Montage.Filter
