import Montage.Numeric.Decimal
import Montage.Text.Basic

/-!
# Issues of wire documents

A wire document is checked field by field, and all issues are reported together, in
the order of the fields.
-/

namespace Montage.Wire

/-- A step from a document to one of its parts. -/
inductive Step where
  | key (name : String)
  | index (position : Nat)
  deriving DecidableEq, Repr, Inhabited

namespace Step

def toString : Step → String
  | .key name => name
  | .index position => Decimal.ofInt position

end Step

/-- What is wrong with a part of a document, and the way to that part. -/
structure Issue where
  location : List Step
  message : String
  deriving DecidableEq, Repr, Inhabited

namespace Issue

/-- The text of an issue.  An issue of the whole document has no location. -/
def toString (issue : Issue) : String :=
  let location := Text.join "." (issue.location.map Step.toString)
  if location.isEmpty then issue.message else s!"{location}: {issue.message}"

def listing (issues : List Issue) : String :=
  Text.join "; " (issues.map toString)

end Issue

/-- A value, or all issues that keep a document from having one. -/
inductive Checked (α : Type) where
  | valid (value : α)
  | refused (issues : List Issue)
  deriving Inhabited

namespace Checked

def refuse {α : Type} (message : String) : Checked α :=
  .refused [⟨[], message⟩]

def map {α β : Type} (function : α → β) : Checked α → Checked β
  | .valid value => .valid (function value)
  | .refused issues => .refused issues

def bind {α β : Type} (checked : Checked α) (further : α → Checked β) : Checked β :=
  match checked with
  | .valid value => further value
  | .refused issues => .refused issues

instance : Monad Checked where
  pure := .valid
  bind := bind

def within {α : Type} (step : Step) : Checked α → Checked α
  | .valid value => .valid value
  | .refused issues => .refused
      (issues.map fun issue => { issue with location := step :: issue.location })

def apply {α β : Type} : Checked (α → β) → Checked α → Checked β
  | .valid function, .valid argument => .valid (function argument)
  | .valid _, .refused issues => .refused issues
  | .refused issues, .valid _ => .refused issues
  | .refused issues, .refused more => .refused (issues ++ more)

def all {α : Type} : List (Checked α) → Checked (List α)
  | [] => .valid []
  | first :: rest => (first.map List.cons).apply (all rest)

end Checked

end Montage.Wire
