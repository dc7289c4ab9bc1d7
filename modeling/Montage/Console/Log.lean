import Montage.Console.Layout
import Montage.Console.Markup
import Montage.Fault

/-!
# Console messages

Messages go to the console as far as its verbosity allows; errors always do.  The
style tags of a message that is printed have to fit together.
-/

namespace Montage.Console

/-- How much a console prints. -/
inductive Verbosity where
  | silent
  | normal
  | verbose
  deriving DecidableEq, Repr, Inhabited

/-- Kinds of messages. -/
inductive Level where
  | info
  | success
  | warning
  | error
  | debug
  deriving DecidableEq, Repr, Inhabited

namespace Verbosity

def ofName? : String → Option Verbosity
  | "silent" => some .silent
  | "normal" => some .normal
  | "verbose" => some .verbose
  | _ => none

def prints (verbosity : Verbosity) : Level → Bool
  | .error => true
  | .debug => verbosity = .verbose
  | _ => verbosity ≠ .silent

end Verbosity

namespace Level

def decorate (level : Level) (message : String) : String :=
  match level with
  | .info => "[info]ℹ " ++ message ++ "[/info]"
  | .success => "[success]✓ " ++ message ++ "[/success]"
  | .warning => "[warning]⚠ " ++ message ++ "[/warning]"
  | .error => "[error]✗ " ++ message ++ "[/error]"
  | .debug => "[dim]  " ++ message ++ "[/dim]"

end Level

/-- The line that a message prints; nothing if its level is not printed. -/
def line (verbosity : Verbosity) (level : Level) (message : String) :
    Except MarkupError String :=
  if verbosity.prints level then
    (Markup.render (level.decorate message)).map (· ++ "\n")
  else .ok ""

def announce (verbosity : Verbosity) (level : Level) (message : String) :
    Except Fault Unit :=
  match line verbosity level message with
  | .ok _ => .ok ()
  | .error reason => .error reason.fault

end Montage.Console
