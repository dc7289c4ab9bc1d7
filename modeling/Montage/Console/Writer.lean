import Montage.Console.Log

/-!
# Writers of log files

A writer adds messages to a log file from a severity on.  What it is asked to do with a
message is said by a word: most words are severities, some ask for something else, and an
unknown one stands for information.
-/

namespace Montage.Console

/-- How grave a message is. -/
inductive Severity where
  | debug
  | info
  | warning
  | error
  | critical
  deriving DecidableEq, Repr, Inhabited

namespace Severity

def name : Severity → String
  | .debug => "DEBUG"
  | .info => "INFO"
  | .warning => "WARNING"
  | .error => "ERROR"
  | .critical => "CRITICAL"

def rank : Severity → Nat
  | .debug => 10
  | .info => 20
  | .warning => 30
  | .error => 40
  | .critical => 50

def all : List Severity := [.debug, .info, .warning, .error, .critical]

/-- A letter in upper case.  Beside the ASCII letters, a dotless i has one. -/
def upperLetter (character : Char) : Char :=
  if character = 'ı' then 'I' else character.toUpper

def ofName? (text : String) : Option Severity :=
  let upper := String.ofList (text.toList.map upperLetter)
  all.find? fun severity => severity.name == upper

end Severity

/-- What a writer is asked to do with a message. -/
inductive Wish where
  | write (severity : Severity)
  /-- Write it as an error with a trace of what broke off, which is nothing. -/
  | trace
  | nothing
  /-- Write only from the severity on that it names. -/
  | threshold
  /-- Pass lines on to what it names, or no longer. -/
  | sink (isAdded : Bool)
  /-- Let what it names check lines, or no longer. -/
  | screen (isAdded : Bool)
  | screening
  | passing
  | form
  | restart
  | refused
  | unnamed
  deriving DecidableEq, Repr, Inhabited

namespace Wish

def lookups : List String := [
  "getChild", "findCaller", "__class__", "__eq__", "__ne__", "__lt__", "__le__", "__gt__",
  "__ge__", "__subclasshook__"]

def refusals : List String := [
  "log", "_log", "name", "level", "parent", "propagate", "handlers", "disabled", "manager",
  "root", "filters", "_cache", "makeRecord", "hasHandlers", "getEffectiveLevel",
  "isEnabledFor", "__dict__", "__dir__", "__doc__", "__getstate__", "__hash__",
  "__init_subclass__", "__module__", "__new__", "__reduce__", "__reduce_ex__", "__repr__",
  "__setattr__", "__sizeof__", "__str__", "__weakref__"]

def words : List (String × Wish) := [
  ("debug", .write .debug), ("info", .write .info), ("warning", .write .warning),
  ("warn", .write .warning), ("error", .write .error), ("critical", .write .critical),
  ("fatal", .write .critical), ("exception", .trace), ("setLevel", .threshold),
  ("addHandler", .sink true), ("removeHandler", .sink false), ("addFilter", .screen true),
  ("removeFilter", .screen false), ("filter", .screening), ("handle", .passing),
  ("callHandlers", .unnamed), ("__delattr__", .unnamed), ("__getattribute__", .unnamed),
  ("__format__", .form), ("__init__", .restart)]

def ofWord (word : String) : Wish :=
  if lookups.contains word then .nothing
  else if refusals.contains word then .refused
  else (words.lookup word).getD (.write .info)

end Wish

/-- A writer of a log file. -/
structure Writer where
  least : Nat := 0
  /-- What lines are passed on to besides the file, and what checks them.  Neither can
  take them. -/
  sinks : List String := []
  screens : List String := []
  hasFile : Bool := true
  deriving DecidableEq, Repr, Inhabited

namespace Writer

/-- The names of ranks that writers know, but for the rank of all messages. -/
def rank? (name : String) : Option Nat :=
  match name with
  | "WARN" => some Severity.warning.rank
  | "FATAL" => some Severity.critical.rank
  | _ => (Severity.all.find? fun severity => severity.name == name).map Severity.rank

/-- The list with a name, which stands there only once, or without it. -/
def alter (isAdded : Bool) (name : String) (names : List String) : List String :=
  if !isAdded then names.erase name
  else if names.contains name then names
  else names ++ [name]

def submit (writer : Writer) (severity : Severity) (text : String) :
    Except Fault (Option (Severity × String)) :=
  if severity.rank < writer.least then .ok none
  else if !writer.screens.isEmpty then .error (.wrongType "a text is no check")
  else if !writer.sinks.isEmpty then .error .notARecord
  else .ok (if writer.hasFile then some (severity, text) else none)

def traced (message : String) : String :=
  let gap := if message.toList.getLast? = some '\n' then "" else "\n"
  message ++ gap ++ "NoneType: None"

/-- The writer after a wish about a message, and what is written. -/
def fulfil (writer : Writer) (ambient : Nat) (message : String) :
    Wish → Except Fault (Writer × Option (Severity × String))
  | .write severity => do .ok (writer, ← writer.submit severity message)
  | .trace => do .ok (writer, ← writer.submit .error (traced message))
  | .nothing => .ok (writer, none)
  | .threshold =>
      -- The rank that the environment asks for is that of all messages.
      if message = "NOTSET" then
        .ok ({ writer with least := if writer.hasFile then ambient else 0 }, none)
      else match rank? message with
        | some least => .ok ({ writer with least }, none)
        | none => .error .badValue
  | .sink isAdded =>
      .ok ({ writer with sinks := alter isAdded message writer.sinks }, none)
  | .screen isAdded =>
      .ok ({ writer with screens := alter isAdded message writer.screens }, none)
  | .screening =>
      if writer.screens.isEmpty then .ok (writer, none)
      else .error (.wrongType "a text is no check")
  | .passing =>
      if writer.screens.isEmpty then .error .notARecord
      else .error (.wrongType "a text is no check")
  | .form =>
      if message.isEmpty then .ok (writer, none)
      else .error (.wrongType "an unknown form")
  | .restart => .ok ({ hasFile := false }, none)
  | .refused => .error (.wrongType "no message is taken")
  | .unnamed => .error .notARecord

end Writer

end Montage.Console
