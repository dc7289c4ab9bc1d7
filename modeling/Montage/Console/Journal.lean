import Montage.Console.Writer

/-!
# Log files

Every message goes to a log file, whether or not the console prints it.  Messages of the
application and those of renders have files of their own, and each line names the
request and the job it belongs to.
-/

namespace Montage.Console

def Level.severity : Level → Severity
  | .info => .info
  | .success => .info
  | .warning => .warning
  | .error => .error
  | .debug => .debug

/-- The severity from which on the system log shows messages: what the environment
asks for, or else what the verbosity does. -/
def Verbosity.threshold (verbosity : Verbosity) (wish : Option String) : Severity :=
  ((wish.bind Severity.ofName?).getD (match verbosity with
    | .silent => .error
    | .normal => .info
    | .verbose => .debug))

/-- What messages belong to.  A part that is empty is unknown. -/
structure Context where
  request : String := ""
  job : String := ""
  deriving DecidableEq, Repr, Inhabited

namespace Context

def mark (context : Context) : String :=
  let request := if context.request.isEmpty then [] else ["req=" ++ context.request]
  let job := if context.job.isEmpty then [] else ["job=" ++ context.job]
  match request ++ job with
  | [] => ""
  | parts => "[" ++ Text.join " " parts ++ "] "

end Context

inductive LogFile where
  | application
  | render
  deriving DecidableEq, Repr, Inhabited

namespace LogFile

def filename : LogFile → String
  | .application => "app.log"
  | .render => "render.log"

def writer : LogFile → String
  | .application => "ffmux.app"
  | .render => "ffmux.render"

/-- A line of a log file. -/
def line (file : LogFile) (severity : Severity) (context : Context)
    (message : String) : String :=
  -- The mark of the context stands in front of the message twice.
  let mark := context.mark
  Text.padRight 8 severity.name ++ " " ++ Text.padRight 14 file.writer ++ " " ++ mark ++
    mark ++ message ++ "\n"

end LogFile

/-- The log files while they are written to, and what new messages belong to. -/
structure Journal where
  verbosity : Verbosity
  opened : Bool
  /-- The rank of all messages that no writer judges by a rank of its own. -/
  ambient : Nat := 0
  renderWriter : Writer := {}
  context : Context := {}
  invented : Nat := 0
  application : String := ""
  render : String := ""
  deriving Inhabited

namespace Journal

def start (verbosity : Verbosity) (opened : Bool) (wish : Option String) : Journal :=
  { verbosity, opened, ambient := (verbosity.threshold wish).rank }

def add (journal : Journal) (file : LogFile) (severity : Severity)
    (message : String) : Journal :=
  if !journal.opened then journal
  else
    let line := file.line severity journal.context message
    match file with
    | .application => { journal with application := journal.application ++ line }
    | .render => { journal with render := journal.render ++ line }

def inventedRequest (number : Nat) : String := "rid-" ++ Decimal.ofInt number

def enterRequest (journal : Journal) (id : String) : Journal × String :=
  if id.isEmpty then
    let number := journal.invented + 1
    let id := inventedRequest number
    ({ journal with invented := number, context := { journal.context with request := id } },
      id)
  else ({ journal with context := { journal.context with request := id } }, id)

def enterJob (journal : Journal) (id : String) : Journal :=
  { journal with context := { journal.context with job := id } }

/-- The journal after a message, and what the console prints.  A message that the
console cannot print is not written either. -/
def say (journal : Journal) (level : Level) (message : String) :
    Except Fault (Journal × String) :=
  match line journal.verbosity level message with
  | .ok printed => .ok (journal.add .application level.severity message, printed)
  | .error reason => .error reason.fault

def tell (journal : Journal) (word message : String) : Except Fault Journal :=
  (journal.renderWriter.fulfil journal.ambient message (.ofWord word)).map
    fun (renderWriter, written) =>
      let journal := { journal with renderWriter }
      match written with
      | some (severity, text) => journal.add .render severity text
      | none => journal

def files (journal : Journal) : List (String × String) :=
  let reread (content : String) : String :=
    String.ofList (Text.withLineFeeds content.toList)
  if journal.opened then
    [(LogFile.application.filename, reread journal.application),
      (LogFile.render.filename, reread journal.render)]
  else []

end Journal

end Montage.Console
