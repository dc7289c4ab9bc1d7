import Montage.Console.Column
import Montage.Console.Log
import Montage.Fonts
import Montage.Probe.Tool

/-!
# Dependencies

What renders need and the library does not bring: the encoder, the probing tool and the
fonts.  Missing ones are reported with a hint at how to get them.
-/

namespace Montage

/-- A dependency, and what is known about it. -/
structure Dependency where
  name : String
  available : Bool
  version : String := ""
  hint : String := ""
  deriving DecidableEq, Repr, Inhabited

namespace Dependency

def installation : String :=
  "Install: sudo apt-get install ffmpeg  (or https://ffmpeg.org/download.html)"

def versionIn (output : String) : String :=
  if output.isEmpty then "unknown" else (Text.split '\n' output).headD ""

/-- A tool that may be installed, and may run when it is asked for its version. -/
def tool (installed : List String) (ask : String → ToolRun) (name : String) :
    Dependency :=
  if name ∉ installed then ⟨name, false, "", installation⟩
  else match ask name with
    | .exited _ output => ⟨name, true, versionIn output, ""⟩
    | _ => ⟨name, false, "", name ++ " found but failed to run"⟩

def tools : List String := ["ffmpeg", "ffprobe"]

def fonts (tree : FileTree) (directory : Path) (text : String) : Dependency :=
  match Fonts.missing tree directory with
  | [] => ⟨"fonts", true, text, ""⟩
  | missing =>
      let names := Text.join ", " (missing.map (·.filename))
      ⟨"fonts", false, "", "missing " ++ names ++ "; run: ffmux fonts"⟩

def all (installed : List String) (ask : String → ToolRun) (tree : FileTree)
    (directory : Path) (text : String) : List Dependency :=
  tools.map (tool installed ask) ++ [fonts tree directory text]

def detail (dependency : Dependency) : String :=
  if dependency.available then dependency.version else dependency.hint

def status (dependency : Dependency) : String :=
  if dependency.available then "[green]ok[/green]" else "[red]missing[/red]"

/-- The details of dependencies as they are printed in a table behind their names. -/
def detailLines (dependencies : List Dependency) :
    Except Console.MarkupError (List (List Console.Styled)) :=
  Console.Column.lastLines
    [("Dependency", dependencies.map (·.name)), ("Status", dependencies.map status)]
    "Details" (dependencies.map detail)

/-- What is said about a dependency.  In a strict report a missing one is an error. -/
def remark (strict : Bool) (dependency : Dependency) : Console.Level × String :=
  let name := dependency.name
  let hint := dependency.hint
  if dependency.available then
    let version := if dependency.version.isEmpty then "OK" else dependency.version
    (.info, "[green]✓[/green] " ++ name ++ ": " ++ version)
  else if strict then (.error, name ++ ": NOT FOUND (" ++ hint ++ ")")
  else (.warning, name ++ ": not found (" ++ hint ++ ")")

def isSatisfied (strict : Bool) (dependencies : List Dependency) : Bool :=
  !strict || dependencies.all (·.available)

end Dependency

end Montage
