import Montage.CommandLine.Files

/-!
# The program

The command line over the real files.  It brings the files that a command reads into a
tree, runs the command, prints what it said, and writes the files that it changed.  It
starts no processes itself: assets are taken with the fallback values of failed probes,
and an encode is reported as not started.
-/

namespace Montage.CommandLine

def variableNames : List String :=
  ["FFMUX_CONFIG", "LOG_LEVEL"] ++ Config.environmentVariables.map (·.1)

def readEnvironment : IO Config.Environment :=
  variableNames.filterMapM fun name => do
    return (← IO.getEnv name).map fun value => (name, value)

def readFile (directory : Path) (tree : FileTree) (path : Path) : IO FileTree := do
  let path := Path.resolve directory path
  try
    let bytes ← IO.FS.readBinFile path.toString
    return tree.write path ((String.fromUTF8? bytes).getD "")
  catch _ => return tree

/-- A tree with a file that is noted in it without its content, if there is one. -/
def noteFile (directory : Path) (tree : FileTree) (path : Path) : IO FileTree := do
  let path := Path.resolve directory path
  try
    let _ ← IO.FS.withFile path.toString .read fun handle => handle.read 1
    return tree.write path ""
  catch _ => return tree

def writeFile (path : Path) (content : String) : IO Unit := do
  IO.FS.createDirAll path.parent.toString
  IO.FS.writeFile path.toString content

partial def readAnswer (stdin : IO.FS.Stream) (lines : List String) :
    IO (List String) := do
  let line ← stdin.getLine
  if line.isEmpty then return lines
  let lines := lines ++ [String.ofList (line.toList.filter (· ≠ '\n'))]
  if (Session.confirmed? lines).isSome then return lines
  readAnswer stdin lines

def readInput (session : Session) : Command → IO (List String)
  | .init => do
      if session.tree.hasEntry (session.locate (Path.ofString Session.configName)) then
        IO.print "config.yaml exists. Overwrite? [y/n] (n): "
        readAnswer (← IO.getStdin) []
      else return []
  | _ => return []

/-- A remark on the console.  Errors have a stream of their own. -/
def printRemark (verbosity : Console.Verbosity) (remark : Remark) : IO Unit :=
  match Console.line verbosity remark.level remark.message with
  | .error reason => IO.eprintln reason.fault.message
  | .ok line => if remark.level = .error then IO.eprint line else IO.print line

def runCommand (command : Command) : IO UInt32 := do
  let directory := Path.ofString (← IO.currentDir).toString
  let environment ← readEnvironment
  let tree := FileTree.empty.addDirectories directory.prefixes
  let tree ← (command.reads environment ++ [Path.ofString Session.configName]).foldlM
    (readFile directory) tree
  let session : Session := {
    tree, directory, environment
    probe := fun _ => .notStarted
    version := fun _ => .notStarted
    encoder := .refused "no processes are started"
    download := fun tree _ => (tree, .error .unreachable) }
  let tree ← (session.assetsOf command).foldlM (noteFile directory) tree
  let session := { session with tree }
  let session := { session with input := ← readInput session command }
  let outcome := session.runCommand command
  for remark in outcome.said do
    printRemark command.verbosity remark
  IO.print outcome.printed
  for (path, content) in changedFiles tree outcome.tree do
    writeFile path content
  return UInt32.ofNat outcome.exitCode

def usageText : String :=
  "Usage: ffmux COMMAND [OPTIONS]\nCommands: serve, check, fonts, init, compile, render\n"

end Montage.CommandLine

open Montage.CommandLine in
def main (arguments : List String) : IO UInt32 := do
  match usage arguments with
  | .run command => runCommand command
  | .help => do
      IO.print usageText
      return 0
  | .misuse => do
      IO.eprint usageText
      return 2
