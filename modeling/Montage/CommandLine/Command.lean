import Montage.CommandLine.Options
import Montage.Numeric.Numeral
import Montage.Path

/-!
# Commands

The commands of the program with their options.
-/

namespace Montage.CommandLine

/-- What the commands that compile a render request have in common. -/
structure Compilation where
  request : Path
  assets : Path := Path.ofString "."
  /-- The directory for the output file, unless the configuration tells it. -/
  output : Option Path := none
  config : Option String := none
  verbose : Bool := false
  deriving Inhabited

inductive Command where
  | serve (host : String) (port : Int) (reload : Bool)
  | check (config : Option String)
  | fonts (config : Option String)
  | init
  | compile (compilation : Compilation)
  | render (compilation : Compilation) (timeout : Binary64)
  deriving Inhabited

/-- What a command line asks for. -/
inductive Usage where
  | run (command : Command)
  | help
  | misuse
  deriving Inhabited

namespace Command

def help : OptionForm := ⟨"help", none, false⟩

def config : OptionForm := ⟨"config", none, true⟩

def compilationForms : List OptionForm :=
  [help, config, ⟨"assets", some 'a', true⟩, ⟨"output", some 'o', true⟩,
    ⟨"verbose", some 'v', false⟩]

/-- The options of a command; none if there is no such command. -/
def forms? : String → Option (List OptionForm)
  | "serve" =>
      some [help, ⟨"host", none, true⟩, ⟨"port", none, true⟩, ⟨"reload", none, false⟩]
  | "check" => some [help, config]
  | "fonts" => some [help, config]
  | "init" => some [help]
  | "compile" => some compilationForms
  | "render" => some (⟨"timeout", none, true⟩ :: compilationForms)
  | _ => none

def compilation (words : Words) (request : String) : Compilation where
  request := Path.ofString request
  assets := Path.ofString ((words.value? "assets").getD ".")
  output := (words.value? "output").map Path.ofString
  config := words.value? "config"
  verbose := words.has "verbose"

/-- The number that an option gives, or a standard one; none if it cannot be read. -/
def numberOf {α : Type} (words : Words) (name : String) (read : List Char → Option α)
    (standard : α) : Option α :=
  match words.value? name with
  | none => some standard
  | some text =>
      -- Digits of other scripts are not taken here, though the readers know them.
      if text.toList.all fun character => character.toNat < 128 then read text.toList
      else none

/-- The command that some words ask for; none if there is no such command, or if its
options or arguments are not what it takes. -/
def ofWords? (name : String) (words : Words) : Option Command :=
  match name, words.arguments with
  | "serve", [] => do
      let port ← numberOf words "port" Numeral.int? 3000
      some (.serve ((words.value? "host").getD "127.0.0.1") port (words.has "reload"))
  | "check", [] => some (.check (words.value? "config"))
  | "fonts", [] => some (.fonts (words.value? "config"))
  | "init", [] => some .init
  | "compile", [request] => some (.compile (compilation words request))
  | "render", [request] => do
      let timeout ← numberOf words "timeout" Numeral.binary64? 0
      some (.render (compilation words request) timeout)
  | _, _ => none

end Command

def usageOf (name : String) (arguments : List String) : Usage :=
  match Command.forms? name with
  | none => .misuse
  | some forms =>
      match readWords forms true arguments with
      | none => .misuse
      | some words =>
          if words.has "help" then .help
          else match Command.ofWords? name words with
            | some command => .run command
            | none => .misuse

/-- What a command line asks for.  An empty one is no proper use. -/
def usage (arguments : List String) : Usage :=
  match readWords [Command.help] false arguments with
  | none => .misuse
  | some words =>
      if words.has "help" then .help
      else match words.arguments with
        | [] => .misuse
        | name :: rest => usageOf name rest

end Montage.CommandLine
