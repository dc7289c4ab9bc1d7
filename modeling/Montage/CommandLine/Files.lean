import Montage.CommandLine.Session

/-!
# Files of a session

Which files a command reads, so that they can be brought into its tree before it runs,
and which ones it has changed afterwards.
-/

namespace Montage.CommandLine

def Command.named : Command → List Path × Option String
  | .serve _ _ _ => ([], none)
  | .check config => ([], config)
  | .fonts config => ([], config)
  | .init => ([], none)
  | .compile compilation => ([compilation.request], compilation.config)
  | .render compilation _ => ([compilation.request], compilation.config)

/-- The files that a command may read before it knows its assets. -/
def Command.reads (environment : Config.Environment) (command : Command) : List Path :=
  let (requests, config) := command.named
  let configs := match config with
    | some name => [name]
    | none => (environment.lookup "FFMUX_CONFIG").toList ++ Config.fileNames
  requests ++ (configs.filter fun name => !name.isEmpty).map Path.ofString

def assetFiles (assets : Path) (spec : RenderSpec) : List Path :=
  spec.timeline.filterMap fun item => item.filename?.map assets.child

def Session.assetsOf (session : Session) : Command → List Path
  | .compile compilation => wanted compilation
  | .render compilation _ => wanted compilation
  | _ => []
where
  wanted (compilation : Compilation) : List Path :=
    match session.specification compilation.request with
    | .ok spec => assetFiles compilation.assets spec
    | .error _ => []

def changedFiles (before after : FileTree) : List (Path × String) :=
  after.files.filter fun (path, content) => before.content? path ≠ some content

def Command.verbosity : Command → Console.Verbosity
  | .compile compilation => if compilation.verbose then .verbose else .silent
  | .render compilation _ => if compilation.verbose then .verbose else .normal
  | _ => .normal

end Montage.CommandLine
