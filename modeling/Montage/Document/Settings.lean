import Montage.Config
import Montage.Dependencies
import Montage.Document.Basic

/-!
# Documents of settings

What configurations and dependencies look like to others.
-/

namespace Montage

open Document

/-- A member of a document, with numbers that JSON does not have as texts. -/
def Document.shownMember : String × Json → String × Json
  | (key, .number value) => (key, ofNumber value)
  | member => member

def Config.document (config : Config) : Json :=
  .object (config.toMembers.map fun (name, fields) =>
    (name, match fields with
      | .object members => .object (members.map shownMember)
      | other => other))

def Dependency.document (dependency : Dependency) : Json :=
  .object [
    ("name", .text dependency.name),
    ("available", .boolean dependency.available),
    ("version", .text dependency.version),
    ("hint", .text dependency.hint)]

end Montage
