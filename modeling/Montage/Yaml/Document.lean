import Montage.Yaml.Node
import Montage.Yaml.Scalar

/-!
# Documents

What a YAML document stands for.  Every node of it has to have a value, although only what
options can hold is kept of the values.
-/

namespace Montage.Yaml

abbrev Entries := List (Node × Node)

/-- A document: its root, the nodes with anchors, and the number of its tokens. -/
structure Document where
  root : Node
  anchored : List (String × Node)
  size : Nat
  deriving Inhabited

namespace Node

def named (anchor : Option String) (node : Node) : List (String × Node) :=
  anchor.toList.map fun name => (name, node)

mutual

def anchored : Node → List (String × Node)
  | .scalar anchor tag text => named anchor (.scalar anchor tag text)
  | .sequence anchor tag elements =>
      named anchor (.sequence anchor tag elements) ++ anchoredElements elements
  | .mapping anchor tag entries =>
      named anchor (.mapping anchor tag entries) ++ anchoredEntries entries
  | .reference _ => []

def anchoredElements : List Node → List (String × Node)
  | [] => []
  | element :: rest => anchored element ++ anchoredElements rest

def anchoredEntries : Entries → List (String × Node)
  | [] => []
  | (key, value) :: rest => anchored key ++ anchored value ++ anchoredEntries rest

end

def anchor? : Node → Option String
  | .scalar anchor _ _ => anchor
  | .sequence anchor _ _ => anchor
  | .mapping anchor _ _ => anchor
  | .reference _ => none

def tag : Node → Tag
  | .scalar _ tag _ => tag
  | .sequence _ tag _ => tag
  | .mapping _ tag _ => tag
  | .reference _ => .other

end Node

namespace Document

def resolve (document : Document) : Node → Node
  | .reference name => (document.anchored.lookup name).getD .nothing
  | node => node

/-- The text of a node that has a scalar for its value: its own, or that of the value under
the key that stands for a whole mapping.  References are followed so many times. -/
def scalarText (document : Document) : Nat → Node → Except Fault String
  | 0, _ => .error .unreadableYaml
  | fuel + 1, node =>
      match document.resolve node with
      | .scalar _ _ text => .ok text
      | .mapping _ _ entries =>
          match entries.find? fun entry => (document.resolve entry.1).tag == .value with
          | some (_, value) => scalarText document fuel value
          | none => .error .unreadableYaml
      | _ => .error .unreadableYaml

def mappingParts (document : Document) (node : Node) :
    Except Fault (Option String × Entries) :=
  match document.resolve node with
  | .mapping anchor _ entries => .ok (anchor, entries)
  | _ => .error .unreadableYaml

def mergedMappings (document : Document) (value : Node) :
    Except Fault (List (Option String × Entries)) :=
  match document.resolve value with
  | .sequence _ _ elements => elements.mapM document.mappingParts
  | other => (document.mappingParts other).map fun parts => [parts]

/-- The entries of a mapping with those of the mappings that it merges in front, the first
of which go last. -/
def flatten (document : Document) : Nat → List String → Entries → Except Fault Entries
  | 0, _, _ => .ok []
  | fuel + 1, inside, entries => do
      let parts ← entries.mapM fun (key, value) => do
        match document.resolve key with
        | .scalar anchor .value text => .ok ([], [(Node.scalar anchor .str text, value)])
        | other =>
            if other.tag = .merge then
              let merged ← (← document.mergedMappings value).mapM fun (anchor, entries) =>
                -- A mapping inside itself, as anchors tell, has nothing more to merge there.
                if anchor.any inside.contains then
                  .ok (entries.filter fun entry => (document.resolve entry.1).tag != .merge)
                else flatten document fuel (anchor.toList ++ inside) entries
              .ok (merged.reverse.flatten, [])
            else .ok ([], [(key, value)])
      .ok (parts.flatMap (·.1) ++ parts.flatMap (·.2))

def entriesOf (document : Document) (anchor : Option String) (entries : Entries) :
    Except Fault Entries :=
  document.flatten (document.size + 1) anchor.toList entries

/-- Whether the value of a node is a collection. -/
def opens (document : Document) (node : Node) : Except Fault Bool := do
  let target := document.resolve node
  if target.tag.isCollection then .ok true
  else
    let text ← document.scalarText (document.size + 1) target
    -- The value is not kept here, but it has to be one.
    let _ ← Scalar.value target.tag text
    .ok false

/-- A node that the value of a collection is made of, and whether it is a key. -/
structure Part where
  node : Node
  isKey : Bool := false
  deriving Inhabited

def entryParts (entries : Entries) : List Part :=
  entries.flatMap fun (key, value) => [⟨key, true⟩, ⟨value, false⟩]

def pairParts (document : Document) (element : Node) : Except Fault (List Part) :=
  match document.resolve element with
  | .mapping _ _ [(key, value)] => .ok [⟨key, false⟩, ⟨value, false⟩]
  | _ => .error .unreadableYaml

def partsOf (document : Document) (node : Node) : Except Fault (List Part) :=
  match node with
  | .sequence _ .seq elements => .ok (elements.map fun element => ⟨element, false⟩)
  | .sequence _ tag elements =>
      if tag = .omap ∨ tag = .pairs then
        (elements.mapM fun element => document.pairParts element).map List.flatten
      else .error .unreadableYaml
  | .mapping anchor tag entries =>
      if tag = .map ∨ tag = .set then (document.entriesOf anchor entries).map entryParts
      else .error .unreadableYaml
  | _ => .error .unreadableYaml

/-- The collections among parts that were not opened before, in order, and the anchors of
all that were. -/
def openAll (document : Document) (opened : List String) :
    List Part → Except Fault (List String × List Node)
  | [] => .ok (opened, [])
  | part :: rest => do
      let target := document.resolve part.node
      let isCollection ← document.opens target
      if isCollection && part.isKey then .error .unreadableYaml
      else
        -- A collection without an anchor cannot be met twice.
        let isNew := isCollection && !target.anchor?.any opened.contains
        let (opened, more) ← document.openAll (target.anchor?.toList ++ opened) rest
        .ok (opened, if isNew then target :: more else more)

def checkOpened (document : Document) :
    Nat → List String → List Node → Except Fault Unit
  | 0, _, _ => .ok ()
  | _, _, [] => .ok ()
  | fuel + 1, opened, node :: queue => do
      let parts ← document.partsOf node
      let (opened, more) ← document.openAll opened parts
      checkOpened document fuel opened (queue ++ more)

def check (document : Document) : Except Fault Unit := do
  let (opened, more) ← document.openAll [] [⟨document.root, false⟩]
  document.checkOpened ((document.size + 1) * (document.size + 1)) opened more

def scalarValue (document : Document) (node : Node) : Json :=
  ((document.scalarText (document.size + 1) node).bind (Scalar.value node.tag)).toOption.getD .null

/-- The members that entries with values come to.  Of equal keys the last counts, and
entries whose keys are not texts are left out. -/
def membersOf (entries : List (Option String × Json)) : List (String × Json) :=
  entries.foldl (fun members entry =>
    match entry with
    | (some key, value) => Json.setMember members key value
    | (none, _) => members) []

def keyText? (document : Document) (key : Node) : Option String :=
  let target := document.resolve key
  if target.tag.isCollection then none
  else match document.scalarValue target with
    | .text text => some text
    | _ => none

/-- The value of a node down to so many levels of collections. -/
def value (document : Document) : Nat → Node → Json
  | 0, node =>
      let target := document.resolve node
      if target.tag.isCollection then .array [] else document.scalarValue target
  | depth + 1, node =>
      match document.resolve node with
      | .sequence anchor tag elements =>
          if tag.isCollection then .array (elements.map (value document depth))
          else document.scalarValue (.sequence anchor tag elements)
      | .mapping anchor tag entries =>
          let flat := (document.entriesOf anchor entries).toOption.getD []
          if tag = .map then
            .object (membersOf (flat.map fun (key, content) =>
              (document.keyText? key, value document depth content)))
          else if tag.isCollection then .array (flat.map fun (key, _) => value document depth key)
          else document.scalarValue (.mapping anchor tag entries)
      | other => document.scalarValue other

def optionDepth : Nat := 3

/-- The members of a document that is a mapping from texts.  A document of no value has
none. -/
def members (document : Document) : Except Fault (List (String × Json)) :=
  let noMapping : Except Fault (List (String × Json)) :=
    .error (.wrongType "a document that is no mapping from texts")
  match document.resolve document.root, document.value optionDepth document.root with
  | .mapping anchor .map entries, .object members => do
      let flat ← document.entriesOf anchor entries
      if flat.all fun entry => (document.keyText? entry.1).isSome then .ok members else noMapping
  | _, value => if value.isAbsent then .ok [] else noMapping

end Document

def isPrintable (character : Char) : Bool :=
  let point := character.toNat
  point == 9 || point == 10 || point == 13 || (32 ≤ point && point ≤ 126) ||
    point == 133 || (160 ≤ point && point ≠ 65534 && point ≠ 65535)

/-- The document that a text holds; none if there is nothing in it. -/
def read (text : String) : Except Fault (Option Document) :=
  let characters := Text.withLineFeeds text.toList
  if ¬ characters.all isPrintable then .error .unreadableYaml
  else do
    let tokens := Tokens.ofText characters
    let root? ← Node.Composer.document { tokens := tokens.list, fault := tokens.fault }
    match root? with
    | none => .ok none
    | some root =>
        let document : Document := ⟨root, root.anchored, tokens.list.length⟩
        document.check
        .ok (some document)

def readMembers (text : String) : Except Fault (List (String × Json)) := do
  match ← read text with
  | none => .ok []
  | some document => document.members

end Montage.Yaml
