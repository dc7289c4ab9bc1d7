import Montage.Yaml.Lexer
import Montage.Yaml.Tag

/-!
# Nodes

The nodes of a document as its tokens compose them.  A node may have an anchor, and other
places may refer to it, even from inside it.
-/

namespace Montage.Yaml

/-- Nodes of a document.  Those with an anchor can be referred to. -/
inductive Node where
  | scalar (anchor : Option String) (tag : Tag) (text : String)
  | sequence (anchor : Option String) (tag : Tag) (elements : List Node)
  | mapping (anchor : Option String) (tag : Tag) (entries : List (Node × Node))
  | reference (anchor : String)
  deriving Inhabited

namespace Node

def nothing : Node := .scalar none .null ""

/-- The greatest number of collections that may be inside each other. -/
def depthLimit : Nat := 485

/-- The composition of nodes while it goes on. -/
structure Composer where
  tokens : List Token
  fault : Option Fault
  handles : List (String × String) := standardHandles
  anchors : List String := []
  deriving Inhabited

namespace Composer

def next (composer : Composer) : Composer :=
  { composer with tokens := composer.tokens.tail }

def peek (composer : Composer) : Except Fault Token :=
  match composer.tokens with
  | token :: _ => .ok token
  | [] => .error (composer.fault.getD .unreadableYaml)

def expect (composer : Composer) (token : Token) : Except Fault Composer := do
  if (← composer.peek) = token then .ok composer.next else .error .unreadableYaml

/-- The properties of a node: its anchor and its tag. -/
structure Properties where
  anchor : Option String := none
  tag : Option String := none
  deriving DecidableEq, Repr, Inhabited

def Properties.isAny (properties : Properties) : Bool :=
  properties.anchor.isSome || properties.tag.isSome

def tagName (composer : Composer) : Option String → String → Except Fault String
  | none, suffix => .ok suffix
  | some handle, suffix =>
      match composer.handles.lookup handle with
      | some start => .ok (start ++ suffix)
      | none => .error .unreadableYaml

/-- The properties that come next: an anchor and a tag in any order. -/
def properties (composer : Composer) : Except Fault (Properties × Composer) := do
  match ← composer.peek with
  | .anchor name =>
      match ← composer.next.peek with
      | .tag handle suffix =>
          let tag ← composer.tagName handle suffix
          .ok (⟨some name, some tag⟩, composer.next.next)
      | _ => .ok (⟨some name, none⟩, composer.next)
  | .tag handle suffix =>
      let tag ← composer.tagName handle suffix
      match ← composer.next.peek with
      | .anchor name => .ok (⟨some name, some tag⟩, composer.next.next)
      | _ => .ok (⟨none, some tag⟩, composer.next)
  | _ => .ok ({}, composer)

def declare (composer : Composer) (anchor : Option String) : Except Fault Composer :=
  match anchor with
  | none => .ok composer
  | some name =>
      if composer.anchors.contains name then .error .unreadableYaml
      else .ok { composer with anchors := name :: composer.anchors }

def Properties.givenTag? (properties : Properties) : Option Tag :=
  (properties.tag.filter (· ≠ "!")).map Tag.ofName

/-- A scalar with properties. -/
def scalarNode (properties : Properties) (text : String) (isPlain : Bool) : Node :=
  let tag := match properties.givenTag? with
    | some tag => tag
    -- Without a tag, a scalar in quotes is a text.
    | none => if isPlain || properties.tag.isSome then Tag.ofPlain text else .str
  .scalar properties.anchor tag text

def sequenceNode (properties : Properties) (elements : List Node) : Node :=
  .sequence properties.anchor (properties.givenTag?.getD .seq) elements

def mappingNode (properties : Properties) (entries : List (Node × Node)) : Node :=
  .mapping properties.anchor (properties.givenTag?.getD .map) entries

/-- The node where only properties stand, of which there have to be any. -/
def missing (properties : Properties) (composer : Composer) : Except Fault (Node × Composer) :=
  if properties.isAny then .ok (scalarNode properties "" true, composer)
  else .error .unreadableYaml

/-- Which collections in blocks may come next besides those between brackets. -/
inductive Place where
  | flow
  | block
  /-- Elements of a sequence may come without further indentation. -/
  | value
  deriving DecidableEq, Repr, Inhabited

mutual

/-- The node that comes next at a place, inside so many collections. -/
def node : Nat → Nat → Place → Composer → Except Fault (Node × Composer)
  | 0, _, _, _ => .error .unreadableYaml
  | fuel + 1, depth, place, composer => do
      match ← composer.peek with
      | .reference anchor =>
          if composer.anchors.contains anchor then .ok (.reference anchor, composer.next)
          else .error .unreadableYaml
      | _ =>
          let (properties, start) ← composer.properties
          let declared ← start.declare properties.anchor
          let token ← declared.peek
          if depthLimit ≤ depth then .error .tooDeep
          else match token, place with
            | .blockEntry, .value => do
                let (elements, behind) ← looseElements fuel (depth + 1) declared
                .ok (sequenceNode properties elements, behind)
            | .scalar text isPlain, _ =>
                .ok (scalarNode properties text isPlain, declared.next)
            | .flowSequenceStart, _ => do
                let (elements, behind) ← flowElements fuel (depth + 1) true declared.next
                .ok (sequenceNode properties elements, behind)
            | .flowMappingStart, _ => do
                let (entries, behind) ← flowEntries fuel (depth + 1) true declared.next
                .ok (mappingNode properties entries, behind)
            | .blockSequenceStart, .flow => missing properties declared
            | .blockMappingStart, .flow => missing properties declared
            | .blockSequenceStart, _ => do
                let (elements, behind) ← blockElements fuel (depth + 1) declared.next
                .ok (sequenceNode properties elements, behind)
            | .blockMappingStart, _ => do
                let (entries, behind) ← blockEntries fuel (depth + 1) declared.next
                .ok (mappingNode properties entries, behind)
            | _, _ => missing properties declared

def blockElements : Nat → Nat → Composer → Except Fault (List Node × Composer)
  | 0, _, _ => .error .unreadableYaml
  | fuel + 1, depth, composer => do
      match ← composer.peek with
      | .blockEntry =>
          let (element, behind) ← match ← composer.next.peek with
            | .blockEntry => .ok (nothing, composer.next)
            | .blockEnd => .ok (nothing, composer.next)
            | _ => node fuel depth .block composer.next
          let (elements, behind) ← blockElements fuel depth behind
          .ok (element :: elements, behind)
      | .blockEnd => .ok ([], composer.next)
      | _ => .error .unreadableYaml

/-- The elements of a sequence that is not indented further than its key. -/
def looseElements : Nat → Nat → Composer → Except Fault (List Node × Composer)
  | 0, _, _ => .error .unreadableYaml
  | fuel + 1, depth, composer => do
      match ← composer.peek with
      | .blockEntry =>
          let (element, behind) ← match ← composer.next.peek with
            | .blockEntry => .ok (nothing, composer.next)
            | .key => .ok (nothing, composer.next)
            | .value => .ok (nothing, composer.next)
            | .blockEnd => .ok (nothing, composer.next)
            | _ => node fuel depth .block composer.next
          let (elements, behind) ← looseElements fuel depth behind
          .ok (element :: elements, behind)
      | _ => .ok ([], composer)

def blockEntries : Nat → Nat → Composer → Except Fault (List (Node × Node) × Composer)
  | 0, _, _ => .error .unreadableYaml
  | fuel + 1, depth, composer => do
      match ← composer.peek with
      | .key =>
          let (key, behind) ← blockPart fuel depth composer.next
          let (value, behind) ← match ← behind.peek with
            | .value => blockPart fuel depth behind.next
            | _ => .ok (nothing, behind)
          let (entries, behind) ← blockEntries fuel depth behind
          .ok ((key, value) :: entries, behind)
      | .blockEnd => .ok ([], composer.next)
      | _ => .error .unreadableYaml

def blockPart : Nat → Nat → Composer → Except Fault (Node × Composer)
  | 0, _, _ => .error .unreadableYaml
  | fuel + 1, depth, composer => do
      match ← composer.peek with
      | .key => .ok (nothing, composer)
      | .value => .ok (nothing, composer)
      | .blockEnd => .ok (nothing, composer)
      | _ => node fuel depth .value composer

/-- The elements of a sequence between brackets up to its end. -/
def flowElements : Nat → Nat → Bool → Composer → Except Fault (List Node × Composer)
  | 0, _, _, _ => .error .unreadableYaml
  | fuel + 1, depth, isFirst, composer => do
      if (← composer.peek) = .flowSequenceEnd then .ok ([], composer.next)
      else
        let start ← if isFirst then .ok composer else composer.expect .flowEntry
        match ← start.peek with
        -- A comma may stand behind the last element.
        | .flowSequenceEnd => .ok ([], start.next)
        | .key =>
            if depthLimit ≤ depth then .error .tooDeep
            else
              let (key, behind) ← flowPart fuel (depth + 1) .flowSequenceEnd start.next
              let (value, behind) ← flowValue fuel (depth + 1) .flowSequenceEnd behind
              let (elements, behind) ← flowElements fuel depth false behind
              -- A pair in a sequence is a mapping of its own.
              .ok (.mapping none .map [(key, value)] :: elements, behind)
        | _ =>
            let (element, behind) ← node fuel depth .flow start
            let (elements, behind) ← flowElements fuel depth false behind
            .ok (element :: elements, behind)

/-- The entries of a mapping between brackets up to its end. -/
def flowEntries : Nat → Nat → Bool → Composer → Except Fault (List (Node × Node) × Composer)
  | 0, _, _, _ => .error .unreadableYaml
  | fuel + 1, depth, isFirst, composer => do
      if (← composer.peek) = .flowMappingEnd then .ok ([], composer.next)
      else
        let start ← if isFirst then .ok composer else composer.expect .flowEntry
        match ← start.peek with
        | .flowMappingEnd => .ok ([], start.next)
        | .key =>
            let (key, behind) ← flowPart fuel depth .flowMappingEnd start.next
            let (value, behind) ← flowValue fuel depth .flowMappingEnd behind
            let (entries, behind) ← flowEntries fuel depth false behind
            .ok ((key, value) :: entries, behind)
        | _ =>
            let (key, behind) ← node fuel depth .flow start
            let (entries, behind) ← flowEntries fuel depth false behind
            .ok ((key, nothing) :: entries, behind)

def flowPart : Nat → Nat → Token → Composer → Except Fault (Node × Composer)
  | 0, _, _, _ => .error .unreadableYaml
  | fuel + 1, depth, closing, composer => do
      let token ← composer.peek
      if token = .value ∨ token = .flowEntry ∨ token = closing then .ok (nothing, composer)
      else node fuel depth .flow composer

/-- The value behind a key between brackets that a token ends. -/
def flowValue : Nat → Nat → Token → Composer → Except Fault (Node × Composer)
  | 0, _, _, _ => .error .unreadableYaml
  | fuel + 1, depth, closing, composer => do
      if (← composer.peek) = .value then
        let token ← composer.next.peek
        if token = .flowEntry ∨ token = closing then .ok (nothing, composer.next)
        else node fuel depth .flow composer.next
      else .ok (nothing, composer)

end

/-- Whether a document ends before a token, or another one starts. -/
def isBetweenDocuments : Token → Bool
  | .version _ => true
  | .handle _ _ => true
  | .otherDirective => true
  | .documentStart => true
  | .documentEnd => true
  | .streamEnd => true
  | _ => false

/-- The version and the handles of a document from directives. -/
structure Directives where
  hasVersion : Bool := false
  handles : List (String × String) := []
  deriving DecidableEq, Repr, Inhabited

def directives : Nat → Directives → Composer → Except Fault (Directives × Composer)
  | 0, _, _ => .error .unreadableYaml
  | fuel + 1, found, composer => do
      match ← composer.peek with
      | .version major =>
          if found.hasVersion ∨ major ≠ 1 then .error .unreadableYaml
          else directives fuel { found with hasVersion := true } composer.next
      | .handle name start =>
          if (found.handles.lookup name).isSome then .error .unreadableYaml
          else
            let handles := (name, start) :: found.handles
            directives fuel { found with handles } composer.next
      | .otherDirective => directives fuel found composer.next
      | _ => .ok (found, composer)

def skipEnds : Nat → Composer → Except Fault Composer
  | 0, composer => .ok composer
  | fuel + 1, composer => do
      if (← composer.peek) = .documentEnd then skipEnds fuel composer.next
      else .ok composer

/-- The only document of a text; none if there is nothing in the text. -/
def document (composer : Composer) : Except Fault (Option Node) := do
  let size := composer.tokens.length + 1
  let fuel := 4 * size
  let first ← composer.peek
  if first = .streamEnd then .ok none
  else
    let (root, behind) ←
      if isBetweenDocuments first ∧ first ≠ .documentEnd then do
        let (found, ahead) ← directives size {} composer
        let start ← ahead.expect .documentStart
        let handles := found.handles ++ standardHandles
        if isBetweenDocuments (← start.peek) then .ok (nothing, start)
        else node fuel 0 .block { start with handles }
      else node fuel 0 .block composer
    let ended ← skipEnds size behind
    if (← ended.peek) = .streamEnd then .ok (some root) else .error .unreadableYaml

end Composer

end Node

end Montage.Yaml
