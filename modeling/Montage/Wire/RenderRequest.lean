import Montage.Timeline.Item
import Montage.Wire.Field

/-!
# Render requests

The wire form of a composition.  A request is read leniently, and every issue is
reported with the place where it was found.
-/

namespace Montage.Wire

/-- A render request whose fields are in order. -/
structure RenderRequest where
  resolution : String
  quality : String
  extension : String
  scaling : ScalingMode
  timeline : List TimelineItem
  subtitles : Option String
  deriving Inhabited

/-- Reasons why a request gives no composition. -/
inductive RequestError where
  | invalid (issues : List Issue)
  | rejected (reason : Rejection)
  deriving DecidableEq, Repr, Inhabited

namespace RequestError

def message : RequestError → String
  | .invalid issues => Issue.listing issues
  | .rejected reason => reason.message

end RequestError

namespace RenderRequest

def scalingReader : Reader ScalingMode := fun document =>
  match document with
  | .text name => .valid (ScalingMode.ofName name)
  | _ => .valid .cover

/-- The scaling of an item, where null and the empty text leave it to the request. -/
def itemScalingReader : Reader (Option ScalingMode) := fun document =>
  match document with
  | .null => .valid none
  | .text name => .valid (if name.isEmpty then none else some (ScalingMode.ofName name))
  | _ => .valid (some .cover)

/-- A cut: a start that is not negative and an end after it. -/
def cutReader : Reader (Option Cut) := fun document => do
  match ← Reader.nullable (Reader.list Reader.number) document with
  | none => .valid none
  | some [start, finish] =>
      if start < 0 then .refuse "Value error, cut start must not be negative"
      else if finish ≤ start then
        .refuse "Value error, cut end must be greater than cut start"
      else .valid (some (.between start finish))
  | some _ => .refuse "Value error, cut must be [start, end]"

def volumeReader : Reader Binary64 := fun document => do
  let volume ← Reader.number document
  if ¬ volume ≤ fullVolume then .refuse "Input should be less than or equal to 100"
  else if ¬ 0 ≤ volume then .refuse "Input should be greater than or equal to 0"
  else .valid volume

def coordinatesName : String := "dict[str,union[str,int,float]]"

/-- The expression of a coordinate, which may be a text or a number. -/
def coordinateReader (axis : String) : Reader (String × String) := fun document =>
  let shown : Option String := match document with
    | .text value => some value
    | .integer value => some (Decimal.ofInt value)
    | .number value => some (Decimal.ofBinary64 value)
    | .boolean flag => some (if flag then "1" else "0")
    | _ => none
  match shown with
  | some value => .valid (axis, value)
  | none => .refused [
      ⟨[.key axis, .key "str"], "Input should be a valid string"⟩,
      ⟨[.key axis, .key "int"], "Input should be a valid integer"⟩,
      ⟨[.key axis, .key "float"], "Input should be a valid number"⟩]

def positionReader : Reader Position := fun document =>
  let notText : List Issue := [⟨[.key "str"], "Input should be a valid string"⟩]
  match document with
  | .text name => .valid (.named name)
  | .object members =>
      let entries := Checked.all (members.map fun (axis, value) =>
        coordinateReader axis value)
      match entries.within (.key coordinatesName) with
      | .valid entries => .valid (.coordinates entries)
      | .refused issues => .refused (notText ++ issues)
  | _ => .refused (notText ++
      [⟨[.key coordinatesName], "Input should be a valid dictionary"⟩])

def videoReader (members : Members) : Checked TimelineItem :=
  let make (filename : String) (cut : Option Cut) (volume : Binary64)
      (scaling : Option ScalingMode) : TimelineItem :=
    .video ⟨filename, cut, volume, scaling⟩
  (((members.required "filename" Reader.nonemptyText).map make
    |>.apply (members.optional "cut" cutReader none))
    |>.apply (members.optional "volume" volumeReader fullVolume))
    |>.apply (members.optional "scaling" itemScalingReader none)

def imageReader (members : Members) : Checked TimelineItem :=
  let make (filename : String) (duration : Binary64)
      (scaling : Option ScalingMode) : TimelineItem :=
    .image ⟨filename, duration, scaling⟩
  ((members.required "filename" Reader.nonemptyText).map make
    |>.apply (members.optional "duration" (Reader.positive Reader.number)
      defaultImageDuration))
    |>.apply (members.optional "scaling" itemScalingReader none)

def audioReader (members : Members) : Checked TimelineItem :=
  let make (filename : String) (start : Option Binary64) (cut : Option Cut)
      (duration : Option Binary64) (volume : Binary64) : TimelineItem :=
    .audio ⟨filename, start, cut, duration, volume⟩
  ((((members.required "filename" Reader.nonemptyText).map make
    |>.apply (members.optionalAs "startTime" "start_time"
      (Reader.nullable (Reader.notNegative Reader.number)) none))
    |>.apply (members.optional "cut" cutReader none))
    |>.apply (members.optional "duration"
      (Reader.nullable (Reader.positive Reader.number)) none))
    |>.apply (members.optional "volume" volumeReader fullVolume)

def textReader (members : Members) : Checked TimelineItem :=
  let make (text style : String) (fontSize : Option Int) (position : Position)
      (start duration : Binary64) : TimelineItem :=
    .text ⟨text, style, fontSize, position, start, duration⟩
  (((((members.required "text" Reader.nonemptyText).map make
    |>.apply (members.optional "style" Reader.text TextStyle.defaultName))
    |>.apply (members.optionalAs "fontSize" "font_size"
      (Reader.nullable Reader.positiveWhole) none))
    |>.apply (members.optional "position" positionReader
      (.named Position.defaultName)))
    |>.apply (members.optionalAs "startTime" "start_time"
      (Reader.notNegative Reader.number) .zero))
    |>.apply (members.optional "duration" (Reader.notNegative Reader.number)
      defaultTextDuration)

def entryReaders : List (String × (Members → Checked TimelineItem)) := [
  ("video", videoReader), ("image", imageReader), ("audio", audioReader),
  ("text", textReader)]

def unknownKind (kind : Json) : String :=
  let expected := Text.join ", " (entryReaders.map fun (name, _) => "'" ++ name ++ "'")
  "Input tag '" ++ kind.display ++
    "' found using 'type' does not match any of the expected tags: " ++ expected

def entryReader : Reader TimelineItem
  | .object members =>
      match Json.member? members "type" with
      | none => .refuse "Unable to extract tag using discriminator 'type'"
      | some kind =>
          let found : Option (Checked TimelineItem) := match kind with
            | .text name => (List.lookup name entryReaders).map fun reader =>
                (reader members).within (.key name)
            | _ => none
          found.getD (.refuse (unknownKind kind))
  | _ => .refuse
      "Input should be a valid dictionary or object to extract fields from"

def greatestQuality : Int := 51

/-- A quality: one or two digits that give a value in range, as a text without white
space around it. -/
def qualityReader : Reader String := fun document =>
  let text := Text.trim document.display
  let digits := text.toList
  let isNumeral := digits.all Text.isDecimalDigit && !digits.isEmpty &&
    decide (digits.length ≤ 2)
  match isNumeral, Numeral.int? digits with
  | true, some value =>
      if value ≤ greatestQuality then .valid text
      else .refuse "Value error, quality must be a CRF value between 0 and 51"
  | _, _ => .refuse "Value error, quality must be a CRF value between 0 and 51"

def isExtensionCharacter (character : Char) : Bool :=
  ('a' ≤ character && character ≤ 'z') || ('0' ≤ character && character ≤ '9')

/-- A file extension in lower case, without dots in front. -/
def extensionReader : Reader String := fun document => do
  let written ← Reader.text document
  let extension := (Text.lowercase written).toList.dropWhile (· == '.')
  if extension.all isExtensionCharacter && !extension.isEmpty &&
      decide (extension.length ≤ 8) then .valid (String.ofList extension)
  else .refuse ("Value error, invalid extension: " ++ written)

def fieldsReader (members : Members) : Checked RenderRequest :=
  (((((members.optional "resolution" Reader.text "1280x720").map RenderRequest.mk
    |>.apply (members.optional "quality" qualityReader "23"))
    |>.apply (members.optional "extension" extensionReader "mp4"))
    |>.apply (members.optional "scaling" scalingReader .cover))
    |>.apply (members.optional "timeline" (Reader.list entryReader) []))
    |>.apply (members.optional "subtitles" (Reader.nullable Reader.text) none)

def read : Reader RenderRequest
  | .object members => do
      let request ← fieldsReader members
      -- That there are items is checked once all fields are in order.
      if request.timeline.isEmpty then
        .refuse "Value error, Invalid timeline: at least one item is required"
      else .valid request
  | _ => .refuse
      "Input should be a valid dictionary or instance of RenderRequest"

def toSpec (request : RenderRequest) : Except Rejection RenderSpec := do
  let (width, height) ← RenderSpec.parseResolution request.resolution
  .ok ⟨width, height, request.timeline, request.quality, request.extension,
    request.scaling, request.subtitles⟩

def specOf (document : Json) : Except RequestError RenderSpec :=
  match read document with
  | .refused issues => .error (.invalid issues)
  | .valid request => request.toSpec.mapError .rejected

end RenderRequest

end Montage.Wire
