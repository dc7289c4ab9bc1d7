import Montage.Text.Percent

/-!
# Forms

Files that clients send in forms.  A form carries a file behind lines about it, and what stands
in these lines is read back without knowing where it came from: the media type of a file may
bring lines of its own.
-/

namespace Montage.Server

/-- A file that a client puts into a form. -/
structure FormFile where
  name : String
  content : String
  mediaType : String
  deriving DecidableEq, Repr, Inhabited

/-- A file that the server finds in a form. -/
structure Upload where
  filename : String
  content : String
  mediaType : String
  deriving DecidableEq, Repr, Inhabited

/-- Reasons why the server cannot read a form. -/
inductive FormError where
  /-- The parts of the form are not told from each other. -/
  | unbounded
  | malformed
  | nameless
  deriving DecidableEq, Repr, Inhabited

namespace FormError

def message : FormError → String
  | .unbounded => "Missing boundary in multipart."
  | .malformed => "Invalid multipart data."
  | .nameless => "The Content-Disposition header field \"name\" must be provided."

end FormError

/-- A value with parameters, as it stands behind the name of a header. -/
structure HeaderValue where
  value : String
  parameters : List (String × String)
  deriving DecidableEq, Repr, Inhabited

namespace HeaderValue

/-- The parts of a text between semicolons outside quotes. -/
def parts : Bool → Bool → List Char → List (List Char)
  | _, _, [] => [[]]
  | isOpen, isEscaped, character :: rest =>
      if character = ';' && !isOpen then [] :: parts false false rest
      else
        -- A quote behind a backslash neither opens nor closes anything.
        let isOpen := isOpen != (character = '"' && !isEscaped)
        match parts isOpen (character = '\\') rest with
        | [] => [[character]]
        | part :: others => (character :: part) :: others

/-- Characters without the quotes or the angle brackets around them. -/
def unquoted (text : List Char) : List Char :=
  let inside := (text.drop 1).dropLast
  let isBetween (first last : Char) : Bool :=
    1 < text.length && text.head? = some first && text.getLast? = some last
  if isBetween '"' '"' then
    Text.replacePair '\\' '"' ['"'] (Text.replacePair '\\' '\\' ['\\'] inside)
  else if isBetween '<' '>' then inside
  else text

def parameter (part : List Char) : String × String :=
  match part.span (· != '=') with
  | (name, []) => (Text.trim (String.ofList name), "")
  | (name, _ :: value) =>
      (Text.lowercase (Text.trim (String.ofList name)),
        String.ofList (unquoted (Text.trim (String.ofList value)).toList))

def ofText (text : String) : HeaderValue :=
  match parts false false text.toList with
  | value :: others@(_ :: _) => ⟨(parameter value).1, others.map parameter⟩
  | _ => ⟨Text.lowercase (Text.trim text), []⟩

def parameter? (header : HeaderValue) (name : String) : Option String :=
  header.parameters.reverse.lookup name

end HeaderValue

namespace FormFile

def isEscaped (character : Char) : Bool :=
  character = '"' || (character.toNat < 32 && character.toNat ≠ 27)

def carriedName (name : String) : List Char :=
  name.toList.flatMap fun character =>
    if isEscaped character then Text.Percent.encodeByte (UInt8.ofNat character.toNat)
    else if character = '\\' then ['\\', '\\']
    else [character]

/-- What a form says of the field with a file.  One without a name is no file. -/
def disposition (file : FormFile) : String :=
  "form-data; name=\"file\"" ++
    if file.name.isEmpty then ""
    else "; filename=\"" ++ String.ofList (carriedName file.name) ++ "\""

def remainder (file : FormFile) : List Char :=
  ("Content-Type: " ++ file.mediaType ++ "\r\n\r\n" ++ file.content).toList

end FormFile

namespace Upload

def isToken (character : Char) : Bool :=
  character.isAlphanum || "!#$%&'*+-.^_\x60|~".toList.contains character

/-- The value at the start of a text, which a line end must follow, and what comes after
that. -/
def takeValue? (text : List Char) : Option (String × List Char) :=
  match (text.dropWhile (· == ' ')).span (· != '\r') with
  | (value, '\r' :: '\n' :: rest) => some (Text.Utf8.bytewise (String.ofList value), rest)
  | _ => none

/-- The lines in front of a blank one, with names in lower case, and what follows them.  There
are at most as many as the fuel says. -/
def takeLines? : Nat → List Char → Option (List (String × String) × List Char)
  | _, '\r' :: '\n' :: rest => some ([], rest)
  | 0, _ => none
  | fuel + 1, text => do
      let (name, rest) := text.span (· != ':')
      if name.isEmpty || !name.all isToken then none
      else
        let (value, rest) ← takeValue? (rest.drop 1)
        let (lines, body) ← takeLines? fuel rest
        some ((Text.lowercase (String.ofList name), value) :: lines, body)

/-- The text in bytes that are each taken for a character.  Bytes that are no text stay
characters. -/
def readBytes (bytes : String) : String :=
  (Text.Utf8.text? (bytes.toList.map fun byte => UInt8.ofNat byte.toNat)).getD bytes

/-- A file name without the directories in front of it.  These are told by a drive or by two
backslashes at the start. -/
def withoutDirectories (name : String) : String :=
  let isFull : Bool := match name.toList with
    | '\\' :: '\\' :: _ => true
    | _ :: ':' :: '\\' :: _ => true
    | _ => false
  if isFull then (Text.split '\\' name).getLast?.getD "" else name

/-- The file in a form; none if the field is called otherwise or is no file. -/
def receive? (file : FormFile) : Except FormError (Option Upload) :=
  match takeLines? file.remainder.length file.remainder with
  | none => .error .malformed
  | some (lines, body) =>
      -- The last disposition counts, but the first media type.
      let own := Text.Utf8.bytewise file.disposition
      let disposition :=
        HeaderValue.ofText ((lines.reverse.lookup "content-disposition").getD own)
      match disposition.parameter? "name", disposition.parameter? "filename" with
      | none, _ => .error .nameless
      | some name, some filename =>
          let mediaType := (lines.lookup "content-type").getD ""
          .ok (if name = "file" then
            some ⟨readBytes (withoutDirectories filename), String.ofList body, mediaType⟩
          else none)
      | some _, none => .ok none

end Upload

end Montage.Server
