import Montage.Document.Basic
import Montage.Document.Reading
import Montage.Server.ByteRange
import Montage.Server.Form
import Montage.Server.Origin

/-!
# Requests and responses

What clients of the render server send, and what they get back.
-/

namespace Montage.Server

/-- A request to the server. -/
structure Request where
  origin : Origin := .ofServer
  method : String
  path : String
  query : List (String × String) := []
  headers : List (String × String) := []
  body : Option Json := none
  form : Option FormFile := none
  deriving Inhabited

namespace Request

def header? (request : Request) (name : String) : Option String :=
  (request.headers.find? fun (key, _) => Text.lowercase key == name).map (·.2)

/-- The host that the client asks for.  It may say another one than it sends the request
to. -/
def host (request : Request) : String :=
  (request.header? "host").getD request.origin.place

/-- The last value of a parameter, or the empty text. -/
def parameter (request : Request) (name : String) : String :=
  (request.query.reverse.lookup name).getD ""

/-- The identifier that the client gives a request; none if empty. -/
def id (request : Request) : String :=
  (request.header? "x-request-id").getD ""

/-- The method that another origin asks leave for, before it makes its request. -/
def announcedMethod? (request : Request) : Option String :=
  if request.method = "OPTIONS" ∧ (request.header? "origin").isSome then
    request.header? "access-control-request-method"
  else none

/-- Whether the body of a request is taken for a document: unless it is said to be
something else. -/
def bringsDocument (request : Request) : Bool :=
  match request.header? "content-type" with
  | none => true
  | some mediaType =>
      let kind := Text.lowercase (Text.trim ((Text.split ';' mediaType).headD ""))
      mediaType.isEmpty || (match Text.split '/' kind with
        | ["application", form] => form = "json" || form.endsWith "+json"
        | _ => false)

def document? (request : Request) : Option Json :=
  if request.bringsDocument && request.form.isNone then request.body else none

/-- What a client puts between the parts of a form if it tells the media type itself. -/
def sentBoundary? (mediaType : String) : Option String := do
  let sections := (Text.split ';' mediaType).map Text.trim
  let boundary ← sections.find? fun text => (Text.lowercase text).startsWith "boundary="
  if mediaType.startsWith "multipart/form-data" then
    some (String.ofList (Text.trimBy (· == '"') (boundary.toList.drop 9)))
  else none

/-- Whether the body of a request is taken for a form with parts, if the client tells its
media type. -/
def bringsForm (request : Request) (mediaType : String) : Except FormError Bool :=
  let header := HeaderValue.ofText mediaType
  if header.value ≠ "multipart/form-data" then .ok false
  else match header.parameter? "boundary" with
    | none => .error .unbounded
    | some boundary =>
        if request.form.isSome && sentBoundary? mediaType = some boundary then .ok true
        else if request.form.isSome || request.body.isSome then .error .malformed
        else .ok false

def upload? (request : Request) : Except FormError (Option Upload) := do
  let isForm ← match request.header? "content-type" with
    | none => .ok true
    | some mediaType => request.bringsForm mediaType
  match request.form with
  | some file => if isForm then Upload.receive? file else .ok none
  | none => .ok none

/-- The part of a file that is asked for.  A client that asks for it only if it knows the
file gets the whole one. -/
def range? (request : Request) : Option String :=
  if (request.header? "if-range").isSome then none else request.header? "range"

end Request

/-- A response of the server. -/
inductive Response where
  | document (status : Nat) (body : Json)
  | file (name content : String)
  | excerpt (name content : String)
  | plain (status : Nat) (text : String)
  /-- A document that is held back, because only its description is asked for. -/
  | withheld (status : Nat)
  /-- The request does not have the form that it needs. -/
  | unprocessable
  | broken
  | stream (subscriber : Nat)
  deriving Inhabited

namespace Response

def status : Response → Nat
  | .document status _ => status
  | .file _ _ => 200
  | .excerpt _ _ => 206
  | .plain status _ => status
  | .withheld status => status
  | .unprocessable => 422
  | .broken => 500
  | .stream _ => 200

def success (members : List (String × Json)) : Response :=
  .document 200 (.object members)

def refusal (status : Nat) (reason : String) : Response :=
  .document status (.object [("detail", .text reason)])

/-- How a file is to be saved.  A name that addresses cannot hold as it is comes in
percent encoding. -/
def disposition (name : String) : String :=
  let encoded := Text.Percent.encode name
  if encoded = name then "attachment; filename=\"" ++ name ++ "\""
  else "attachment; filename*=utf-8''" ++ encoded

def ofFile (request : Request) (name content : String) : Response :=
  match request.range? with
  | none => .file name content
  | some range =>
      match ByteRange.read content.utf8ByteSize range with
      | .ok ranges =>
          .excerpt name (Text.join "" (ranges.map fun range => range.extract content))
      | .error reason => .plain reason.status reason.message

def forMethod (method : String) : Response → Response
  | .document status body =>
      if method = "HEAD" then .withheld status else .document status body
  | response => response

def sharedMethods : List String :=
  ["DELETE", "GET", "HEAD", "OPTIONS", "PATCH", "POST", "PUT"]

def leave (method : String) : Response :=
  if sharedMethods.contains method then .plain 200 "OK"
  else .plain 400 "Disallowed CORS method"

end Response

/-- A response with the identifier of its request.  A broken one comes without. -/
structure Reply where
  requestId : Option String
  response : Response
  deriving Inhabited

end Montage.Server
