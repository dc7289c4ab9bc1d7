import Montage.Server.Address
import Montage.Server.Service

/-!
# Clients

How a client sends a request: what it makes of an address and of headers, and how it asks again
when the server sends it elsewhere.
-/

namespace Montage.Server

/-- Reasons why a client gets no reply. -/
inductive SendError where
  | address
  /-- A header is not written in ASCII. -/
  | headerText
  | headerType
  /-- A number in the document is not finite. -/
  | number
  /-- The address has a scheme that is not known. -/
  | scheme
  /-- The port cannot be told from the host, which has colons itself. -/
  | port
  | connection
  | redirection
  | redirections
  deriving DecidableEq, Repr, Inhabited

namespace Client

def isPlain (text : String) : Bool :=
  text.toList.all fun character => character.toNat < 128

def headersOf (document : Json) : Except SendError (List (String × String)) :=
  document.entries.mapM fun (name, value) =>
    match value with
    | .text value =>
        if isPlain name && isPlain value then .ok (name, value) else .error .headerText
    | _ => if isPlain name then .error .headerType else .error .headerText

def parameterText : Json → String
  | .boolean value => if value then "true" else "false"
  | .null => ""
  | value => value.display

/-- The parameters in a document.  A list gives its name several values. -/
def parameters (document : Json) : List (String × String) :=
  document.entries.flatMap fun (name, value) =>
    match value with
    | .array values => values.map fun value => (name, parameterText value)
    | value => [(name, parameterText value)]

/-- Whether a character of a parameter stands for itself, or at least for no more than one
byte. -/
def isShort (character : Char) : Bool :=
  character.isAlphanum || "_.-~ ".toList.contains character

def length (parameters : List (String × String)) : Nat :=
  let lengths := parameters.map fun (name, value) =>
    Text.Percent.length isShort name.toList + 1 + Text.Percent.length isShort value.toList
  lengths.foldr (· + ·) 0 + (lengths.length - 1)

/-- The request for a written address.  Parameters that are given take the place of those
in the address. -/
def ask (method address : String) (parameters : Option (List (String × String)))
    (headers : Json) : Except SendError Request :=
  match Address.read? address with
  | none => .error .address
  | some address => do
      let headers ← headersOf headers
      if parameters.any fun parameters => WrittenAddress.lengthLimit < length parameters then
        .error .address
      else
        let query := parameters.getD address.query
        .ok { origin := address.origin, method := method.toUpper, path := address.path, query,
              headers }

/-- A request with a document or a form.  A form takes the place of a document. -/
def carrying (request : Request) (body : Option Json) (form : Option FormFile) :
    Except SendError Request :=
  if form.isNone && !body.all Json.isFinite then .error .number
  else .ok { request with body, form }

def requestSchemes : List String := ["http", "https"]

def connectionSchemes : List String := ["ws", "wss"]

/-- The reason why a client cannot send a request to an origin, if there is one. -/
def refusal? (origin : Origin) : Option SendError :=
  if !(requestSchemes ++ connectionSchemes).contains origin.scheme then some .scheme
  else if origin.isGrouped then some .port
  else if connectionSchemes.contains origin.scheme then some .connection
  else none

def isKept (character : Char) : Bool :=
  character.isAlphanum || "_.-~:/%#?=@[]!$&'()*+,;".toList.contains character

def namingHost (host : String) (headers : List (String × String)) : List (String × String) :=
  ("host", host) :: headers.filter fun (name, _) => Text.lowercase name ≠ "host"

/-- The request that a client makes when it is sent to another path; none if the request is
answered. -/
def followUp? (request : Request) : Option (Except SendError Request) := do
  if request.announcedMethod?.isSome then none
  else
    let path ← Endpoint.redirection? request.method request.path
    let address := request.origin.scheme ++ "://" ++ request.host ++ path
    match Address.follow? request.origin (Text.Percent.encodeBut isKept address) with
    | none => some (.error .redirection)
    | some next =>
        -- The host that the headers name is kept as long as the origin stays the same.
        let headers := if next.origin = request.origin then request.headers
          else namingHost next.origin.place request.headers
        let query := if next.query.isEmpty then request.query else next.query
        some (.ok { request with origin := next.origin, path := next.path, query, headers })

def requestLimit : Nat := 21

/-- The reply to a request, which a client makes a number of times at most. -/
def send (tools : Tools) :
    Nat → Request → Service → Service × Except SendError Reply
  | 0, _, service => (service, .error .redirections)
  | count + 1, request, service =>
      match refusal? request.origin with
      | some reason => (service, .error reason)
      | none =>
          match followUp? request with
          | none =>
              let (service, reply) := service.reply tools request
              (service, .ok reply)
          | some next =>
              -- The server has given this request an identifier before it sent the client on.
              let service := (service.identify request).1
              match next with
              | .error reason => (service, .error reason)
              | .ok next => send tools count next service

end Client

end Montage.Server
