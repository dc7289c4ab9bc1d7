import Montage.Numeric.Decimal
import Montage.Numeric.Numeral
import Montage.Server.DomainName
import Montage.Server.InternetAddress

/-!
# Origins

The servers that addresses lead to.  A host is a number or a name, and a name in another
script stands for one in ASCII.
-/

namespace Montage.Server

/-- What an address says of its server, as it is written. -/
structure Authority where
  user : List Char
  host : List Char
  port : List Char
  deriving DecidableEq, Repr, Inhabited

namespace Authority

/-- A host and what follows it.  A host that begins with a bracket goes on to the last closing
one. -/
def takeHost (place : List Char) : List Char × List Char :=
  if place.head? = some '[' && place.contains ']' then
    let rest := (place.reverse.takeWhile (· != ']')).reverse
    (place.take (place.length - rest.length), rest)
  else place.span fun character => !":@".toList.contains character

/-- The parts of an authority: a user in front of a sign, a host, and a port behind a colon,
which may be missing. -/
def ofCharacters (text : List Char) : Authority :=
  let (user, place) := match text.span (· != '@') with
    | (user, _ :: place) => (user, place)
    | (place, []) => ([], place)
  let (host, rest) := takeHost place
  ⟨user, host, if rest.head? = some ':' then rest.drop 1 else rest⟩

end Authority

/-- A server that an address leads to. -/
structure Origin where
  scheme : String
  host : String
  port : Option Int := none
  deriving DecidableEq, Repr, Inhabited

namespace Origin

def isPlain (character : Char) : Bool :=
  character.isAlphanum || "-._~!$&'()*+,;=\"\x60\x7b\x7d%|\\".toList.contains character

/-- The host that characters write, as it is looked up; none if they write no host. -/
def host? (characters : List Char) : Option String :=
  let host := String.ofList characters
  if InternetAddress.looksDotted characters then
    if InternetAddress.isDotted characters then some host else none
  else if characters.head? = some '[' && characters.getLast? = some ']' then
    let inside := (characters.drop 1).dropLast
    if InternetAddress.isGroupedIn inside then some (String.ofList inside) else none
  else if characters.all fun character => character.toNat < 128 then
    some (Text.Percent.encodeBut isPlain (String.ofList (characters.map Char.toLower)))
  else (DomainName.encode? (Text.lowercase host).toList).map String.ofList

def usualPort? (scheme : String) : Option Int :=
  [("ftp", 21), ("http", 80), ("https", 443), ("ws", 80), ("wss", 443)].lookup scheme

/-- The origin with a scheme and an authority; none if they write no host or no port. -/
def read? (scheme : List Char) (authority : Authority) : Option Origin := do
  let scheme := String.ofList (scheme.map Char.toLower)
  let host ← host? authority.host
  if authority.port.isEmpty then some ⟨scheme, host, none⟩
  else
    let port ← Numeral.int? authority.port
    some ⟨scheme, host, if usualPort? scheme = some port then none else some port⟩

def isGrouped (origin : Origin) : Bool := origin.host.toList.contains ':'

def place (origin : Origin) : String :=
  let host := if origin.isGrouped then "[" ++ origin.host ++ "]" else origin.host
  match origin.port with
  | none => host
  | some port => host ++ ":" ++ Decimal.ofInt port

def ofServer : Origin := ⟨"http", "server", none⟩

end Origin

end Montage.Server
