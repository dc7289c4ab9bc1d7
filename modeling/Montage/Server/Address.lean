import Montage.Server.Origin

/-!
# Addresses

What a client makes of an address as it is written.  An address without a host is one of
this server, with or without a slash in front.
-/

namespace Montage.Server

/-- The parts of a written address, before anything is decoded. -/
structure WrittenAddress where
  scheme : List Char
  authority : List Char
  path : List Char
  query : Option (List Char)
  deriving DecidableEq, Repr, Inhabited

namespace WrittenAddress

def isSchemeCharacter (character : Char) : Bool :=
  character.isAlphanum || "+.-".toList.contains character

/-- The scheme in front of a colon, and what follows it.  A scheme may be empty, and
otherwise starts with a letter. -/
def takeScheme (text : List Char) : List Char × List Char :=
  let scheme := text.takeWhile isSchemeCharacter
  match text.drop scheme.length with
  | ':' :: rest =>
      if scheme.head?.all Char.isAlpha then (scheme, rest) else ([], text)
  | _ => ([], text)

def takeAuthority : List Char → List Char × List Char
  | '/' :: '/' :: rest => rest.span fun character => !"/?#".toList.contains character
  | text => ([], text)

/-- The parts of an address.  What stands behind a number sign does not belong to it. -/
def ofCharacters (text : List Char) : WrittenAddress :=
  let (scheme, text) := takeScheme text
  let (authority, text) := takeAuthority text
  let (path, text) := text.span fun character => !"?#".toList.contains character
  let query := match text with
    | '?' :: rest => some (rest.takeWhile (· != '#'))
    | _ => none
  ⟨scheme, authority, path, query⟩

/-- The names of a path after dots have been worked off: a single one stays where it is,
two go back by a name. -/
def settle : List (List Char) → List (List Char) → List (List Char)
  | done, [] => done.reverse
  | done, ['.'] :: rest => settle done rest
  -- The root has nothing above it to go back to.
  | done, ['.', '.'] :: rest =>
      if done = [[]] then settle done rest else settle done.tail rest
  | done, name :: rest => settle (name :: done) rest

/-- A path without single and double dots; an empty one is the root. -/
def settledPath (path : List Char) : List Char :=
  let names := settle [] (Text.splitBy (· == '/') path)
  let settled := (names.intersperse ['/']).flatten
  if settled.isEmpty then ['/'] else settled

def place (written : WrittenAddress) : Authority :=
  Authority.ofCharacters written.authority

/-- The server that is written in front of the path; none if a part of it is invalid. -/
def origin? (written : WrittenAddress) : Option Origin :=
  Origin.read? written.scheme written.place

def isAbsolute (origin : Origin) : Bool :=
  !origin.scheme.isEmpty && !origin.host.isEmpty

def isBare (written : WrittenAddress) : Bool :=
  written.scheme.isEmpty && written.place.user.isEmpty && written.place.host.isEmpty &&
    written.place.port.isEmpty

/-- Whether an address has only a path, and this path would be taken for something
else. -/
def isAmbiguous (written : WrittenAddress) : Bool :=
  written.isBare &&
    ("//".toList.isPrefixOf written.path || ":".toList.isPrefixOf written.path)

/-- The path of an address, without dots if something stands in front of it. -/
def plainPath (written : WrittenAddress) : List Char :=
  if written.isBare then written.path else settledPath written.path

def localPath (written : WrittenAddress) : List Char :=
  '/' :: written.plainPath.dropWhile (· == '/')

def isKept (character : Char) : Bool :=
  32 < character.toNat && character.toNat < 127 && !"\"#<>".toList.contains character

def isKeptInPath (character : Char) : Bool :=
  isKept character && !"?\x60\x7b\x7d".toList.contains character

/-- The greatest number of characters in an address, and in its path and query if these are
put behind an origin. -/
def lengthLimit : Nat := 65536

/-- Whether an address of this server is too long to be put behind its origin. -/
def isVast (written : WrittenAddress) : Bool :=
  lengthLimit < Text.Percent.length isKeptInPath written.localPath ||
    lengthLimit < Text.Percent.length isKept (written.query.getD [])

/-- Whether a character may not be written in an address. -/
def isForbidden (character : Char) : Bool :=
  character.toNat < 32 || character.toNat = 127

/-- The parts of a text that may be an address; none if it is not one. -/
def read? (text : String) : Option WrittenAddress :=
  let written := ofCharacters text.toList
  if lengthLimit < text.length || text.toList.any isForbidden || written.isAmbiguous then none
  else some written

end WrittenAddress

/-- An address as the server gets it. -/
structure Address where
  origin : Origin
  path : String
  query : List (String × String)
  deriving DecidableEq, Repr, Inhabited

namespace Address

/-- A name or a value in a query.  A plus sign stands for a blank. -/
def readPart (part : List Char) : String :=
  Text.Percent.decode (String.ofList (Text.replaceOne '+' [' '] part))

/-- The parameters in a query.  One without a sign of equality is empty. -/
def readQuery (query : Option (List Char)) : List (String × String) :=
  let parts := (Text.splitBy (· == '&') (query.getD [])).filter fun part => !part.isEmpty
  parts.map fun part =>
    let (name, value) := part.span (· != '=')
    (readPart name, readPart (value.drop 1))

def received (path : List Char) : String :=
  Text.Percent.decode (Text.Percent.decode (String.ofList path))

/-- The address that a client writes; none if it is not one. -/
def read? (text : String) : Option Address := do
  let written ← WrittenAddress.read? text
  let origin ← written.origin?
  let query := readQuery written.query
  if WrittenAddress.isAbsolute origin then some ⟨origin, received written.plainPath, query⟩
  else if written.isVast then none
  else some ⟨.ofServer, received (WrittenAddress.settledPath written.localPath), query⟩

/-- The address that a client is sent to from an origin, which has the host if none is
named; none if it is not one. -/
def follow? (origin : Origin) (text : String) : Option Address := do
  let written ← WrittenAddress.read? text
  let next ← written.origin?
  let host := if next.host.isEmpty then origin.host else next.host
  some ⟨{ next with host }, received written.plainPath, readQuery written.query⟩

end Address

end Montage.Server
