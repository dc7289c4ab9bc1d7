import Montage.Storage.AssetStore

/-!
# Endpoints

What the server offers under which path and method.
-/

namespace Montage.Server

/-- The services of the server. -/
inductive Endpoint where
  | health
  | events
  | upload
  | listing (area : Area)
  | deletion (area : Area)
  | output (filename : String)
  | render
  | status (job : String)
  | download (job : String)
  | cancellation (job : String)
  deriving DecidableEq, Repr, Inhabited

/-- What a path and a method lead to. -/
inductive Routing where
  | found (endpoint : Endpoint)
  | wrongMethod
  | unknown
  deriving DecidableEq, Repr, Inhabited

namespace Endpoint

/-- The endpoints at a path, given by its parts, with the method of each. -/
def atParts : List String → List (String × Endpoint)
  | ["health"] => [("GET", .health)]
  | ["events"] => [("GET", .events)]
  | ["upload"] => [("POST", .upload)]
  | ["uploads"] => [("GET", .listing .uploads), ("DELETE", .deletion .uploads)]
  | ["outputs"] => [("GET", .listing .outputs), ("DELETE", .deletion .outputs)]
  | ["render"] => [("POST", .render)]
  | [collection, name] =>
      if name.isEmpty then []
      else match collection with
        | "outputs" => [("GET", .output name)]
        | "status" => [("GET", .status name)]
        | "download" => [("GET", .download name)]
        | "cancel" => [("POST", .cancellation name)]
        | _ => []
  | _ => []

def parts (path : String) : List String :=
  (Text.split '/' path).drop 1

/-- The parts of a path without the line feed that may end a path of one part. -/
def withoutLineFeed : List String → List String
  | [part] =>
      let characters := part.toList
      if characters.getLast? = some '\n' then [String.ofList characters.dropLast]
      else [part]
  | parts => parts

def route (method path : String) : Routing :=
  match atParts (withoutLineFeed (parts path)) with
  | [] => .unknown
  | endpoints =>
      match endpoints.lookup method with
      | some endpoint => .found endpoint
      | none => .wrongMethod

def withoutFinalSlashes (path : String) : String :=
  String.ofList (path.toList.reverse.dropWhile (· == '/')).reverse

/-- The path that a client is sent to when it asks for an unknown one that ends in a
slash. -/
def redirection? (method path : String) : Option String :=
  let shorter := withoutFinalSlashes path
  if route method path = .unknown ∧ shorter ≠ path ∧ route method shorter ≠ .unknown then
    some shorter
  else none

end Endpoint

end Montage.Server
