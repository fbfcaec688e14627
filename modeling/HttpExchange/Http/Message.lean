import HttpExchange.Json.Record

/-!
# Requests and responses
-/

namespace HttpExchange

inductive Method where
  | get
  | post
  | put
  | patch
  | delete
  | head
  | options
  | other (name : String)
  deriving DecidableEq

namespace Method

/-- Requests are posted unless something else is asked for. -/
instance : Inhabited Method := ⟨post⟩

def standard : List Method :=
  [get, post, put, patch, delete, head, options]

def name : Method → String
  | get => "GET"
  | post => "POST"
  | put => "PUT"
  | patch => "PATCH"
  | delete => "DELETE"
  | head => "HEAD"
  | options => "OPTIONS"
  | other name => name

/-- The method of a name, in any ASCII case for the standard ones. -/
def ofName (name : String) : Method :=
  (standard.find? fun method => method.name == Ascii.upper name).getD (other name)

def toJson (method : Method) : Json.Value :=
  .string method.name

def read : Json.Reader Method := fun input => do
  let (name, rest) ← Json.Read.string input
  .ok (ofName name, rest)

def parse (document : Bytes) : Except Json.Fault Method :=
  Json.Read.whole (fun _ => read) document

/-- The name is a token: not empty, and without octets that no token has. -/
def isToken (method : Method) : Bool :=
  let octets := Utf8.encode method.name
  !octets.isEmpty && octets.all Ascii.isTokenOctet

end Method

abbrev Headers := List (String × String)

def Headers.value? (headers : Headers) (name : String) : Option String :=
  (headers.find? fun field => Ascii.sameName field.1 name).map Prod.snd

/-- What the body of a response holds: octets, or a value that was decoded on the way. -/
inductive Content where
  | octets (bytes : Bytes)
  | decoded (value : Json.Value)
  deriving DecidableEq

/-- A request as a transport gets it. -/
structure Request where
  method : Method
  url : String
  headers : Headers
  body : Bytes
  deriving DecidableEq

def Request.header? (request : Request) (name : String) : Option String :=
  request.headers.value? name

/-- A response as a transport returns it, its body not yet understood. -/
structure RawResponse where
  status : Nat
  headers : Headers
  body : Content
  deriving DecidableEq

end HttpExchange
