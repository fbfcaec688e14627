import HttpExchange.Outcome.Basic
import HttpExchange.Server.Database
import HttpExchange.Server.Reply
import HttpExchange.Url.Form

/-!
# The mock server

The store is the only state, and only a put changes it.
-/

namespace HttpExchange

/-- A route, with the argument in its path if it has one. -/
inductive Route where
  | echo
  | database
  | contentType
  | bytes
  | length
  | status (code : Bytes)
  | delay (duration : Bytes)
  deriving DecidableEq

namespace Route

def named : List (Bytes × Route) :=
  [(Utf8.encode "echo", echo), (Utf8.encode "database", database),
    (Utf8.encode "content-type", contentType), (Utf8.encode "bytes", bytes),
    (Utf8.encode "length", length)]

/-- The route of a path.  Names are compared as they are written. -/
def ofPath? (path : Bytes) : Option Route :=
  match pieces (· == 0x2F) path with
  | [[], name] => named.lookup name
  | [[], name, argument] =>
    if argument.isEmpty then none
    else if name = Utf8.encode "status" then some (status argument)
    else if name = Utf8.encode "delay" then some (delay argument)
    else none
  | _ => none

def takes (route : Route) (method : String) : Bool :=
  match route with
  | echo | length => method == "POST"
  | database | contentType | bytes | status _ | delay _ => true

end Route

namespace Server

def bodyLimit : Nat := 2097152

def tooLarge : Answer :=
  .plain 413 "Failed to buffer the request body: length limit exceeded"

/-- Hand a body to a handler, unless it is too long. -/
def withBody {α : Type} (body : Bytes) (reject : Answer → α) (handler : Bytes → α) : α :=
  if bodyLimit < body.length then reject tooLarge else handler body

/-- The answer to an echo request: the document it posts, where no octets mean `null`. -/
def echo (body : Bytes) : Answer :=
  if body.isEmpty then .ok [("data", .null)]
  else
    match Json.Value.parse body with
    | .ok document => .ok [("data", document)]
    | .error _ => .failed 400

/-- The answer to a database request whose query is known, and the store after it. -/
def access (store : Store) (query : StoreQuery) (body : Bytes) : Answer × Store :=
  match query.action with
  | .put =>
    match PutBody.parse body with
    | .ok entry => (.ok [], store.put query.effectiveKey entry.value)
    | .error _ => (.failed 400, store)
  | .get =>
    match store.get? query.effectiveKey with
    | some value => (.ok [("value", value)], store)
    | none => (.failed 404, store)

def database (store : Store) (query body : Bytes) : Answer × Store :=
  match StoreQuery.parse query with
  | .error fault =>
    (.plain 400 ("Failed to deserialize query string: " ++ fault.message), store)
  | .ok query => withBody body (fun answer => (answer, store)) (access store query)

/-- The first content type of a request, if all its octets are visible or blanks. -/
def contentType? (headers : List (String × Bytes)) : Option String := do
  let (_, value) ← headers.find? fun field => Ascii.sameName field.1 "content-type"
  if value.all Ascii.isFieldOctet then Utf8.decode? value else none

def describe (headers : List (String × Bytes)) (body : Bytes) : Answer :=
  .json 200 (.object
    [("content_type", (contentType? headers).elim .null .string),
      ("length", .natural body.length)])

/-- The unsigned number that a part of a path writes.  `name` is what the part is called and `type`
what the number is called. -/
def pathNumber (name type : String) (bound : Nat) (argument : Bytes) : Except Answer Nat :=
  let octets := percentDecode argument
  match Utf8.decode? octets with
  | none => .error (.plain 400 ("Invalid URL: Invalid UTF-8 in `" ++ name ++ "`"))
  | some text =>
    match Ascii.unsigned? bound octets with
    | some n => .ok n
    | none =>
      .error (.plain 400 ("Invalid URL: Cannot parse `" ++ text ++ "` to a `" ++ type ++ "`"))

/-- The answer with a status that the path names; a number that is no status is a bad request. -/
def namedStatus (code : Bytes) : Answer :=
  match pathNumber "code" "u16" UInt16.size code with
  | .error answer => answer
  | .ok code => .json (if 100 ≤ code ∧ code ≤ 999 then code else 400) (.object [])

def answerLater (duration : Bytes) : Answer :=
  match pathNumber "ms" "u64" UInt64.size duration with
  | .error answer => answer
  | .ok milliseconds => { Answer.ok [] with delay := milliseconds }

def handle (store : Store) (route : Route) (query : Bytes) (request : ServerRequest) :
    Answer × Store :=
  match route with
  | .database => database store query request.body
  | .echo => (withBody request.body id echo, store)
  | .contentType => (withBody request.body id (describe request.headers), store)
  | .bytes =>
    (withBody request.body id fun body => ⟨200, "application/octet-stream", body, 0⟩, store)
  | .length =>
    (withBody request.body id fun body =>
      .json 200 (.object [("length", .natural body.length)]), store)
  | .status code => (namedStatus code, store)
  | .delay duration => (answerLater duration, store)

/-- The reply to a request, and the store after it. -/
def serve (store : Store) (request : ServerRequest) : Reply × Store :=
  let target := Target.parse (Utf8.encode request.target)
  match Route.ofPath? target.path with
  | none => (if target.hasPath then .notFound else .noPath, store)
  | some route =>
    if route.takes request.method then
      let (answer, store) := handle store route target.query request
      (.ofAnswer request.method answer, store)
    else (.onlyPost, store)

/-- The replies to requests in order, and the store after them. -/
def serveAll : Store → List ServerRequest → List Reply × Store
  | store, [] => ([], store)
  | store, request :: requests =>
    let (reply, store) := serve store request
    let (replies, store) := serveAll store requests
    (reply :: replies, store)

end Server
end HttpExchange
