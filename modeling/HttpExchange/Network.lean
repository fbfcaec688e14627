import HttpExchange.Exchange.Scenario
import HttpExchange.Server.Serve
import HttpExchange.Upload
import HttpExchange.Url.Address

/-!
# Requests over a network

What happens to a request on its way to a server and back is told by a `Connection`.
-/

namespace HttpExchange

inductive ConnectFault where
  | refused
  | unreachable
  /-- There is no address of this machine from which the address can be reached. -/
  | noSource
  /-- The address makes sense only on a link, which it does not name. -/
  | noLink
  /-- The host is a name for which nobody can be asked. -/
  | noAnswer
  /-- The host is nothing that could have an address. -/
  | unknownName
  deriving DecidableEq

def ConnectFault.message : ConnectFault → String
  | refused => "tcp connect error: Connection refused (os error 111)"
  | unreachable => "tcp connect error: Network is unreachable (os error 101)"
  | noSource => "tcp connect error: Cannot assign requested address (os error 99)"
  | noLink => "tcp connect error: Invalid argument (os error 22)"
  | noAnswer =>
    "dns error: failed to lookup address information: Temporary failure in name resolution"
  | unknownName => "dns error: failed to lookup address information: Name or service not known"

/-- Why a request did not get over the network. -/
inductive NetworkFault where
  | invalidMethod
  | badUrl (fault : UrlFault)
  /-- The scheme of the destination is not spoken, or it names no host. -/
  | badScheme (url : Url)
  /-- The URL cannot be sent: it is too long, or its host has a character that cannot. -/
  | unsendable (url : Url)
  | unconnected (url : Url) (fault : ConnectFault)
  deriving DecidableEq

def NetworkFault.message : NetworkFault → String
  | invalidMethod => "invalid method: invalid HTTP method"
  | badUrl fault => "builder error: " ++ fault.message
  | badScheme url => "builder error for url (" ++ url.text ++ "): URL scheme is not allowed"
  | unsendable url => "builder error for url (" ++ url.text ++ "): Parsed Url is not a valid Uri"
  | unconnected url fault =>
    "error sending request for url (" ++ url.text ++ "): client error (Connect): " ++ fault.message

/-- A body on its way: its octets in one piece, or chunk by chunk. -/
inductive Cargo where
  | whole (octets : Bytes)
  | streamed (chunks : List Bytes)

/-- What becomes of a request on its way to a server, and of the reply on its way back. -/
structure Delivery where
  /-- The fields that are added to those of the request. -/
  added : List (String × Bytes)
  body : Bytes
  /-- The chunks that were taken before the reply came. -/
  pulled : List Bytes
  answer : Reply → Except String RawResponse

/-- A way to a server: what the client's library, the protocol and the server's framework do. -/
abbrev Connection := Request → Url → Cargo → Delivery

namespace Connection

/-- The methods whose requests are sent without the body if its length is not known. -/
def bodiless : List String := ["GET", "HEAD", "CONNECT"]

/-- The fields that tell to whom a request goes, what is understood, and how its body is framed. -/
def framed (url : Url) (framing : List (String × String)) : List (String × Bytes) :=
  let port := url.port.elim "" fun port => ":" ++ Nat.repr port
  ([("accept", "*/*"), ("host", url.host.getD "" ++ port)] ++ framing).map fun field =>
    (field.1, Utf8.encode field.2)

/-- A reply as a response, to which the server adds the date. -/
def dated (date : String) (reply : Reply) : Except String RawResponse :=
  .ok ⟨reply.status, reply.headers ++ [("date", date)], .octets reply.body⟩

/-- A connection by HTTP/1.1.  Of a streamed body, whose length is not known, nothing is taken if
the method is not expected to have one. -/
def http1 (date : String) : Connection := fun request url cargo =>
  match cargo with
  | .whole octets =>
    ⟨framed url [("content-length", Nat.repr octets.length)], octets, [], dated date⟩
  | .streamed chunks =>
    if bodiless.contains request.method.name then ⟨framed url [], [], [], dated date⟩
    else ⟨framed url [("transfer-encoding", "chunked")], chunks.flatten, chunks, dated date⟩

end Connection

/-- What answers on a network: nothing, or the mock server at a port of this machine. -/
inductive Link where
  | offline
  | serving (port : Nat) (connection : Connection)

namespace Link

def localHosts : List String := ["127.0.0.1", "localhost", "[::1]"]

def isLabel (label : List Char) : Bool :=
  !label.isEmpty && label.length ≤ 63 &&
    label.all fun c => c.isAlphanum || c == '-' || c == '_'

/-- A name that can be looked up.  A dot may follow it, and stands for the root if nothing precedes
it. -/
def canLookUp (name : List Char) : Bool :=
  let bare := if name.getLast? == some '.' then name.dropLast else name
  bare.isEmpty ||
    (bare.head? != some '-' && bare.length ≤ 253 && (pieces (· == '.') bare).all isLabel)

/-- Why no connection is made to an address between brackets that is elsewhere. -/
def elsewhere (groups : List Nat) : ConnectFault :=
  let first := groups.headD 0
  if 0xFF00 ≤ first then .unreachable
  else if 0xFE80 ≤ first ∧ first < 0xFEC0 then .noLink
  else if groups.take 6 = [0, 0, 0, 0, 0, 0xFFFF] then .unreachable
  else .noSource

/-- Why no connection is made to a host without a network. -/
def unconnected (host : List Char) : ConnectFault :=
  match host with
  | '[' :: rest => elsewhere ((Host.ipv6Groups? rest.dropLast).getD [])
  | _ =>
    if host = "localhost".toList ∨ Host.endsInNumber host then .unreachable
    else if canLookUp host then .noAnswer
    else .unknownName

def connect (link : Link) (url : Url) : Except ConnectFault Connection :=
  let host := url.host.getD ""
  match link with
  | offline => .error (unconnected host.toList)
  | serving port connection =>
    if localHosts.contains host then
      if url.scheme = "http" ∧ url.port.getD 80 = port then .ok connection else .error .refused
    else .error (unconnected host.toList)

end Link

namespace Network

def unescaped? (escaped : String) : Option String :=
  Utf8.decode? (percentDecode (Utf8.encode escaped))

/-- A URL without user name and password, if they are texts that can be sent apart from it. -/
def withoutCredentials (url : Url) : Url :=
  match unescaped? url.user with
  | none => url
  | some user =>
    if user.isEmpty && (url.password.bind unescaped?).isNone then url
    else { url with user := "", password := none }

def urlLimit : Nat := 65534

def isSendable (url : Url) : Bool :=
  (Utf8.encode url.text).length ≤ urlLimit &&
    !(url.host.getD "").toList.any fun c => "\"`\x7b\x7d".toList.contains c

/-- The URL of a destination that a request can go to. -/
def resolve (destination : String) : Except NetworkFault Url :=
  match Url.parse destination with
  | .error fault => .error (.badUrl fault)
  | .ok url =>
    if !url.hasHost then .error (.badScheme url)
    else
      let url := withoutCredentials url
      if url.scheme ≠ "http" ∧ url.scheme ≠ "https" then .error (.badScheme url)
      else if isSendable url then .ok url
      else .error (.unsendable url)

/-- The URL to which a request goes and the connection there, if it gets over the network. -/
def route (link : Link) (request : Request) : Except NetworkFault (Url × Connection) := do
  if !request.method.isToken then .error .invalidMethod
  let url ← resolve request.url
  match link.connect url with
  | .ok connection => .ok (url, connection)
  | .error fault => .error (.unconnected url fault)

/-- The request as a server gets it with a body and some fields more. -/
def incoming (request : Request) (url : Url) (added : List (String × Bytes)) (body : Bytes) :
    ServerRequest :=
  { method := request.method.name
    target := url.target
    headers := (request.headers.map fun field => (field.1, Utf8.encode field.2)) ++ added
    body := body }

/-- The body as it is sent: streamed if progress is asked for. -/
def cargo (chunkSize : Nat) (body : Bytes) (progress : Bool) : Cargo :=
  if progress then .streamed (Upload.chunks chunkSize body) else .whole body

/-- What sending one request comes to. -/
structure Transmission where
  /-- The request as the server got it, if it did. -/
  received : Option ServerRequest
  progress : List Progress
  /-- Milliseconds until the transport returns. -/
  delay : Nat
  result : Except String RawResponse
  store : Store

/-- Send a request.  Every chunk that is taken of a streamed body is one tick of progress. -/
def transmit (link : Link) (chunkSize : Nat) (store : Store) (request : Request)
    (progress : Bool) : Transmission :=
  match route link request with
  | .error fault => ⟨none, [], 0, .error fault.message, store⟩
  | .ok (url, connection) =>
    let delivery := connection request url (cargo chunkSize request.body progress)
    let received := incoming request url delivery.added delivery.body
    let (reply, store) := Server.serve store received
    { received := some received
      progress :=
        if progress then Upload.progressFrom request.body.length 0 delivery.pulled else []
      delay := reply.elapsed
      result := delivery.answer reply
      store := store }

/-- What a transport does that gets a transmission. -/
def Transmission.script (transmission : Transmission) : List Step :=
  transmission.progress.map .tick ++
    [.sleep transmission.delay,
      match transmission.result with
      | .ok response => .respond response
      | .error message => .fail message]

/-- Start an exchange on a clock of its own, and let `patience` milliseconds pass.  The transport is
called only if there is a destination. -/
def exchange (link : Link) (chunkSize patience : Nat) (store : Store) (plan : Plan) :
    Schedule × Store :=
  let transmission := transmit link chunkSize store plan.request plan.wantsProgress
  let plan := { plan with script := transmission.script }
  ((Schedule.initial.start plan).sleep patience,
    if plan.destination.isEmpty then store else transmission.store)

end Network
end HttpExchange
