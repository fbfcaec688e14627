import HttpExchange.Http.Message
import HttpExchange.Json.Document
import HttpExchange.Options

/-!
# Results and outcomes of requests

A result is what a request comes to, an outcome what its callback receives of it.
-/

namespace HttpExchange

inductive Payload where
  | json (value : Json.Value)
  | raw (bytes : Bytes)
  deriving DecidableEq

namespace Payload

/-- Decode a response body.  A value that was decoded on the way is taken as it is, and a JSON body
without octets is `null`. -/
def decode (kind : BodyKind) : Content → Except Json.Fault Payload
  | .decoded value => .ok (json value)
  | .octets bytes =>
    match kind with
    | .raw => .ok (raw bytes)
    | .json => if bytes.isEmpty then .ok (json .null) else (Json.Value.parse bytes).map json

def json? : Payload → Option Json.Value
  | json value => some value
  | raw _ => none

def raw? : Payload → Option Bytes
  | json _ => none
  | raw bytes => some bytes

end Payload

structure Response where
  payload : Payload
  /-- Milliseconds from the call of the transport to its return. -/
  elapsed : Nat
  headers : Headers
  deriving DecidableEq

def Response.header? (response : Response) (name : String) : Option String :=
  response.headers.value? name

/-- Why a request has no successful response. -/
inductive RequestFault where
  /-- No status was obtained. -/
  | transport (message : String)
  | server (status : Nat)
  | timeout
  /-- The body of a response with status 200 was not as asked for. -/
  | decode (message : String)
  | aborted
  deriving DecidableEq

def RequestFault.message : RequestFault → String
  | transport message => "transport failed: " ++ message
  | server status => "server responded with HTTP " ++ Nat.repr status
  | timeout => "request timed out"
  | decode message => "response body is not valid JSON: " ++ message
  | aborted => "request was aborted"

abbrev RequestResult := Except RequestFault Response

instance : DecidableEq RequestResult := fun left right =>
  match left, right with
  | .ok a, .ok b => if h : a = b then .isTrue (h ▸ rfl) else .isFalse fun e => h (by cases e; rfl)
  | .error a, .error b =>
    if h : a = b then .isTrue (h ▸ rfl) else .isFalse fun e => h (by cases e; rfl)
  | .ok _, .error _ => .isFalse nofun
  | .error _, .ok _ => .isFalse nofun

/-- The result of a request whose transport returned after `elapsed` milliseconds. -/
def Response.classify (kind : BodyKind) (elapsed : Nat) :
    Except String RawResponse → RequestResult
  | .error message => .error (.transport message)
  | .ok response =>
    if response.status ≠ 200 then .error (.server response.status)
    else
      match Payload.decode kind response.body with
      | .ok payload => .ok ⟨payload, elapsed, response.headers⟩
      | .error fault => .error (.decode fault.message)

/-- What a transport can have as its result that took `elapsed`. -/
inductive Returned (elapsed : Nat) : RequestResult → Prop where
  | response (payload : Payload) (headers : Headers) :
      Returned elapsed (.ok ⟨payload, elapsed, headers⟩)
  | transport (message : String) : Returned elapsed (.error (.transport message))
  | server (status : Nat) : Returned elapsed (.error (.server status))
  | decode (message : String) : Returned elapsed (.error (.decode message))

theorem returned_classify (kind : BodyKind) (elapsed : Nat)
    (returned : Except String RawResponse) :
    Returned elapsed (Response.classify kind elapsed returned) := by
  unfold Response.classify
  split
  · exact .transport _
  · split
    · exact .server _
    · split
      · exact .response _ _
      · exact .decode _

theorem Returned.ne_timeout {elapsed : Nat} {result : RequestResult}
    (returned : Returned elapsed result) : result ≠ .error .timeout := by
  cases returned <;> simp

/-- A response tells how long its transport took. -/
theorem Returned.elapsed_eq {elapsed : Nat} {response : Response}
    (returned : Returned elapsed (.ok response)) : response.elapsed = elapsed := by
  cases returned
  rfl

structure Progress where
  loaded : Nat
  /-- Octets in total, if known. -/
  total : Option Nat
  deriving DecidableEq

def Progress.text (progress : Progress) : String :=
  "\x7b\"loaded\":" ++ Nat.repr progress.loaded ++ ",\"total\":" ++
    (progress.total.elim "null" Nat.repr) ++ "\x7d"

/-- What a callback receives. -/
inductive Outcome where
  | success (payload : Payload) (elapsed : Nat) (headers : Headers)
  /-- The server answered with a status other than 200, or no status was obtained. -/
  | error (status : Option Nat)
  | timeout
  | decodeFailure (message : String)
  | progress (tick : Progress)
  deriving DecidableEq

namespace Outcome

/-- Nothing follows the outcome. -/
def isTerminal : Outcome → Bool
  | progress _ => false
  | success .. | error _ | timeout | decodeFailure _ => true

def isSuccess : Outcome → Bool
  | success .. => true
  | error _ | timeout | decodeFailure _ | progress _ => false

def elapsed? : Outcome → Option Nat
  | success _ elapsed _ => some elapsed
  | error _ | timeout | decodeFailure _ | progress _ => none

def status? : Outcome → Option Nat
  | error status => status
  | success .. | timeout | decodeFailure _ | progress _ => none

def header? (outcome : Outcome) (name : String) : Option String :=
  match outcome with
  | success _ _ headers => headers.value? name
  | error _ | timeout | decodeFailure _ | progress _ => none

/-- The terminal outcome of a result; an aborted request has none. -/
def ofResult? : RequestResult → Option Outcome
  | .ok response => some (success response.payload response.elapsed response.headers)
  | .error (.transport _) => some (error none)
  | .error (.server status) => some (error (some status))
  | .error .timeout => some timeout
  | .error (.decode message) => some (decodeFailure message)
  | .error .aborted => none

/-- What a transport returns leads to an outcome. -/
theorem ofResult?_ne_none {elapsed : Nat} {result : RequestResult}
    (returned : Returned elapsed result) : ofResult? result ≠ none := by
  cases returned <;> simp [ofResult?]

/-- The message of a transport failure whose own message is not known. -/
def unknownFailure : String := "no status available"

def toResult? : Outcome → Option RequestResult
  | success payload elapsed headers => some (.ok ⟨payload, elapsed, headers⟩)
  | error (some status) => some (.error (.server status))
  | error none => some (.error (.transport unknownFailure))
  | timeout => some (.error .timeout)
  | decodeFailure message => some (.error (.decode message))
  | progress _ => none

end Outcome

end HttpExchange
