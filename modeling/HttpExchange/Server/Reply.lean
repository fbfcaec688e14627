import HttpExchange.Http.Message

/-!
# Replies
-/

namespace HttpExchange

/-- A request as a server gets it. -/
structure ServerRequest where
  method : String
  target : String
  headers : List (String × Bytes)
  body : Bytes

/-- The answer of a handler. -/
structure Answer where
  status : Nat
  contentType : String
  body : Bytes
  /-- Milliseconds until the answer is ready. -/
  delay : Nat
  deriving DecidableEq

namespace Answer

def json (status : Nat) (value : Json.Value) : Answer :=
  ⟨status, "application/json", Utf8.encode value.text, 0⟩

def plain (status : Nat) (text : String) : Answer :=
  ⟨status, "text/plain; charset=utf-8", Utf8.encode text, 0⟩

/-- The answer to a request that succeeded, with more members in the order of their names. -/
def ok (members : List (String × Json.Value)) : Answer :=
  json 200 (Json.Value.ofEntries (("result", .string "ok") :: members))

def failed (status : Nat) : Answer :=
  json status (.object [("result", .string "error")])

end Answer

/-- What a server sends. -/
structure Reply where
  status : Nat
  /-- The header fields in the order of their names. -/
  headers : Headers
  body : Bytes
  /-- Milliseconds from request to reply. -/
  elapsed : Nat
  deriving DecidableEq

namespace Reply

def notFound : Reply :=
  ⟨404, [], [], 0⟩

/-- The target has no path that a route could have. -/
def noPath : Reply :=
  ⟨404, [("content-length", "0")], [], 0⟩

def onlyPost : Reply :=
  ⟨405, [("allow", "POST"), ("content-length", "0")], [], 0⟩

def ofAnswer (method : String) (answer : Answer) : Reply :=
  if method = "CONNECT" ∧ 200 ≤ answer.status ∧ answer.status < 300 then
    ⟨answer.status, [("content-type", answer.contentType)], [], answer.delay⟩
  else
    ⟨answer.status,
      [("content-length", Nat.repr answer.body.length), ("content-type", answer.contentType)],
      if method = "HEAD" then [] else answer.body, answer.delay⟩

end Reply
end HttpExchange
