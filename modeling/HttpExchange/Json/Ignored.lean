import HttpExchange.Json.Document

/-!
# Values that are skipped

Only the syntax of a value that nobody asked for is checked.
-/

namespace HttpExchange
namespace Json
namespace Read

/-- Where a skipped string literal stands between two octets. -/
inductive SkippedInside where
  | plain
  | escape
  /-- In an escape by code unit, with the number of digits after the next octet; `valid` while all
  digits were digits. -/
  | hex (missing : Nat) (valid : Bool)

/-- The input after a string literal.  A control character is not taken, the last octet of a
malformed escape is. -/
def skipString : SkippedInside → Bytes → Except Failure Bytes
  | _, [] => fail .endOfString []
  | .plain, octet :: rest =>
    if octet = 0x22 then .ok rest
    else if octet = 0x5C then skipString .escape rest
    else if octet < 0x20 then fail .controlCharacter (octet :: rest)
    else skipString .plain rest
  | .escape, octet :: rest =>
    if octet = 0x75 then skipString (.hex 3 true) rest
    else if (shortEscape? octet).isSome then skipString .plain rest
    else fail .invalidEscape rest
  | .hex missing valid, octet :: rest =>
    let valid := valid && (Ascii.hexValue? octet).isSome
    match missing with
    | missing + 1 => skipString (.hex missing valid) rest
    | 0 => if valid then skipString .plain rest else fail .invalidEscape rest

inductive Frame where
  | list
  | object
  deriving DecidableEq

def Frame.closing : Frame → UInt8
  | list => 0x5D
  | object => 0x7D

def Frame.endCause : Frame → Cause
  | list => .endOfList
  | object => .endOfObject

/-- The cause when a frame neither goes on nor ends after a value. -/
def Frame.commaCause : Frame → Cause
  | list => .expectedListCommaOrEnd
  | object => .expectedObjectCommaOrEnd

/-- Close frames as long as the input does.  Left are the open frames and the input where the next
value or member of the innermost one begins.  A comma is taken after a value only. -/
def closeFrames : (afterValue : Bool) → List Frame → Bytes → Except Failure (List Frame × Bytes)
  | _, [], input => .ok ([], input)
  | afterValue, frame :: frames, input =>
    match skipBlanks input with
    | [] => fail frame.endCause []
    | octet :: rest =>
      if octet = 0x2C ∧ afterValue then .ok (frame :: frames, rest)
      else if octet = frame.closing then closeFrames true frames rest
      else if afterValue then fail frame.commaCause rest
      else .ok (frame :: frames, octet :: rest)

def skipName (input : Bytes) : Except Failure Bytes :=
  match skipBlanks input with
  | [] => fail .endOfObject []
  | octet :: rest =>
    if octet = 0x22 then do
      let rest ← skipString .plain rest
      colon rest
    else fail .keyNotString rest

/-- Skip the opening bracket or brace of a value, and report its frame, or skip the whole value. -/
def skipOpening (octet : UInt8) (rest : Bytes) : Except Failure (Option Frame × Bytes) :=
  let scalar (rest : Except Failure Bytes) : Except Failure (Option Frame × Bytes) :=
    rest.map fun rest => (none, rest)
  if octet = 0x6E then scalar (wordNull rest)
  else if octet = 0x74 then scalar (wordTrue rest)
  else if octet = 0x66 then scalar (wordFalse rest)
  else if octet = 0x2D then scalar ((splitNumeral .invalidNumber rest).map Prod.snd)
  else if Ascii.isDigit octet then
    scalar ((splitNumeral .invalidNumber (octet :: rest)).map Prod.snd)
  else if octet = 0x22 then scalar (skipString .plain rest)
  else if octet = 0x5B then .ok (some .list, rest)
  else if octet = 0x7B then .ok (some .object, rest)
  else fail .expectedValue rest

/-- Skip a value and everything up to the end of the open frames. -/
def skipInside : (fuel : Nat) → List Frame → Bytes → Except Failure Bytes
  | 0, _, _ => fail .endOfValue []
  | fuel + 1, frames, input =>
    match skipBlanks input with
    | [] => fail .endOfValue []
    | octet :: rest => do
      let (opened, rest) ← skipOpening octet rest
      let (frames, rest) ← closeFrames opened.isNone (opened.toList ++ frames) rest
      match frames with
      | [] => .ok rest
      | .list :: _ => skipInside fuel frames rest
      | .object :: _ => do
        let rest ← skipName rest
        skipInside fuel frames rest

def skipValue (fuel : Nat) (input : Bytes) : Except Failure Bytes :=
  skipInside fuel [] input

end Read
end Json
end HttpExchange
