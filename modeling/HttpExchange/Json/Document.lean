import HttpExchange.Json.Lexeme

/-!
# JSON documents
-/

namespace HttpExchange
namespace Json
namespace Read

def maximalDepth : Nat := 127

/-- After the opening bracket of an array (`first`) or an element: whether another element follows,
and the input at that element or at the closing bracket. -/
def nextElement (first : Bool) (input : Bytes) : Except Failure (Bool × Bytes) :=
  match skipBlanks input with
  | [] => fail .endOfList []
  | octet :: rest =>
    if octet = 0x5D then .ok (false, octet :: rest)
    else if first then .ok (true, octet :: rest)
    else if octet = 0x2C then
      match skipBlanks rest with
      | [] => fail .endOfValue []
      | octet :: rest =>
        if octet = 0x5D then fail .trailingComma rest else .ok (true, octet :: rest)
    else fail .expectedListCommaOrEnd rest

/-- After the opening brace of an object (`first`) or a member: whether another member follows, and
the input after the opening quote of its name or at the closing brace. -/
def nextMember (first : Bool) (input : Bytes) : Except Failure (Bool × Bytes) :=
  match skipBlanks input with
  | [] => fail .endOfObject []
  | octet :: rest =>
    if octet = 0x7D then .ok (false, octet :: rest)
    else if first then
      if octet = 0x22 then .ok (true, rest) else fail .keyNotString rest
    else if octet = 0x2C then
      match skipBlanks rest with
      | [] => fail .endOfValue []
      | octet :: rest =>
        if octet = 0x22 then .ok (true, rest)
        else if octet = 0x7D then fail .trailingComma rest
        else fail .keyNotString rest
    else fail .expectedObjectCommaOrEnd rest

def colon (input : Bytes) : Except Failure Bytes :=
  match skipBlanks input with
  | [] => fail .endOfObject []
  | octet :: rest => if octet = 0x3A then .ok rest else fail .expectedColon rest

/-- The elements of an array up to its closing bracket, onto the reversed elements `done`. -/
def elements (element : Reader Value) : (fuel : Nat) → (first : Bool) → (done : List Value) →
    Reader (List Value)
  | 0, _, _, _ => fail .endOfList []
  | fuel + 1, first, done, input => do
    let (more, input) ← nextElement first input
    if more then
      let (value, rest) ← element input
      elements element fuel false (value :: done) rest
    else .ok (done.reverse, input.drop 1)

/-- The members of an object up to its closing brace, onto the reversed members `done`. -/
def members (element : Reader Value) : (fuel : Nat) → (first : Bool) →
    (done : List (String × Value)) → Reader (List (String × Value))
  | 0, _, _, _ => fail .endOfObject []
  | fuel + 1, first, done, input => do
    let (more, input) ← nextMember first input
    if more then
      let (name, rest) ← text input
      let rest ← colon rest
      let (value, rest) ← element rest
      members element fuel false ((name, value) :: done) rest
    else .ok (done.reverse, input.drop 1)

/-- A value whose first octet is `octet`, inside which `nested` reads values, if any are allowed. -/
def valueFrom (fuel : Nat) (nested : Option (Reader Value)) (octet : UInt8) (rest : Bytes) :
    Except Failure (Value × Bytes) :=
  if octet = 0x6E then do
    let rest ← wordNull rest
    .ok (.null, rest)
  else if octet = 0x74 then do
    let rest ← wordTrue rest
    .ok (.bool true, rest)
  else if octet = 0x66 then do
    let rest ← wordFalse rest
    .ok (.bool false, rest)
  else if octet = 0x2D then do
    let (n, rest) ← number true rest
    .ok (.number n, rest)
  else if Ascii.isDigit octet then do
    let (n, rest) ← number false (octet :: rest)
    .ok (.number n, rest)
  else if octet = 0x22 then do
    let (s, rest) ← text rest
    .ok (.string s, rest)
  else if octet = 0x5B then
    match nested with
    | none => fail .tooDeep rest
    | some nested => do
      let (values, rest) ← elements nested fuel true [] rest
      .ok (.array values, rest)
  else if octet = 0x7B then
    match nested with
    | none => fail .tooDeep rest
    | some nested => do
      let (entries, rest) ← members nested fuel true [] rest
      .ok (Value.ofEntries entries, rest)
  else fail .expectedValue rest

/-- A value with at most `depth` arrays and objects inside one another. -/
def value (fuel : Nat) : (depth : Nat) → Reader Value
  | 0, input =>
    match skipBlanks input with
    | [] => fail .endOfValue []
    | octet :: rest => valueFrom fuel none octet rest
  | depth + 1, input =>
    match skipBlanks input with
    | [] => fail .endOfValue []
    | octet :: rest => valueFrom fuel (some (value fuel depth)) octet rest

/-- Read the whole input by a reader that is given the fuel for the input. -/
def whole {α : Type} (reader : (fuel : Nat) → Reader α) (input : Bytes) : Except Fault α :=
  match reader (input.length + 1) input with
  | .error failure => .error (failure.locate input)
  | .ok (result, rest) =>
    match skipBlanks rest with
    | [] => .ok result
    | _ :: rest => .error (Failure.locate input ⟨.trailingCharacters, rest, 0⟩)

end Read

def Value.parse (document : Bytes) : Except Fault Value :=
  Read.whole (Read.value · Read.maximalDepth) document

end Json
end HttpExchange
