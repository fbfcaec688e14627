import HttpExchange.Json.Ignored

/-!
# Reading JSON into known types
-/

namespace HttpExchange
namespace Json
namespace Read

/-- The failure of a value that is not what was wanted.  A scalar is taken first, so that what is
wrong inside it comes first. -/
def mismatch {α : Type} (wanted : String) (octet : UInt8) (rest : Bytes) : Except Failure α :=
  let wrong (found : Found) (rest : Bytes) : Except Failure α := fail (.wrongType found wanted) rest
  if octet = 0x6E then do
    let rest ← wordNull rest
    wrong .null rest
  else if octet = 0x74 then do
    let rest ← wordTrue rest
    wrong (.bool true) rest
  else if octet = 0x66 then do
    let rest ← wordFalse rest
    wrong (.bool false) rest
  else if octet = 0x2D then do
    let (n, rest) ← number true rest
    wrong (.number n) rest
  else if Ascii.isDigit octet then do
    let (n, rest) ← number false (octet :: rest)
    wrong (.number n) rest
  else if octet = 0x22 then do
    let (s, rest) ← text rest
    wrong (.string s) rest
  else if octet = 0x5B then wrong .sequence (octet :: rest)
  else if octet = 0x7B then wrong .map (octet :: rest)
  else fail .expectedValue rest

def bool : Reader Bool := fun input =>
  match skipBlanks input with
  | [] => fail .endOfValue []
  | octet :: rest =>
    if octet = 0x74 then do
      let rest ← wordTrue rest
      .ok (true, rest)
    else if octet = 0x66 then do
      let rest ← wordFalse rest
      .ok (false, rest)
    else mismatch "a boolean" octet rest

def string : Reader String := fun input =>
  match skipBlanks input with
  | [] => fail .endOfValue []
  | octet :: rest => if octet = 0x22 then text rest else mismatch "a string" octet rest

def unit (input : Bytes) : Except Failure Bytes :=
  match skipBlanks input with
  | [] => fail .endOfValue []
  | octet :: rest => if octet = 0x6E then wordNull rest else mismatch "unit" octet rest

def choose {α : Type} (table : List (String × α)) (name : String) (rest : Bytes) :
    Except Failure α :=
  match table.lookup name with
  | some choice => .ok choice
  | none => fail (.unknownVariant name (table.map Prod.fst)) rest

/-- A named variant where `depth` more arrays and objects may be opened. -/
def variant {α : Type} (table : List (String × α)) (depth : Nat) : Reader α := fun input =>
  match skipBlanks input with
  | [] => fail .endOfValue []
  | octet :: rest =>
    if octet = 0x22 then do
      let (name, rest) ← text rest
      let choice ← choose table name rest
      .ok (choice, rest)
    else if octet = 0x7B then
      if depth = 0 then fail .tooDeep rest
      else
        match skipBlanks rest with
        | [] => fail .endOfObject []
        | octet :: rest =>
          if octet = 0x22 then do
            let (name, rest) ← text rest
            let choice ← choose table name rest
            let rest ← colon rest
            let rest ← unit rest
            match skipBlanks rest with
            | [] => fail .endOfObject []
            | octet :: rest =>
              if octet = 0x7D then .ok (choice, rest) else fail .expectedValue (octet :: rest)
          else if octet = 0x7D then fail .expectedValue rest
          else fail .keyNotString rest
    else fail .expectedValue rest

structure Field (σ : Type) where
  name : String
  read : σ → Reader σ

/-- The closing bracket after the last field of a record that is written as an array. -/
def closeArray (input : Bytes) : Except Failure Bytes :=
  match skipBlanks input with
  | [] => fail .endOfList []
  | octet :: rest =>
    if octet = 0x5D then .ok rest
    else if octet = 0x2C then
      match skipBlanks rest with
      | [] => fail .trailingCharacters []
      | octet :: rest =>
        if octet = 0x5D then fail .trailingComma rest else fail .trailingCharacters rest
    else fail .trailingCharacters rest

/-- The fields of a record in their order, up to the closing bracket. -/
def inOrder {σ : Type} : (fields : List (Field σ)) → (first : Bool) → (record : σ) → Reader σ
  | [], _, record, input => do
    let rest ← closeArray input
    .ok (record, rest)
  | field :: fields, first, record, input => do
    let (more, input) ← nextElement first input
    if more then
      let (record, rest) ← field.read record input
      inOrder fields false record rest
    else .ok (record, input.drop 1)

/-- The place of a repeated field: after blanks, and after the closing brace if it is next. -/
def afterRepeated (input : Bytes) : Bytes :=
  match skipBlanks input with
  | [] => []
  | octet :: rest => if octet = 0x7D then rest else octet :: rest

/-- The members of an object that is read as a record, up to the closing brace.  `seen` holds the
names of the fields that were read. -/
def byName {σ : Type} (fields : List (Field σ)) (size : Nat) : (fuel : Nat) → (first : Bool) →
    (seen : List String) → (record : σ) → Reader σ
  | 0, _, _, _, _ => fail .endOfObject []
  | fuel + 1, first, seen, record, input => do
    let (more, input) ← nextMember first input
    if more then
      let (name, rest) ← text input
      match fields.find? fun field => field.name == name with
      | none =>
        let rest ← colon rest
        let rest ← skipValue size rest
        byName fields size fuel false seen record rest
      | some field =>
        if seen.contains name then fail (.duplicateField name) (afterRepeated rest)
        else
          let rest ← colon rest
          let (record, rest) ← field.read record rest
          byName fields size fuel false (name :: seen) record rest
    else .ok (record, input.drop 1)

/-- A record of the given fields, which starts as `initial`. -/
def record {σ : Type} (wanted : String) (fields : List (Field σ)) (initial : σ) (fuel : Nat) :
    Reader σ := fun input =>
  match skipBlanks input with
  | [] => fail .endOfValue []
  | octet :: rest =>
    if octet = 0x5B then inOrder fields true initial rest
    else if octet = 0x7B then byName fields fuel fuel true [] initial rest
    else mismatch wanted octet rest

end Read
end Json
end HttpExchange
