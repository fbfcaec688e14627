import HttpExchange.Json.Fault
import HttpExchange.Text.Ascii

/-!
# The lexemes of JSON text
-/

namespace HttpExchange
namespace Json
namespace Read

def isBlank (octet : UInt8) : Bool :=
  octet == 0x20 || octet == 0x0A || octet == 0x0D || octet == 0x09

def skipBlanks (input : Bytes) : Bytes :=
  input.dropWhile isBlank

def word : (letters : List UInt8) → Bytes → Except Failure Bytes
  | [], input => .ok input
  | _ :: _, [] => fail .endOfValue []
  | letter :: letters, octet :: rest =>
    if octet = letter then word letters rest else fail .expectedWord rest

def wordNull : Bytes → Except Failure Bytes := word [0x75, 0x6C, 0x6C]

def wordTrue : Bytes → Except Failure Bytes := word [0x72, 0x75, 0x65]

def wordFalse : Bytes → Except Failure Bytes := word [0x61, 0x6C, 0x73, 0x65]

/-! ### String literals -/

/-- Where a string literal stands between two octets. -/
inductive Inside where
  | plain
  | escape
  /-- In an escape by code unit: the leading surrogate before it, the number of digits after the
  next one, and the value of the digits so far unless one of them was none. -/
  | hex (leading : Option Nat) (missing : Nat) (value : Option Nat)
  /-- After a leading surrogate, before a backslash. -/
  | second (leading : Nat)
  | secondEscape (leading : Nat)

/-- What an octet does to a string literal. -/
inductive Stroke where
  /-- The literal goes on and has gained the given octets. -/
  | goesOn (next : Inside) (gained : Bytes)
  | ends
  | breaks (cause : Cause)

/-- The octet that a one-letter escape stands for. -/
def shortEscape? (letter : UInt8) : Option UInt8 :=
  if letter = 0x22 ∨ letter = 0x5C ∨ letter = 0x2F then some letter
  else if letter = 0x62 then some 0x08
  else if letter = 0x66 then some 0x0C
  else if letter = 0x6E then some 0x0A
  else if letter = 0x72 then some 0x0D
  else if letter = 0x74 then some 0x09
  else none

def isLeading (unit : Nat) : Bool :=
  0xD800 ≤ unit && unit < 0xDC00

def isTrailing (unit : Nat) : Bool :=
  0xDC00 ≤ unit && unit < 0xE000

/-- The code unit of an escape, after the surrogate `leading` if there was one. -/
def codeUnit (leading : Option Nat) (unit : Nat) : Stroke :=
  match leading with
  | none =>
    if isTrailing unit then .breaks .loneSurrogate
    else if isLeading unit then .goesOn (.second unit) []
    else .goesOn .plain (Utf8.encodeChar (Char.ofNat unit))
  | some leading =>
    if isTrailing unit then
      .goesOn .plain
        (Utf8.encodeChar (Char.ofNat (0x10000 + (leading - 0xD800) * 0x400 + (unit - 0xDC00))))
    else .breaks .loneSurrogate

/-- One octet of a string literal. -/
def stroke (state : Inside) (octet : UInt8) : Stroke :=
  match state with
  | .plain =>
    if octet = 0x22 then .ends
    else if octet = 0x5C then .goesOn .escape []
    else if octet < 0x20 then .breaks .controlCharacter
    else .goesOn .plain [octet]
  | .escape =>
    if octet = 0x75 then .goesOn (.hex none 3 (some 0)) []
    else match shortEscape? octet with
      | some meant => .goesOn .plain [meant]
      | none => .breaks .invalidEscape
  | .hex leading missing value =>
    let value := value.bind fun high => (Ascii.hexValue? octet).map fun low => high * 16 + low
    match missing, value with
    | missing + 1, value => .goesOn (.hex leading missing value) []
    | 0, none => .breaks .invalidEscape
    | 0, some unit => codeUnit leading unit
  | .second leading =>
    if octet = 0x5C then .goesOn (.secondEscape leading) [] else .breaks .unfinishedEscape
  | .secondEscape leading =>
    if octet = 0x75 then .goesOn (.hex (some leading) 3 (some 0)) []
    else .breaks .unfinishedEscape

/-- The octets that a string literal stands for, onto the reversed octets `done`. -/
def contents : Inside → (done : Bytes) → Reader Bytes
  | _, _, [] => fail .endOfString []
  | state, done, octet :: rest =>
    match stroke state octet with
    | .goesOn next gained => contents next (gained.reverseAux done) rest
    | .ends => .ok (done.reverse, rest)
    | .breaks cause => fail cause rest

/-- A string literal after its opening quote.  Its octets must be well-formed text; where they are
not, the place is given before the octets that follow the well-formed beginning. -/
def text : Reader String := fun input => do
  let (octets, rest) ← contents .plain [] input
  match Utf8.decode? octets with
  | some text => .ok (text, rest)
  | none => .error ⟨.invalidCodePoint, rest, Utf8.excess octets⟩

/-! ### Numerals -/

/-- The parts of a numeral without its minus sign. -/
structure Numeral where
  whole : Bytes
  fraction : Bytes
  /-- The sign of the exponent and the input from its first digit, if there is an exponent. -/
  exponent : Option (Bool × Bytes)

/-- The digits after a point, if there is one.  `unfinished` is the cause when the input ends. -/
def fractionDigits (unfinished : Cause) : Reader Bytes
  | 0x2E :: rest =>
    match rest.takeWhile Ascii.isDigit, rest with
    | [], [] => fail unfinished []
    | [], _ :: after => fail .invalidNumber after
    | digits, rest => .ok (digits, rest.dropWhile Ascii.isDigit)
  | input => .ok ([], input)

def exponentSign : Bytes → Bool × Bytes
  | 0x2B :: rest => (false, rest)
  | 0x2D :: rest => (true, rest)
  | input => (false, input)

def exponentPart (unfinished : Cause) : Reader (Option (Bool × Bytes))
  | [] => .ok (none, [])
  | letter :: rest =>
    if letter = 0x65 ∨ letter = 0x45 then
      let (negative, digits) := exponentSign rest
      match digits with
      | [] => fail unfinished []
      | octet :: after =>
        if Ascii.isDigit octet then
          .ok (some (negative, digits), digits.dropWhile Ascii.isDigit)
        else fail .invalidNumber after
    else .ok (none, letter :: rest)

/-- Split a numeral without its minus sign into its parts. -/
def splitNumeral (unfinished : Cause) : Reader Numeral
  | [] => fail unfinished []
  | octet :: rest =>
    if !Ascii.isDigit octet then fail .invalidNumber rest
    else if octet = 0x30 ∧ !(rest.takeWhile Ascii.isDigit).isEmpty then
      fail .invalidNumber (rest.drop 1)
    else do
      let whole := octet :: rest.takeWhile Ascii.isDigit
      let (fraction, rest) ← fractionDigits unfinished (rest.dropWhile Ascii.isDigit)
      let (exponent, rest) ← exponentPart unfinished rest
      .ok (⟨whole, fraction, exponent⟩, rest)

/-- The value of decimal digits after `value`.  Beyond 31 bits it is none, and the input after the
digit that exceeds them is left. -/
def boundedDigits (value : Nat) : Bytes → Option Nat × Bytes
  | [] => (some value, [])
  | octet :: rest =>
    if Ascii.isDigit octet then
      let value := value * 10 + Ascii.digitValue octet
      if value < 2147483648 then boundedDigits value rest else (none, rest)
    else (some value, octet :: rest)

/-- Take digits after `value` while 64 bits hold what they write, and leave the others. -/
def gather (value : Nat) : Bytes → Nat × Bytes
  | [] => (value, [])
  | digit :: digits =>
    let longer := value * 10 + Ascii.digitValue digit
    if longer < UInt64.size then gather longer digits else (value, digit :: digits)

namespace Numeral

/-- The significand of a numeral and its power of ten, the exponent apart.  Of the digits beyond
64 bits only the number counts, and that only in the whole part; the digits of the fraction are
taken after those that were taken of the whole part. -/
def parts (numeral : Numeral) : Nat × Int :=
  let (value, beyond) := gather 0 numeral.whole
  let (significand, dropped) := gather value numeral.fraction
  (significand, beyond.length - (numeral.fraction.length - dropped.length : Nat))

/-- The real number of a numeral, unless it is out of range: the significand is rounded, and then
scaled. -/
def real? (negative : Bool) (numeral : Numeral) (exponent : Int) : Option Number := do
  let (significand, power) := numeral.parts
  let rounded ← Binary64.ofDecimal? negative significand 0
  let scaled ← rounded.scale? (power + exponent)
  some (.real scaled)

/-- An integer of 64 bits with the given sign and magnitude.  Minus zero is none. -/
def integer? (negative : Bool) (magnitude : Nat) : Option Integer :=
  if negative then
    if h : 0 < magnitude ∧ magnitude ≤ 9223372036854775808 then
      some ⟨-(magnitude : Int), by omega, by omega⟩
    else none
  else if h : magnitude < 18446744073709551616 then some ⟨(magnitude : Int), by omega, by omega⟩
  else none

/-- The number that a numeral writes, unless it is out of range. -/
def number? (negative : Bool) (numeral : Numeral) : Option Number :=
  match numeral.exponent with
  | some (down, digits) =>
    match boundedDigits 0 digits with
    | (some power, _) => numeral.real? negative (if down then -(power : Int) else power)
    | (none, _) =>
      if numeral.parts.1 = 0 ∨ down then some (.real (Binary64.zero negative)) else none
  | none =>
    if numeral.fraction.isEmpty then
      match integer? negative (Ascii.natOfDigits numeral.whole) with
      | some n => some (.integer n)
      | none => numeral.real? negative 0
    else numeral.real? negative 0

/-- The input after a numeral that is out of range, or after the digit of its exponent that is one
too many. -/
def excess (numeral : Numeral) (rest : Bytes) : Bytes :=
  match numeral.exponent with
  | some (_, digits) =>
    match boundedDigits 0 digits with
    | (some _, _) => rest
    | (none, after) => after
  | none => rest

end Numeral

/-- The number of a numeral that the input `rest` follows. -/
def evaluate (negative : Bool) (numeral : Numeral) (rest : Bytes) : Except Failure Number :=
  match numeral.number? negative with
  | some n => .ok n
  | none => fail .numberOutOfRange (numeral.excess rest)

def number (negative : Bool) : Reader Number := fun input => do
  let (numeral, rest) ← splitNumeral .endOfValue input
  let n ← evaluate negative numeral rest
  .ok (n, rest)

end Read
end Json
end HttpExchange
