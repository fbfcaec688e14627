/-!
# ASCII conventions
-/

namespace HttpExchange
namespace Ascii

def lower (text : String) : String :=
  text.map Char.toLower

def upper (text : String) : String :=
  text.map Char.toUpper

/-- Equality up to the case of ASCII letters. -/
def sameName (left right : String) : Bool :=
  lower left == lower right

@[simp]
theorem sameName_refl (name : String) : sameName name name := by
  simp [sameName]

def isDigit (octet : UInt8) : Bool :=
  0x30 ≤ octet && octet ≤ 0x39

def digitValue (octet : UInt8) : Nat :=
  octet.toNat - 0x30

/-- The value of a hexadecimal digit of either case. -/
def hexValue? (octet : UInt8) : Option Nat :=
  let n := octet.toNat
  if 0x30 ≤ n ∧ n ≤ 0x39 then some (n - 0x30)
  else if 0x41 ≤ n ∧ n ≤ 0x46 then some (n - 0x37)
  else if 0x61 ≤ n ∧ n ≤ 0x66 then some (n - 0x57)
  else none

def isLetter (octet : UInt8) : Bool :=
  0x41 ≤ octet && octet ≤ 0x5A || 0x61 ≤ octet && octet ≤ 0x7A

/-- The marks ``! # $ % & ' * + - . ^ _ ` | ~``. -/
def tokenMarks : List UInt8 :=
  [0x21, 0x23, 0x24, 0x25, 0x26, 0x27, 0x2A, 0x2B, 0x2D, 0x2E, 0x5E, 0x5F, 0x60, 0x7C, 0x7E]

/-- The octet may occur in a token: a letter, a digit or a token mark. -/
def isTokenOctet (octet : UInt8) : Bool :=
  isLetter octet || isDigit octet || tokenMarks.contains octet

/-- The octet is a visible character, a space or a tab. -/
def isFieldOctet (octet : UInt8) : Bool :=
  0x20 ≤ octet && octet ≤ 0x7E || octet == 0x09

/-- The number that decimal digits write, the most significant first. -/
def natOfDigits (digits : List UInt8) : Nat :=
  digits.foldl (fun value digit => value * 10 + digitValue digit) 0

/-- An unsigned decimal below `bound`: digits, at least one, after an optional plus sign. -/
def unsigned? (bound : Nat) (octets : List UInt8) : Option Nat :=
  let digits := match octets with
    | 0x2B :: rest => rest
    | other => other
  if !digits.isEmpty && digits.all isDigit && natOfDigits digits < bound then
    some (natOfDigits digits)
  else
    none

end Ascii

namespace Numeral

def digit? (base : Nat) (c : Char) : Option Nat := do
  let value ← if c.toNat < 0x80 then Ascii.hexValue? (UInt8.ofNat c.toNat) else none
  if value < base then some value else none

/-- The number that digits write; no digits write zero. -/
def value? (base : Nat) (digits : List Char) : Option Nat :=
  digits.foldlM (fun value c => (digit? base c).map (value * base + ·)) 0

end Numeral

end HttpExchange
