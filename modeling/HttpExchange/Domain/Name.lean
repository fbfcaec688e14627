import HttpExchange.Domain.Composition
import HttpExchange.Domain.Direction
import HttpExchange.Domain.Joining
import HttpExchange.Domain.Mapping
import HttpExchange.Text.Ascii
import HttpExchange.Text.Pieces

/-!
# Domain names

Labels that are not of ASCII are written in Punycode.
-/

namespace HttpExchange

namespace Punycode

def base : Nat := 36

/-- The digit of a value: the small letters, and then the decimal digits. -/
def digit (value : Nat) : Char :=
  if value < 26 then Char.ofNat (0x61 + value) else Char.ofNat (0x30 + (value - 26))

def value? (c : Char) : Option Nat :=
  if 'a' ≤ c ∧ c ≤ 'z' then some (c.toNat - 0x61)
  else if '0' ≤ c ∧ c ≤ '9' then some (c.toNat - 0x30 + 26)
  else none

/-- The least value of a digit that is not the last, where `place` counts up by the base. -/
def threshold (bias place : Nat) : Nat :=
  if place ≤ bias then 1 else if bias + 26 ≤ place then 26 else place - bias

theorem threshold_pos (bias place : Nat) : 0 < threshold bias place := by
  rw [threshold]
  split
  · omega
  · split <;> omega

/-- Divide a number until it is small, and count the divisions by the base. -/
def scale (number count : Nat) : Nat :=
  if 455 < number then scale (number / 35) (count + base)
  else count + base * number / (number + 38)
termination_by number
decreasing_by exact Nat.div_lt_self (by omega) (by omega)

/-- The bias of the next number, after a number that made `points` characters of a label. -/
def adapt (number points : Nat) (isFirst : Bool) : Nat :=
  let damped := number / (if isFirst then 700 else 2)
  scale (damped + damped / points) 0

def digits (bias place number : Nat) : List Char :=
  if number < threshold bias place then [digit number]
  else
    let excess := number - threshold bias place
    let range := base - threshold bias place
    digit (threshold bias place + excess % range) :: digits bias (place + base) (excess / range)
termination_by number
decreasing_by
  have := threshold_pos bias place
  exact Nat.lt_of_le_of_lt (Nat.div_le_self _ _) (by omega)

structure Encoder where
  written : List Char
  /-- How far the next insertion is from the last. -/
  distance : Nat
  bias : Nat
  done : Nat

/-- Pass a character of the label when the characters below `point` are written. -/
def Encoder.pass (basic point : Nat) (encoder : Encoder) (c : Char) : Encoder :=
  if c.toNat < point then { encoder with distance := encoder.distance + 1 }
  else if c.toNat = point then
    { written := encoder.written ++ digits encoder.bias base encoder.distance
      distance := 0
      bias := adapt encoder.distance (encoder.done + 1) (encoder.done == basic)
      done := encoder.done + 1 }
  else encoder

/-- Write the characters of the given code points, which increase from `point` on. -/
def Encoder.write (label : List Char) (basic : Nat) :
    (point : Nat) → List Nat → Encoder → Encoder
  | _, [], encoder => encoder
  | point, next :: points, encoder =>
    let distance := encoder.distance + (next - point) * (encoder.done + 1)
    let passed := label.foldl (pass basic next) { encoder with distance := distance }
    write label basic (next + 1) points { passed with distance := passed.distance + 1 }

def insert (number : Nat) : List Nat → List Nat
  | [] => [number]
  | first :: rest =>
    if number < first then number :: first :: rest
    else if number = first then first :: rest
    else first :: insert number rest

/-- The code points of a label beyond ASCII, in increasing order. -/
def beyond (label : List Char) : List Nat :=
  ((label.map Char.toNat).filter (0x80 ≤ ·)).foldr insert []

def encode (label : List Char) : List Char :=
  let basic := label.filter fun c => c.toNat < 0x80
  let encoder := Encoder.write label basic.length 0x80 (beyond label) ⟨[], 0, 72, basic.length⟩
  (if basic.isEmpty then [] else basic ++ ['-']) ++ encoder.written

/-- The numbers of a decoder stay below this. -/
def bound : Nat := 4294967296

/-- Add a number to `total`, digit by digit; the rest follows it. -/
def read? (bias : Nat) :
    (place weight total : Nat) → List Char → Option (Nat × List Char)
  | _, _, _, [] => none
  | place, weight, total, c :: rest => do
    let value ← value? c
    let total := total + value * weight
    let weight := weight * (base - threshold bias place)
    if bound ≤ total then none
    else if value < threshold bias place then some (total, rest)
    else if bound ≤ weight then none
    else read? bias (place + base) weight total rest

theorem length_read?_lt (bias place weight total : Nat) (chars : List Char)
    {result : Nat × List Char} (read : read? bias place weight total chars = some result) :
    result.2.length < chars.length := by
  induction chars generalizing place weight total with
  | nil => simp [read?] at read
  | cons c rest ih =>
    simp only [read?, Option.bind_eq_bind, Option.bind_eq_some_iff] at read
    obtain ⟨value, _, read⟩ := read
    split at read
    · simp at read
    · split at read
      · obtain rfl := Option.some.inj read
        simp
      · split at read
        · simp at read
        · exact Nat.lt_succ_of_lt (ih _ _ _ read)

def isCharacter (point : Nat) : Bool :=
  point < 0xD800 || (0xDFFF < point && point < 0x110000)

/-- Insert the characters that numbers tell into a label.  The next number counts from `position` in
a label of characters from `point` on. -/
def insertAll (bias point position : Nat) (label : List Char) (chars : List Char) :
    Option (List Char) :=
  if chars.isEmpty then some label
  else
    match _found : read? bias base 1 position chars with
    | none => none
    | some (total, rest) =>
      let places := label.length + 1
      let point := point + total / places
      if isCharacter point then
        insertAll (adapt (total - position) places (position == 0)) point (total % places + 1)
          (label.insertIdx (total % places) (Char.ofNat point)) rest
      else none
termination_by chars.length
decreasing_by exact length_read?_lt _ _ _ _ _ ‹_›

/-- The label that is written in ASCII.  What precedes the last dash are its ASCII characters. -/
def decode? (chars : List Char) : Option (List Char) :=
  match (pieces (· == '-') chars).reverse with
  | numbers :: first :: others =>
    let basic := ['-'].intercalate (first :: others).reverse
    insertAll 72 0x80 0 basic (if basic.isEmpty then chars else numbers)
  | _ => insertAll 72 0x80 0 [] chars

end Punycode

namespace Domain

def marker : List Char := "xn--".toList

def decodeLimit : Nat := 2000

def encodeLimit : Nat := 1000

/-- ASCII characters that no domain name has: controls, the space, and delimiters. -/
def isForbidden (c : Char) : Bool :=
  c.toNat ≤ 0x20 || c.toNat == 0x7F || "%#/:<>?@[\\]^|".toList.contains c

/-- The label that a writing stands for.  It must be one that is not changed by replacing and
composing characters. -/
def decoded? (writing : List Char) : Option (List Char) := do
  if !writing.all Mapping.isAscii || writing.getLast? == some '-' then none
  if writing.isEmpty || decodeLimit < writing.length then none
  let label ← Punycode.decode? writing
  if label.all Mapping.isKept && Composition.normalize label == label then some label else none

def viramaClass : Nat := 9

/-- The label does not begin with a mark, has joiners only where they belong, and can be encoded. -/
def isSound (label : List Char) : Bool :=
  label.all Mapping.isAscii ||
    (!label.head?.any Joining.isMark &&
      Joining.allAllowed (fun c => Composition.classOf c.toNat == viramaClass) [] label &&
      label.length ≤ encodeLimit)

/-- A label, decoded if it is the writing of another. -/
def label? (chars : List Char) : Option (List Char) := do
  let label ← if marker.isPrefixOf chars then decoded? (chars.drop marker.length) else some chars
  if isSound label then some label else none

def inAscii (label : List Char) : List Char :=
  if label.all Mapping.isAscii then label else marker ++ Punycode.encode label

def labels? (chars : List Char) : Option (List (List Char)) := do
  let mapped ← Mapping.ofChars? chars
  let normal := if mapped.all Mapping.isAscii then mapped else Composition.normalize mapped
  if normal.any isForbidden then none
  let labels ← (pieces (· == '.') normal).mapM label?
  if labels.all (·.all Mapping.isAscii) || Direction.allKeepOne labels then some labels else none

def toAscii? (chars : List Char) : Option (List Char) :=
  (labels? chars).map fun labels => ['.'].intercalate (labels.map inAscii)

end Domain

end HttpExchange
