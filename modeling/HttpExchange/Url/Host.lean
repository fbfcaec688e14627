import HttpExchange.Domain.Name
import HttpExchange.Url.Form

/-!
# Hosts
-/

namespace HttpExchange

inductive UrlFault where
  | relative
  | emptyHost
  | invalidPort
  | invalidName
  | invalidCharacter
  /-- The host looks like four numbers and is none. -/
  | invalidIpv4
  | invalidIpv6
  deriving DecidableEq

def UrlFault.message : UrlFault → String
  | relative => "relative URL without a base"
  | emptyHost => "empty host"
  | invalidPort => "invalid port number"
  | invalidName => "invalid international domain name"
  | invalidCharacter => "invalid domain character"
  | invalidIpv4 => "invalid IPv4 address"
  | invalidIpv6 => "invalid IPv6 address"

namespace Host

/-- One part of a numeric address: octal after a zero, hexadecimal after `0x`. -/
def part? : List Char → Option Nat
  | [] => none
  | ['0'] => some 0
  | '0' :: c :: digits =>
    if c = 'x' ∨ c = 'X' then Numeral.value? 16 digits else Numeral.value? 8 (c :: digits)
  | digits => Numeral.value? 10 digits

/-- A name that ends in a number is a numeric address. -/
def endsInNumber (name : List Char) : Bool :=
  let last := match (pieces (· == '.') name).reverse with
    | [] :: last :: _ => last
    | last :: _ => last
    | [] => []
  !last.isEmpty && (last.all Char.isDigit || (part? last).isSome)

/-- The number that the parts of an address stand for, the last part filling what is left. -/
def combine : (places : Nat) → List Nat → Option Nat
  | _, [] => none
  | places, [last] => if last < Nat.pow 256 places then some last else none
  | places, part :: parts =>
    if part < 256 ∧ 0 < places then
      (combine (places - 1) parts).map (part * Nat.pow 256 (places - 1) + ·)
    else none

def ipv4 (name : List Char) : Except UrlFault String :=
  let parts := match (pieces (· == '.') name).reverse with
    | [] :: rest => rest.reverse
    | rest => rest.reverse
  let address := do
    let numbers ← parts.mapM part?
    if parts.length ≤ 4 then combine 4 numbers else none
  match address with
  | none => .error .invalidIpv4
  | some n => .ok (".".intercalate
      ([n / 16777216, n / 65536 % 256, n / 256 % 256, n % 256].map Nat.repr))

/-- A hexadecimal group of an address between brackets. -/
def group? (digits : List Char) : Option Nat :=
  if 1 ≤ digits.length ∧ digits.length ≤ 4 then Numeral.value? 16 digits else none

/-- A decimal number of an address that ends in dotted notation. -/
def dotted? (digits : List Char) : Option Nat := do
  let value ← Numeral.value? 10 digits
  if digits.isEmpty ∨ 3 < digits.length ∨ 255 < value then none
  else if 1 < digits.length ∧ digits.head? = some '0' then none
  else some value

/-- The groups that colons separate; the last may be four dotted numbers, which are two groups. -/
def groups? (chars : List Char) : Option (List Nat) :=
  if chars.isEmpty then some []
  else go (pieces (· == ':') chars)
where
  /-- The groups of the pieces. -/
  go : List (List Char) → Option (List Nat)
    | [] => some []
    | [last] =>
      match pieces (· == '.') last with
      | [a, b, c, d] => do
        let a ← dotted? a
        let b ← dotted? b
        let c ← dotted? c
        let d ← dotted? d
        some [a * 256 + b, c * 256 + d]
      | _ => (group? last).map ([·])
    | piece :: rest => do
      let group ← group? piece
      let groups ← go rest
      some (group :: groups)

/-- Split at the first two colons that stand together. -/
def splitCompressed : (before : List Char) → List Char → Option (List Char × List Char)
  | before, ':' :: ':' :: rest => some (before.reverse, rest)
  | before, c :: rest => splitCompressed (c :: before) rest
  | _, [] => none

def ipv6Groups? (chars : List Char) : Option (List Nat) :=
  match splitCompressed [] chars with
  | none => do
    let groups ← groups? chars
    if groups.length = 8 then some groups else none
  | some (before, after) => do
    if before.contains '.' then none
    let front ← groups? before
    let back ← groups? after
    if front.length + back.length ≤ 7 then
      some (front ++ List.replicate (8 - front.length - back.length) 0 ++ back)
    else none

/-- The length of the run of zeros at the beginning. -/
def zeros (groups : List Nat) : Nat :=
  (groups.takeWhile (· == 0)).length

/-- The position and length of the first longest run of zeros. -/
def longestZeros (groups : List Nat) : Nat × Nat :=
  (List.range groups.length).foldl
    (fun best i =>
      let run := zeros (groups.drop i)
      if best.2 < run then (i, run) else best)
    (0, 0)

def showGroups (groups : List Nat) : String :=
  ":".intercalate (groups.map fun group => String.ofList (Nat.toDigits 16 group))

/-- An address between brackets, written with its longest run of zeros left out. -/
def ipv6 (chars : List Char) : Except UrlFault String :=
  match ipv6Groups? chars with
  | none => .error .invalidIpv6
  | some groups =>
    let (position, length) := longestZeros groups
    if length < 2 then .ok ("[" ++ showGroups groups ++ "]")
    else .ok ("[" ++ showGroups (groups.take position) ++ "::" ++
      showGroups (groups.drop (position + length)) ++ "]")

/-- Characters that no host of an unknown scheme has. -/
def isForbiddenOpaque (c : Char) : Bool :=
  c == '\x00' || "\t\n\r #/:<>?@[\\]^|".toList.contains c

/-- The address between brackets that a host is, if it begins with one. -/
def bracketed? : List Char → Option (Except UrlFault String)
  | '[' :: rest =>
    match rest.reverse with
    | ']' :: inner => some (ipv6 inner.reverse)
    | _ => some (.error .invalidIpv6)
  | _ => none

def ofName (chars : List Char) : Except UrlFault String :=
  match Utf8.decode? (percentDecode (Utf8.encodeChars chars)) with
  | none => .error .invalidName
  | some decoded =>
    match Domain.toAscii? decoded.toList with
    | none => .error .invalidName
    | some name =>
      if name.isEmpty then .error .emptyHost
      else if endsInNumber name then ipv4 name
      else .ok (String.ofList name)

/-- A host of a scheme of which nothing is known. -/
def ofOpaque (chars : List Char) : Except UrlFault String :=
  if chars.any isForbiddenOpaque then .error .invalidCharacter
  else .ok (String.ofList (Escape.chars [] chars))

def parse (chars : List Char) : Except UrlFault String :=
  (bracketed? chars).getD (ofName chars)

end Host
end HttpExchange
