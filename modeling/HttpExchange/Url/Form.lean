import HttpExchange.Text.Ascii
import HttpExchange.Text.Pieces
import HttpExchange.Text.Utf8

/-!
# Escapes, pairs and targets
-/

namespace HttpExchange

namespace Escape

/-- An octet as a percent escape. -/
def octet (octet : UInt8) : List Char :=
  let digit (n : Nat) : Char := if n < 10 then Char.ofNat (0x30 + n) else Char.ofNat (0x37 + n)
  ['%', digit (octet.toNat / 16), digit (octet.toNat % 16)]

/-- Escape controls, characters beyond ASCII, and the given ones. -/
def chars (also : List Char) (source : List Char) : List Char :=
  source.flatMap fun c =>
    if c.toNat < 0x20 ∨ 0x7E < c.toNat ∨ also.contains c then (Utf8.encodeChar c).flatMap octet
    else [c]

/-- What is escaped in a fragment, besides controls. -/
def inFragment : List Char := " \"<>`".toList

def inPath : List Char := inFragment ++ "#?\x7b\x7d".toList

def inCredentials : List Char := inPath ++ "/:;=@[\\]^|".toList

def inQuery : List Char := " \"#<>".toList

end Escape

/-- Replace every escape by the octet it stands for. -/
def percentDecode : Bytes → Bytes
  | [] => []
  | [octet] => [octet]
  | [octet, next] => [octet, next]
  | octet :: high :: low :: rest =>
    if octet = 0x25 then
      match Ascii.hexValue? high, Ascii.hexValue? low with
      | some high, some low => UInt8.ofNat (high * 16 + low) :: percentDecode rest
      | _, _ => octet :: percentDecode (high :: low :: rest)
    else octet :: percentDecode (high :: low :: rest)

namespace Form

def plusToSpace (octet : UInt8) : UInt8 :=
  if octet = 0x2B then 0x20 else octet

/-- The text of a name or value. -/
def component (octets : Bytes) : String :=
  Utf8.decodeLenient (percentDecode (octets.map plusToSpace))

/-- The name and value of a piece; without an equals sign the value is empty. -/
def pair (piece : Bytes) : String × String :=
  (component (piece.takeWhile (· != 0x3D)), component ((piece.dropWhile (· != 0x3D)).drop 1))

/-- The pairs of a query; empty pieces are none. -/
def pairs (query : Bytes) : List (String × String) :=
  ((pieces (· == 0x26) query).filter fun piece => !piece.isEmpty).map pair

end Form

structure Target where
  /-- The path, percent escapes included; what does not begin with a slash is no path. -/
  path : Bytes
  query : Bytes
  deriving DecidableEq

namespace Target

/-- What follows `://` in the octets, if it occurs. -/
def afterScheme? : Bytes → Option Bytes
  | 0x3A :: 0x2F :: 0x2F :: rest => some rest
  | [] => none
  | octet :: rest => if octet = 0x2F then none else afterScheme? rest

def endsAuthority (octet : UInt8) : Bool :=
  octet == 0x2F || octet == 0x3F

def ofLocal (octets : Bytes) : Target :=
  { path := octets.takeWhile (· != 0x3F)
    query := (octets.dropWhile (· != 0x3F)).drop 1 }

def rooted (target : Target) : Target :=
  if target.path.isEmpty then { target with path := [0x2F] } else target

def hasPath (target : Target) : Bool :=
  target.path.head? == some 0x2F

def parse (target : Bytes) : Target :=
  let octets := target.takeWhile (· != 0x23)
  match afterScheme? octets with
  | some rest => (ofLocal (rest.dropWhile fun octet => !endsAuthority octet)).rooted
  | none => ofLocal octets

end Target

end HttpExchange
