import HttpExchange.Json.Printer
import HttpExchange.Text.Utf8

/-!
# Request bodies
-/

namespace HttpExchange

structure WindowFault where
  offset : Nat
  length : Nat
  /-- How many octets the buffer has. -/
  available : Nat
  deriving DecidableEq

def WindowFault.message (fault : WindowFault) : String :=
  "view of " ++ Nat.repr fault.length ++ " bytes at offset " ++ Nat.repr fault.offset ++
    " exceeds backing buffer of " ++ Nat.repr fault.available ++ " bytes"

/-- A window of a buffer. -/
structure Window where
  backing : Bytes
  offset : Nat
  length : Nat
  within : offset + length ≤ backing.length
  deriving DecidableEq

namespace Window

/-- The window of `length` octets from `offset`, if the buffer has them. -/
def ofBuffer (backing : Bytes) (offset length : Nat) : Except WindowFault Window :=
  if within : offset + length ≤ backing.length then .ok ⟨backing, offset, length, within⟩
  else .error ⟨offset, length, backing.length⟩

def bytes (window : Window) : Bytes :=
  (window.backing.drop window.offset).take window.length

def isEmpty (window : Window) : Bool :=
  window.length == 0

@[simp]
theorem length_bytes (window : Window) : window.bytes.length = window.length := by
  have := window.within
  simp only [bytes, List.length_take, List.length_drop]
  omega

end Window

inductive Body where
  | empty
  | text (content : String)
  | octets (content : Bytes)
  | window (part : Window)
  deriving DecidableEq

namespace Body

instance : Inhabited Body := ⟨empty⟩

def bytes : Body → Bytes
  | empty => []
  | text content => Utf8.encode content
  | octets content => content
  | window part => part.bytes

def length : Body → Nat
  | empty => 0
  | text content => content.utf8ByteSize
  | octets content => content.length
  | window part => part.length

def isEmpty (body : Body) : Bool :=
  body.length == 0

/-- A JSON value as compact text. -/
def ofJson (value : Json.Value) : Body :=
  .text value.text

end Body
end HttpExchange
