import HttpExchange.Json.Value

/-!
# Compact JSON text

`Value.spelling` is the text of a value, and `Value.text` computes it in one pass (`text_eq`).
-/

namespace HttpExchange
namespace Json

def hexDigit (n : Nat) : Char :=
  if n < 10 then Char.ofNat (0x30 + n) else Char.ofNat (0x57 + n)

def escapeChar (c : Char) : List Char :=
  if c = '"' then ['\\', '"']
  else if c = '\\' then ['\\', '\\']
  else if c = '\x08' then ['\\', 'b']
  else if c = '\x0c' then ['\\', 'f']
  else if c = '\n' then ['\\', 'n']
  else if c = '\r' then ['\\', 'r']
  else if c = '\t' then ['\\', 't']
  else if c.toNat < 0x20 then
    ['\\', 'u', '0', '0', hexDigit (c.toNat / 16), hexDigit (c.toNat % 16)]
  else [c]

def escape (chars : List Char) : List Char :=
  chars.flatMap escapeChar

def quote (text : String) : List Char :=
  '"' :: escape text.toList ++ ['"']

def quoted (text : String) : String :=
  String.ofList (quote text)

def Integer.spelling (n : Integer) : List Char :=
  if n.value < 0 then '-' :: Nat.toDigits 10 n.value.natAbs else Nat.toDigits 10 n.value.natAbs

def Number.spelling : Number → List Char
  | .integer n => n.spelling
  | .real x => x.text.toList

def Number.text (n : Number) : String :=
  String.ofList n.spelling

namespace Value

mutual

def spelling : Value → List Char
  | null => "null".toList
  | bool true => "true".toList
  | bool false => "false".toList
  | number n => n.spelling
  | string s => quote s
  | array elements => '[' :: spellElements true elements ++ [']']
  | object members => '{' :: spellMembers true members ++ ['}']

def spellElements : (first : Bool) → List Value → List Char
  | _, [] => []
  | first, element :: elements =>
    (if first then [] else [',']) ++ spelling element ++ spellElements false elements

def spellMembers : (first : Bool) → List (String × Value) → List Char
  | _, [] => []
  | first, (name, value) :: members =>
    (if first then [] else [',']) ++ quote name ++ ':' :: spelling value ++
      spellMembers false members

end

/-- Put characters onto reversed output. -/
def emit (done chars : List Char) : List Char :=
  chars.reverseAux done

theorem emit_eq (done chars : List Char) : emit done chars = chars.reverse ++ done := by
  simp [emit]

mutual

/-- Write a value onto reversed output. -/
def write (done : List Char) : Value → List Char
  | null => emit done "null".toList
  | bool true => emit done "true".toList
  | bool false => emit done "false".toList
  | number n => emit done n.spelling
  | string s => emit done (quote s)
  | array elements => ']' :: writeElements ('[' :: done) true elements
  | object members => '}' :: writeMembers ('{' :: done) true members

def writeElements (done : List Char) : (first : Bool) → List Value → List Char
  | _, [] => done
  | first, element :: elements =>
    writeElements (write (if first then done else ',' :: done) element) false elements

def writeMembers (done : List Char) : (first : Bool) → List (String × Value) → List Char
  | _, [] => done
  | first, (name, value) :: members =>
    writeMembers
      (write (':' :: emit (if first then done else ',' :: done) (quote name)) value) false members

end

def text (value : Value) : String :=
  String.ofList (value.write []).reverse

mutual

theorem write_eq (value : Value) (done : List Char) :
    write done value = (spelling value).reverse ++ done := by
  cases value with
  | null => simp [write, spelling, emit_eq]
  | bool b => cases b <;> simp [write, spelling, emit_eq]
  | number n => simp [write, spelling, emit_eq]
  | string s => simp [write, spelling, emit_eq]
  | array elements => simp [write, spelling, writeElements_eq elements]
  | object members => simp [write, spelling, writeMembers_eq members]

theorem writeElements_eq (elements : List Value) (done : List Char) (first : Bool) :
    writeElements done first elements = (spellElements first elements).reverse ++ done := by
  cases elements with
  | nil => simp [writeElements, spellElements]
  | cons element elements =>
    rw [writeElements, writeElements_eq elements, write_eq element]
    cases first <;> simp [spellElements]

theorem writeMembers_eq (members : List (String × Value)) (done : List Char) (first : Bool) :
    writeMembers done first members = (spellMembers first members).reverse ++ done := by
  cases members with
  | nil => simp [writeMembers, spellMembers]
  | cons member members =>
    obtain ⟨name, value⟩ := member
    rw [writeMembers, writeMembers_eq members, write_eq value]
    cases first <;> simp [spellMembers, emit_eq]

end

theorem text_eq (value : Value) : value.text = String.ofList value.spelling := by
  simp [text, write_eq]

end Value
end Json
end HttpExchange
