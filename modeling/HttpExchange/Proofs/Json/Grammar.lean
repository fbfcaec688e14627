import HttpExchange.Json.Document
import HttpExchange.Proofs.Json.Value

/-!
# The grammar of JSON

Which octets write which value.  Nothing here tells how a document is read, but for the value of a
numeral, which is the one that `Numeral.number?` rounds its digits to.
-/

namespace HttpExchange
namespace Json
namespace Grammar

/-- Every octet is a blank. -/
def Blanks (octets : Bytes) : Prop :=
  ∀ octet ∈ octets, Read.isBlank octet = true

/-- Every octet is a digit, and there is one. -/
def Digits (octets : Bytes) : Prop :=
  octets ≠ [] ∧ ∀ octet ∈ octets, Ascii.isDigit octet = true

/-! ### Texts -/

/-- The characters that an escape of one letter stands for. -/
def shortEscapes : List (UInt8 × Char) :=
  [(0x22, '"'), (0x5C, '\\'), (0x2F, '/'), (0x62, '\x08'), (0x66, '\x0C'), (0x6E, '\n'),
    (0x72, '\r'), (0x74, '\t')]

/-- The number that hexadecimal digits write after the digits of `value`. -/
def hexNumber? (value : Nat) (digits : Bytes) : Option Nat :=
  digits.foldlM (fun value digit => (Ascii.hexValue? digit).map (value * 16 + ·)) value

@[simp]
theorem hexNumber?_nil (value : Nat) : hexNumber? value [] = some value := rfl

theorem hexNumber?_cons {value unit : Nat} {digit : UInt8} {digits : Bytes} :
    hexNumber? value (digit :: digits) = some unit ↔
      ∃ low, Ascii.hexValue? digit = some low ∧
        hexNumber? (value * 16 + low) digits = some unit := by
  simp only [hexNumber?, List.foldlM_cons]
  cases Ascii.hexValue? digit <;> simp

/-- Four hexadecimal digits write a code unit. -/
def CodeUnit (digits : Bytes) (unit : Nat) : Prop :=
  digits.length = 4 ∧ hexNumber? 0 digits = some unit

/-- An escape stands for a character. -/
inductive Escape : Bytes → Char → Prop
  | short {letter : UInt8} {c : Char} (known : (letter, c) ∈ shortEscapes) :
      Escape [0x5C, letter] c
  /-- A code unit that is no surrogate. -/
  | unit {digits : Bytes} {unit : Nat} (written : CodeUnit digits unit)
      (scalar : unit < 0xD800 ∨ 0xDFFF < unit) :
      Escape (0x5C :: 0x75 :: digits) (Char.ofNat unit)
  /-- A leading and a trailing surrogate. -/
  | pair {first second : Bytes} {high low : Nat} (written : CodeUnit first high)
      (also : CodeUnit second low) (leading : 0xD800 ≤ high ∧ high < 0xDC00)
      (trailing : 0xDC00 ≤ low ∧ low < 0xE000) :
      Escape (0x5C :: 0x75 :: (first ++ 0x5C :: 0x75 :: second))
        (Char.ofNat (0x10000 + (high - 0xD800) * 0x400 + (low - 0xDC00)))

/-- What stands between quotes writes a text. -/
inductive Literal : Bytes → List Char → Prop
  | empty : Literal [] []
  /-- A character other than quotes, backslashes and control characters may stand as it is. -/
  | char {c : Char} {octets : Bytes} {text : List Char} (plain : c ≠ '"' ∧ c ≠ '\\')
      (visible : 0x20 ≤ c.toNat) (further : Literal octets text) :
      Literal (Utf8.encodeChar c ++ octets) (c :: text)
  | escape {escape : Bytes} {c : Char} {octets : Bytes} {text : List Char}
      (escaped : Escape escape c) (further : Literal octets text) :
      Literal (escape ++ octets) (c :: text)

/-! ### Numbers -/

/-- The whole part of a numeral.  It begins with zero only if it is zero. -/
inductive Whole : Bytes → Prop
  | zero : Whole [0x30]
  | digits {first : UInt8} {others : Bytes} (digits : Digits (first :: others))
      (nonzero : first ≠ 0x30) : Whole (first :: others)

theorem Whole.digital {whole : Bytes} (wholly : Whole whole) : Digits whole := by
  cases wholly with
  | zero => exact ⟨List.cons_ne_nil _ _, List.forall_mem_singleton.2 rfl⟩
  | digits digits => exact digits

/-- The fraction of a numeral, if there is one, and its digits. -/
inductive Fraction : Bytes → Bytes → Prop
  | absent : Fraction [] []
  | present {digits : Bytes} (digital : Digits digits) : Fraction (0x2E :: digits) digits

/-- The sign of an exponent; whether it is negative. -/
inductive Sign : Bytes → Bool → Prop
  | absent : Sign [] false
  | plus : Sign [0x2B] false
  | minus : Sign [0x2D] true

/-- The exponent of a numeral, if there is one: its sign and digits. -/
inductive Exponent : Bytes → Option (Bool × Bytes) → Prop
  | absent : Exponent [] none
  | present {letter : UInt8} {sign digits : Bytes} {negative : Bool}
      (either : letter = 0x65 ∨ letter = 0x45) (signed : Sign sign negative)
      (digital : Digits digits) : Exponent (letter :: (sign ++ digits)) (some (negative, digits))

/-- A numeral writes a number that is not out of range: the one to which its digits are rounded. -/
inductive Numeral : Bytes → Number → Prop
  | intro {negative : Bool} {whole fraction digits power : Bytes}
      {exponent : Option (Bool × Bytes)} {n : Number} (wholly : Whole whole)
      (fractional : Fraction fraction digits) (scaled : Exponent power exponent)
      (number : Read.Numeral.number? negative ⟨whole, digits, exponent⟩ = some n) :
      Numeral ((if negative then [0x2D] else []) ++ (whole ++ (fraction ++ power))) n

/-! ### Values -/

/-- What has no parts. -/
inductive Scalar : Bytes → Value → Prop
  | null : Scalar [0x6E, 0x75, 0x6C, 0x6C] .null
  | true : Scalar [0x74, 0x72, 0x75, 0x65] (.bool true)
  | false : Scalar [0x66, 0x61, 0x6C, 0x73, 0x65] (.bool false)
  | number {octets : Bytes} {n : Number} (numeral : Numeral octets n) :
      Scalar octets (.number n)
  | string {octets : Bytes} {text : List Char} (literal : Literal octets text) :
      Scalar (0x22 :: (octets ++ [0x22])) (.string (String.ofList text))

section

variable {α : Type}

/-- Items after the first one, each after a comma. -/
inductive Further (item : Bytes → α → Prop) : Bytes → List α → Prop
  | done {blanks : Bytes} (between : Blanks blanks) : Further item blanks []
  | more {before after octets others : Bytes} {one : α} {rest : List α} (between : Blanks before)
      (also : Blanks after) (this : item octets one) (further : Further item others rest) :
      Further item (before ++ 0x2C :: (after ++ (octets ++ others))) (one :: rest)

/-- Items between commas. -/
inductive Listed (item : Bytes → α → Prop) : Bytes → List α → Prop
  | none {blanks : Bytes} (between : Blanks blanks) : Listed item blanks []
  | some {blanks octets others : Bytes} {one : α} {rest : List α} (between : Blanks blanks)
      (this : item octets one) (further : Further item others rest) :
      Listed item (blanks ++ (octets ++ others)) (one :: rest)

end

/-- A member of an object whose values are written as `value` tells. -/
inductive Member (value : Bytes → Value → Prop) : Bytes → String × Value → Prop
  | intro {name : Bytes} {text : List Char} {before after octets : Bytes} {v : Value}
      (literal : Literal name text) (between : Blanks before) (also : Blanks after)
      (this : value octets v) :
      Member value (0x22 :: (name ++ 0x22 :: (before ++ 0x3A :: (after ++ octets))))
        (String.ofList text, v)

/-- Arrays and objects of values that are written as `value` tells. -/
inductive Compound (value : Bytes → Value → Prop) : Bytes → Value → Prop
  | array {octets : Bytes} {elements : List Value} (listed : Listed value octets elements) :
      Compound value (0x5B :: (octets ++ [0x5D])) (.array elements)
  | object {octets : Bytes} {entries : List (String × Value)}
      (listed : Listed (Member value) octets entries) :
      Compound value (0x7B :: (octets ++ [0x7D])) (Value.ofEntries entries)

/-- The octets write a value with at most `depth` arrays and objects inside one another. -/
def Writes : (depth : Nat) → Bytes → Value → Prop
  | 0, octets, value => Scalar octets value
  | depth + 1, octets, value => Scalar octets value ∨ Compound (Writes depth) octets value

/-- The octets are a document of the value. -/
def Document (octets : Bytes) (value : Value) : Prop :=
  ∃ before written after, Blanks before ∧ Blanks after ∧ octets = before ++ (written ++ after) ∧
    Writes Read.maximalDepth written value

/-! ### Lists of items -/

section

variable {α : Type} {item other : Bytes → α → Prop} {octets : Bytes} {items : List α}

theorem Further.mono (further : Further item octets items)
    (mono : ∀ octets one, item octets one → other octets one) : Further other octets items := by
  induction further with
  | done between => exact .done between
  | more between also this _ ih => exact .more between also (mono _ _ this) ih

theorem Listed.mono (listed : Listed item octets items)
    (mono : ∀ octets one, item octets one → other octets one) : Listed other octets items := by
  cases listed with
  | none between => exact .none between
  | some between this further => exact .some between (mono _ _ this) (further.mono mono)

theorem Further.map {β : Type} {meant : Bytes → β → Prop} (f : α → β)
    (further : Further item octets items)
    (each : ∀ octets one, item octets one → meant octets (f one)) :
    Further meant octets (items.map f) := by
  induction further with
  | done between => exact .done between
  | more between also this _ ih => exact .more between also (each _ _ this) ih

theorem Listed.map {β : Type} {meant : Bytes → β → Prop} (f : α → β)
    (listed : Listed item octets items)
    (each : ∀ octets one, item octets one → meant octets (f one)) :
    Listed meant octets (items.map f) := by
  cases listed with
  | none between => exact .none between
  | some between this further => exact .some between (each _ _ this) (further.map f each)

theorem Further.forall {P : α → Prop} (further : Further item octets items)
    (each : ∀ octets one, item octets one → P one) : ∀ one ∈ items, P one := by
  induction further with
  | done => exact List.forall_mem_nil P
  | more _ _ this _ ih => exact List.forall_mem_cons.2 ⟨each _ _ this, ih⟩

theorem Listed.forall {P : α → Prop} (listed : Listed item octets items)
    (each : ∀ octets one, item octets one → P one) : ∀ one ∈ items, P one := by
  cases listed with
  | none => exact List.forall_mem_nil P
  | some _ this further => exact List.forall_mem_cons.2 ⟨each _ _ this, further.forall each⟩

theorem Further.length_le (further : Further item octets items) :
    items.length ≤ octets.length := by
  induction further with
  | done => exact Nat.zero_le _
  | more _ _ _ _ ih =>
    simp only [List.length_append, List.length_cons]
    omega

end

/-! ### Depths -/

/-- What may be nested deeper may be nested less deep. -/
theorem Writes.succ {depth : Nat} {octets : Bytes} {value : Value}
    (writes : Writes depth octets value) : Writes (depth + 1) octets value := by
  induction depth generalizing octets value with
  | zero => exact .inl writes
  | succ depth ih =>
    rcases writes with scalar | compound
    · exact .inl scalar
    · cases compound with
      | array listed => exact .inr (.array (listed.mono fun _ _ => ih))
      | object listed =>
        refine .inr (.object (listed.mono ?_))
        rintro _ _ ⟨literal, between, also, this⟩
        exact .intro literal between also (ih this)

theorem Writes.mono {depth deeper : Nat} {octets : Bytes} {value : Value}
    (writes : Writes depth octets value) (le : depth ≤ deeper) : Writes deeper octets value := by
  induction le with
  | refl => exact writes
  | step _ ih => exact ih.succ

/-! ### What is written -/

theorem Scalar.canonical {octets : Bytes} {value : Value} (scalar : Scalar octets value) :
    value.Canonical ∧ value.depth = 0 := by
  cases scalar <;> exact ⟨trivial, rfl⟩

/-- What is written is canonical, and no deeper than its writing. -/
theorem Writes.canonical {depth : Nat} {octets : Bytes} {value : Value}
    (writes : Writes depth octets value) : value.Canonical ∧ value.depth ≤ depth := by
  induction depth generalizing octets value with
  | zero =>
    obtain ⟨canonical, flat⟩ := Scalar.canonical writes
    exact ⟨canonical, Nat.le_of_eq flat⟩
  | succ depth ih =>
    rcases writes with scalar | compound
    · obtain ⟨canonical, flat⟩ := scalar.canonical
      exact ⟨canonical, flat ▸ Nat.zero_le _⟩
    · cases compound with
      | array listed =>
        have each := listed.forall fun _ _ => ih
        rw [Value.Canonical, Value.depth, Value.canonicalElements_iff, Nat.succ_le_succ_iff,
          Value.depthElements_le_iff]
        exact ⟨fun element member => (each element member).1,
          fun element member => (each element member).2⟩
      | @object _ entries listed =>
        have each : ∀ entry ∈ entries, entry.2.Canonical ∧ entry.2.depth ≤ depth := by
          refine listed.forall ?_
          rintro _ _ ⟨-, -, -, this⟩
          exact ih this
        exact ⟨Value.canonical_ofEntries fun entry member => (each entry member).1,
          Value.depth_ofEntries_le fun entry member => (each entry member).2⟩

end Grammar
end Json
end HttpExchange
