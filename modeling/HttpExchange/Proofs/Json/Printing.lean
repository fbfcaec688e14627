import HttpExchange.Proofs.Json.Document

/-!
# What is printed is read back

Compact text is a document of the grammar (`writes_spelling`), if all numbers are integers and
objects are canonical.
-/

namespace HttpExchange
namespace Json

open Grammar

/-- Every number in the value is an integer. -/
inductive Value.Integral : Value → Prop
  | null : Integral .null
  | bool (b : Bool) : Integral (.bool b)
  | integer (n : Integer) : Integral (.number (.integer n))
  | string (text : String) : Integral (.string text)
  | array {elements : List Value} (each : ∀ element ∈ elements, Integral element) :
      Integral (.array elements)
  | object {members : List (String × Value)} (each : ∀ member ∈ members, Integral member.2) :
      Integral (.object members)

/-! ### Texts -/

/-- A character of a control code is escaped by its code unit. -/
theorem escape_control {c : Char} (control : c.toNat < 0x20) :
    Escape (Utf8.encodeChars
      ['\\', 'u', '0', '0', hexDigit (c.toNat / 16), hexDigit (c.toNat % 16)]) c := by
  have written : ∀ n < 0x20, CodeUnit
      (Utf8.encodeChars ['0', '0', hexDigit (n / 16), hexDigit (n % 16)]) n := by
    unfold CodeUnit
    decide
  have escape := Escape.unit (written c.toNat control) (.inl (Nat.lt_trans control (by decide)))
  rwa [Char.ofNat_toNat] at escape

theorem literal_short {letter c : Char} (known : (UInt8.ofNat letter.toNat, c) ∈ shortEscapes)
    (ascii : letter.toNat < 0x80) {octets : Bytes} {chars : List Char}
    (further : Literal octets chars) :
    Literal (Utf8.encodeChars ['\\', letter] ++ octets) (c :: chars) := by
  have same : Utf8.encodeChars ['\\', letter] = [0x5C, UInt8.ofNat letter.toNat] := by
    rw [Utf8.encodeChars_cons, Utf8.encodeChars_cons, Utf8.encodeChar_of_ascii ascii]
    rfl
  rw [same]
  exact .escape (.short known) further

/-- A character is written by itself or by an escape. -/
theorem literal_escapeChar (c : Char) {octets : Bytes} {chars : List Char}
    (further : Literal octets chars) :
    Literal (Utf8.encodeChars (escapeChar c) ++ octets) (c :: chars) := by
  unfold escapeChar
  split
  · subst c
    exact literal_short (by decide) (by decide) further
  rename_i quote
  split
  · subst c
    exact literal_short (by decide) (by decide) further
  rename_i backslash
  iterate 5
    split
    · subst c
      exact literal_short (by decide) (by decide) further
  split
  · rename_i control
    exact .escape (escape_control control) further
  · rename_i visible
    rw [Utf8.encodeChars_cons, Utf8.encodeChars_nil, List.append_nil]
    exact .char ⟨quote, backslash⟩ (Nat.not_lt.1 visible) further

theorem literal_escape (chars : List Char) : Literal (Utf8.encodeChars (escape chars)) chars := by
  induction chars with
  | nil => exact .empty
  | cons c chars ih =>
    rw [escape, List.flatMap_cons, Utf8.encodeChars_append]
    exact literal_escapeChar c ih

/-- The octets of a text between quotes. -/
theorem encodeChars_quote (s : String) : Utf8.encodeChars (quote s) =
    0x22 :: (Utf8.encodeChars (escape s.toList) ++ [0x22]) := by
  rw [quote, List.cons_append, Utf8.encodeChars_cons, Utf8.encodeChars_append]
  rfl

/-! ### Integers -/

theorem encodeChar_digitChar {d : Nat} (small : d < 10) :
    Utf8.encodeChar d.digitChar = [UInt8.ofNat (0x30 + d)] := by
  have all : ∀ d < 10, Utf8.encodeChar d.digitChar = [UInt8.ofNat (0x30 + d)] := by decide
  exact all d small

theorem isDigit_ofNat {d : Nat} (small : d < 10) : Ascii.isDigit (UInt8.ofNat (0x30 + d)) = true ∧
    Ascii.digitValue (UInt8.ofNat (0x30 + d)) = d := by
  have all : ∀ d < 10, Ascii.isDigit (UInt8.ofNat (0x30 + d)) = true ∧
      Ascii.digitValue (UInt8.ofNat (0x30 + d)) = d := by
    decide
  exact all d small

theorem natOfDigits_append (octets : Bytes) (digit : UInt8) :
    Ascii.natOfDigits (octets ++ [digit]) =
      Ascii.natOfDigits octets * 10 + Ascii.digitValue digit := by
  rw [Ascii.natOfDigits, List.foldl_append]
  rfl

/-- One more digit may follow a whole part other than zero. -/
theorem whole_append {octets : Bytes} (wholly : Whole octets) (positive : octets ≠ [0x30])
    {digit : UInt8} (digital : Ascii.isDigit digit = true) : Whole (octets ++ [digit]) := by
  cases wholly with
  | zero => exact absurd rfl positive
  | digits digits nonzero =>
    refine .digits ⟨List.cons_ne_nil _ _, ?_⟩ nonzero
    exact List.forall_mem_append.2 ⟨digits.2, List.forall_mem_singleton.2 digital⟩

/-- The digits of a number make up a whole part that stands for it. -/
theorem whole_toDigits (n : Nat) : Whole (Utf8.encodeChars (Nat.toDigits 10 n)) ∧
    Ascii.natOfDigits (Utf8.encodeChars (Nat.toDigits 10 n)) = n := by
  induction n using Nat.strongRecOn with
  | ind n ih =>
    rw [Nat.toDigits_eq_if (by decide)]
    split
    · rename_i small
      obtain ⟨digital, meant⟩ := isDigit_ofNat small
      have last := natOfDigits_append [] (UInt8.ofNat (0x30 + n))
      rw [Utf8.encodeChars_cons, encodeChar_digitChar small, Utf8.encodeChars_nil, List.append_nil]
      constructor
      · by_cases zero : n = 0
        · subst zero
          exact .zero
        · refine .digits ⟨List.cons_ne_nil _ _, List.forall_mem_singleton.2 digital⟩ ?_
          intro same
          rw [same] at meant
          exact zero meant.symm
      · rw [List.nil_append] at last
        rw [last, meant]
        exact Nat.zero_add n
    · rename_i large
      have small : n % 10 < 10 := Nat.mod_lt _ (by decide)
      obtain ⟨wholly, front⟩ := ih (n / 10) (by omega)
      obtain ⟨digital, meant⟩ := isDigit_ofNat small
      rw [Utf8.encodeChars_append, Utf8.encodeChars_cons, encodeChar_digitChar small,
        Utf8.encodeChars_nil, List.append_nil]
      constructor
      · refine whole_append wholly ?_ digital
        intro zero
        rw [zero] at front
        have none : n / 10 = 0 := front.symm
        omega
      · rw [natOfDigits_append, front, meant]
        omega

/-- An integer is what its magnitude and its sign tell. -/
theorem integer?_natAbs (n : Integer) :
    Read.Numeral.integer? (decide (n.value < 0)) n.value.natAbs = some n := by
  obtain ⟨n, lower, upper⟩ := n
  by_cases below : n < 0
  · obtain ⟨m, rfl⟩ : ∃ m : Nat, n = -(m : Int) := ⟨n.natAbs, by omega⟩
    have fits : 0 < m ∧ m ≤ 9223372036854775808 := by omega
    rw [decide_eq_true below, Int.natAbs_neg, Int.natAbs_natCast, Read.Numeral.integer?,
      if_pos rfl, dif_pos fits]
  · obtain ⟨m, rfl⟩ : ∃ m : Nat, n = m := ⟨n.natAbs, by omega⟩
    have fits : m < 18446744073709551616 := by omega
    rw [decide_eq_false below, Int.natAbs_natCast, Read.Numeral.integer?,
      if_neg Bool.false_ne_true, dif_pos fits]

/-- The text of an integer is a numeral for it. -/
theorem numeral_spelling (n : Integer) : Numeral (Utf8.encodeChars n.spelling) (.integer n) := by
  obtain ⟨wholly, meant⟩ := whole_toDigits n.value.natAbs
  have number : Read.Numeral.number? (decide (n.value < 0))
      ⟨Utf8.encodeChars (Nat.toDigits 10 n.value.natAbs), [], none⟩ = some (.integer n) := by
    simp [Read.Numeral.number?, meant, integer?_natAbs]
  have numeral := Numeral.intro wholly .absent .absent number
  have hyphen : Utf8.encodeChar '-' = [0x2D] := rfl
  rw [Integer.spelling]
  split
  · rename_i below
    simpa [hyphen, below] using numeral
  · rename_i natural
    simpa [natural] using numeral

/-! ### Lists -/

section

variable {α : Type} {spell : α → List Char} {item : Bytes → α → Prop} {xs : List α}

/-- Items between commas. -/
def commas (spell : α → List Char) : List α → List Char
  | [] => []
  | one :: others => spell one ++ others.flatMap fun one => ',' :: spell one

theorem further_commas (written : ∀ one ∈ xs, item (Utf8.encodeChars (spell one)) one) :
    Further item (Utf8.encodeChars (xs.flatMap fun one => ',' :: spell one)) xs := by
  induction xs with
  | nil => exact .done Read.blanks_nil
  | cons one xs ih =>
    obtain ⟨this, others⟩ := List.forall_mem_cons.1 written
    have further := Further.more Read.blanks_nil Read.blanks_nil this (ih others)
    have comma : Utf8.encodeChar ',' = [0x2C] := rfl
    simpa [comma] using further

theorem listed_commas (written : ∀ one ∈ xs, item (Utf8.encodeChars (spell one)) one) :
    Listed item (Utf8.encodeChars (commas spell xs)) xs := by
  cases xs with
  | nil => exact .none Read.blanks_nil
  | cons one xs =>
    obtain ⟨this, others⟩ := List.forall_mem_cons.1 written
    have listed := Listed.some Read.blanks_nil this (further_commas others)
    simpa [commas] using listed

end

theorem spellElements_eq (elements : List Value) :
    Value.spellElements true elements = commas Value.spelling elements := by
  have further : ∀ elements, Value.spellElements false elements =
      elements.flatMap fun element => ',' :: element.spelling := by
    intro elements
    induction elements with
    | nil => rfl
    | cons element elements ih => simp [Value.spellElements, ih]
  cases elements with
  | nil => rfl
  | cons element elements => simp [Value.spellElements, commas, further]

/-- The characters of a member. -/
def spellMember (entry : String × Value) : List Char :=
  quote entry.1 ++ ':' :: entry.2.spelling

theorem spellMembers_eq (members : List (String × Value)) :
    Value.spellMembers true members = commas spellMember members := by
  have further : ∀ members, Value.spellMembers false members =
      members.flatMap fun entry => ',' :: spellMember entry := by
    intro members
    induction members with
    | nil => rfl
    | cons entry members ih => simp [Value.spellMembers, spellMember, ih]
  cases members with
  | nil => rfl
  | cons entry members => simp [Value.spellMembers, spellMember, commas, further]

theorem member_spellMember {value : Bytes → Value → Prop} {entry : String × Value}
    (written : value (Utf8.encodeChars entry.2.spelling) entry.2) :
    Member value (Utf8.encodeChars (spellMember entry)) entry := by
  obtain ⟨name, v⟩ := entry
  have member := Member.intro (literal_escape name.toList) Read.blanks_nil Read.blanks_nil written
  have colon : Utf8.encodeChar ':' = [0x3A] := rfl
  rw [String.ofList_toList] at member
  simpa [spellMember, encodeChars_quote, colon] using member

/-! ### Values -/

theorem writes_of_scalar {octets : Bytes} {v : Value} (scalar : Scalar octets v) (depth : Nat) :
    Writes depth octets v := by
  cases depth with
  | zero => exact scalar
  | succ depth => exact .inl scalar

/-- The compact text of a value writes it, no deeper than the value is. -/
theorem writes_spelling {v : Value} (canonical : v.Canonical) (integral : v.Integral) {depth : Nat}
    (shallow : v.depth ≤ depth) : Writes depth (Utf8.encodeChars v.spelling) v := by
  induction integral generalizing depth with
  | null => exact writes_of_scalar .null depth
  | bool b =>
    cases b with
    | false => exact writes_of_scalar .false depth
    | true => exact writes_of_scalar .true depth
  | integer n => exact writes_of_scalar (.number (numeral_spelling n)) depth
  | string s =>
    have scalar := Scalar.string (literal_escape s.toList)
    rw [String.ofList_toList, ← encodeChars_quote] at scalar
    exact writes_of_scalar scalar depth
  | @array elements each ih =>
    rw [Value.depth] at shallow
    obtain ⟨depth, rfl⟩ :=
      Nat.exists_eq_add_one_of_ne_zero (Nat.ne_of_gt (Nat.zero_lt_of_lt shallow))
    rw [Nat.succ_le_succ_iff, Value.depthElements_le_iff] at shallow
    rw [Value.Canonical, Value.canonicalElements_iff] at canonical
    have array := Compound.array (listed_commas fun element member =>
      ih element member (canonical element member) (shallow element member))
    have opening : Utf8.encodeChar '[' = [0x5B] := rfl
    have closing : Utf8.encodeChar ']' = [0x5D] := rfl
    refine .inr ?_
    simpa [Value.spelling, spellElements_eq, opening, closing] using array
  | @object members each ih =>
    rw [Value.depth] at shallow
    obtain ⟨depth, rfl⟩ :=
      Nat.exists_eq_add_one_of_ne_zero (Nat.ne_of_gt (Nat.zero_lt_of_lt shallow))
    rw [Nat.succ_le_succ_iff, Value.depthMembers_le_iff] at shallow
    rw [Value.Canonical, Value.canonicalMembers_iff] at canonical
    have object := Compound.object (listed_commas fun entry member =>
      member_spellMember (ih entry member (canonical.2 entry member) (shallow entry member)))
    -- The reader sorts the members and keeps the last of each name; here that changes nothing.
    rw [Value.ofEntries_of_sorted canonical.1] at object
    have opening : Utf8.encodeChar '\x7b' = [0x7B] := rfl
    have closing : Utf8.encodeChar '\x7d' = [0x7D] := rfl
    refine .inr ?_
    simpa [Value.spelling, spellMembers_eq, opening, closing] using object

/-- A canonical value is read back from its text, unless it is nested too deep. -/
theorem parse_text {v : Value} (canonical : v.Canonical) (integral : v.Integral)
    (shallow : v.depth ≤ Read.maximalDepth) : Value.parse (Utf8.encode v.text) = .ok v := by
  rw [Value.parse_eq_ok_iff, Value.text_eq, Utf8.encode, String.toList_ofList]
  exact ⟨[], _, [], Read.blanks_nil, Read.blanks_nil, by simp,
    writes_spelling canonical integral shallow⟩

/-- The text of a value that is nested too deep is not read. -/
theorem parse_text_deep {v : Value} (canonical : v.Canonical) (integral : v.Integral)
    (deep : Read.maximalDepth < v.depth) :
    ∃ fault, Value.parse (Utf8.encode v.text) = .error fault := by
  cases read : Value.parse (Utf8.encode v.text) with
  | error fault => exact ⟨fault, rfl⟩
  | ok other =>
    rw [Value.parse_eq_ok_iff, Value.text_eq, Utf8.encode, String.toList_ofList] at read
    obtain ⟨before, written, after, blank, also, same, writes⟩ := read
    have flat := writes.canonical.2
    have ends : Read.Ends after := by
      simpa using Read.ends_append also Read.ends_nil
    -- Where `v` may be nested as deep as it is, both values are read off the text.
    have first := Read.value_of_writes (writes_spelling canonical integral (Nat.le_refl v.depth))
      (Nat.lt_succ_self _) Read.ends_nil
    have second := Read.value_of_writes (writes.mono (Nat.le_of_lt deep))
      (show written.length < (Utf8.encodeChars v.spelling).length + 1 by
        rw [same]
        simp only [List.length_append]
        omega) ends
    rw [List.append_nil, same, Read.value_append blank, ← same, second] at first
    cases first
    exact absurd flat (Nat.not_le.2 deep)

end Json
end HttpExchange
