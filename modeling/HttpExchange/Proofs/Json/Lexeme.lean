import HttpExchange.Proofs.Json.Grammar
import HttpExchange.Proofs.Text.Utf8
import Mathlib.Data.List.TakeWhile

/-!
# The lexemes of JSON text are read by the grammar

Each reader of a lexeme accepts what the grammar tells, whatever follows, and nothing else.
-/

namespace HttpExchange
namespace Json
namespace Read

open Grammar

/-- Two steps succeed if both do. -/
theorem bind_eq_ok_iff {ε α β : Type} {first : Except ε α} {next : α → Except ε β} {result : β} :
    (first >>= next) = .ok result ↔ ∃ value, first = .ok value ∧ next value = .ok result := by
  cases first with
  | error failure => exact ⟨nofun, fun ⟨_, impossible, _⟩ => nomatch impossible⟩
  | ok value =>
    refine ⟨fun rest => ⟨value, rfl, rest⟩, ?_⟩
    rintro ⟨_, ⟨⟩, rest⟩
    exact rest

/-! ### Blanks and words -/

theorem blanks_nil : Blanks [] :=
  List.forall_mem_nil _

theorem blanks_append {front back : Bytes} (blank : Blanks front) (also : Blanks back) :
    Blanks (front ++ back) :=
  List.forall_mem_append.2 ⟨blank, also⟩

theorem skipBlanks_append {blanks : Bytes} (blank : Blanks blanks) (input : Bytes) :
    skipBlanks (blanks ++ input) = skipBlanks input :=
  List.dropWhile_append_of_pos blank

theorem skipBlanks_of_blanks {blanks : Bytes} (blank : Blanks blanks) : skipBlanks blanks = [] :=
  List.dropWhile_eq_nil_iff.2 blank

theorem skipBlanks_cons {octet : UInt8} (visible : isBlank octet = false) (rest : Bytes) :
    skipBlanks (octet :: rest) = octet :: rest := by
  rw [skipBlanks, List.dropWhile_cons_of_neg (by simp [visible])]

theorem skipBlanks_append_cons {blanks : Bytes} (blank : Blanks blanks) {octet : UInt8}
    (visible : isBlank octet = false) (rest : Bytes) :
    skipBlanks (blanks ++ octet :: rest) = octet :: rest := by
  rw [skipBlanks_append blank, skipBlanks_cons visible]

/-- The first octet of an input that is no blank is determined. -/
theorem visible_unique {blanks between rest others : Bytes} {octet other : UInt8}
    (blank : Blanks blanks) (visible : isBlank octet = false) (also : Blanks between)
    (shown : isBlank other = false) (same : blanks ++ octet :: rest = between ++ other :: others) :
    octet = other := by
  have heads := congrArg skipBlanks same
  rw [skipBlanks_append_cons blank visible, skipBlanks_append_cons also shown] at heads
  exact (List.cons.inj heads).1

/-- What stands before the rest of an input without its blanks is blank. -/
theorem exists_blanks (input : Bytes) : ∃ blanks, Blanks blanks ∧
    input = blanks ++ skipBlanks input :=
  ⟨input.takeWhile isBlank, fun _ member => List.mem_takeWhile_imp member,
    List.takeWhile_append_dropWhile.symm⟩

theorem isBlank_of_skipBlanks {input rest : Bytes} {octet : UInt8}
    (same : skipBlanks input = octet :: rest) : isBlank octet = false := by
  have first := List.head?_dropWhile_not isBlank input
  rw [← skipBlanks, same] at first
  simpa using first

/-- The rest of an input after blanks. -/
theorem blanks_of_skipBlanks {input rest : Bytes} (same : skipBlanks input = rest) :
    ∃ blanks, Blanks blanks ∧ input = blanks ++ rest := by
  rw [← same]
  exact exists_blanks input

theorem word_eq_ok_iff {letters : List UInt8} {input rest : Bytes} :
    word letters input = .ok rest ↔ input = letters ++ rest := by
  induction letters generalizing input with
  | nil => simp [word]
  | cons letter letters ih =>
    cases input with
    | nil => simp [word, fail]
    | cons octet input =>
      rw [word]
      split
      · rename_i same
        rw [ih, same, List.cons_append, List.cons_inj_right]
      · rename_i different
        simp [fail, different]

/-! ### String literals -/

/-- The octet stands for itself in a literal. -/
def IsPlain (octet : UInt8) : Prop :=
  octet ≠ 0x22 ∧ octet ≠ 0x5C ∧ ¬ octet < 0x20

theorem contents_of_plain {octet : UInt8} (plain : IsPlain octet) (done rest : Bytes) :
    contents .plain done (octet :: rest) = contents .plain (octet :: done) rest := by
  obtain ⟨quote, backslash, control⟩ := plain
  simp [contents, stroke, quote, backslash, control]

theorem contents_append {octets : Bytes} (plain : ∀ octet ∈ octets, IsPlain octet)
    (done rest : Bytes) :
    contents .plain done (octets ++ rest) = contents .plain (octets.reverse ++ done) rest := by
  induction octets generalizing done with
  | nil => rfl
  | cons octet octets ih =>
    obtain ⟨first, others⟩ := List.forall_mem_cons.1 plain
    rw [List.cons_append, contents_of_plain first, ih others]
    simp

theorem isPlain_of_mem_encodeChar {c : Char} (plain : c ≠ '"' ∧ c ≠ '\\') (visible : 0x20 ≤ c.toNat)
    {octet : UInt8} (member : octet ∈ Utf8.encodeChar c) : IsPlain octet := by
  by_cases ascii : c.toNat < 0x80
  · rw [Utf8.encodeChar_of_ascii ascii, List.mem_singleton] at member
    have same : octet.toNat = c.toNat := by
      rw [member, Utf8.toNat_ofNat_of_lt (by omega)]
    refine ⟨?_, ?_, ?_⟩
    · rintro rfl
      exact plain.1 (Char.ext (UInt32.toNat_inj.1 same.symm))
    · rintro rfl
      exact plain.2 (Char.ext (UInt32.toNat_inj.1 same.symm))
    · rw [UInt8.lt_iff_toNat_lt, same]
      exact Nat.not_lt.2 visible
  · have high := Utf8.le_of_mem_encodeChar (Nat.not_lt.1 ascii) member
    refine ⟨?_, ?_, ?_⟩
    · rintro rfl
      exact absurd high (by decide)
    · rintro rfl
      exact absurd high (by decide)
    · rw [UInt8.lt_iff_toNat_lt]
      exact Nat.not_lt.2 (Nat.le_trans (by decide) high)

/-- A character whose first octet stands for itself does. -/
theorem plain_of_isPlain {c : Char} {first : UInt8} {tail : Bytes}
    (encoded : Utf8.encodeChar c = first :: tail) (plain : IsPlain first) :
    (c ≠ '"' ∧ c ≠ '\\') ∧ 0x20 ≤ c.toNat := by
  obtain ⟨quote, backslash, control⟩ := plain
  by_cases ascii : c.toNat < 0x80
  · rw [Utf8.encodeChar_of_ascii ascii] at encoded
    obtain ⟨rfl, -⟩ := List.cons.inj encoded
    rw [UInt8.lt_iff_toNat_lt, Utf8.toNat_ofNat_of_lt (by omega)] at control
    exact ⟨⟨fun same => quote (same ▸ rfl), fun same => backslash (same ▸ rfl)⟩,
      Nat.not_lt.1 control⟩
  · have wide : 0x80 ≤ c.toNat := Nat.not_lt.1 ascii
    refine ⟨⟨?_, ?_⟩, Nat.le_trans (by decide) wide⟩
    · rintro rfl
      exact absurd wide (by decide)
    · rintro rfl
      exact absurd wide (by decide)

theorem shortEscape?_of_mem {letter : UInt8} {c : Char} (known : (letter, c) ∈ shortEscapes) :
    letter ≠ 0x75 ∧ shortEscape? letter = some (UInt8.ofNat c.toNat) ∧ c.toNat < 0x80 := by
  have all : ∀ entry ∈ shortEscapes, entry.1 ≠ 0x75 ∧
      shortEscape? entry.1 = some (UInt8.ofNat entry.2.toNat) ∧ entry.2.toNat < 0x80 := by
    decide
  exact all _ known

/-- The digits of a code unit are read one by one. -/
theorem contents_of_digits {leading : Option Nat} {missing value unit : Nat} {digits : Bytes}
    (length : digits.length = missing + 1) (written : hexNumber? value digits = some unit)
    {next : Inside} {gained : Bytes} (stands : codeUnit leading unit = .goesOn next gained)
    (done rest : Bytes) :
    contents (.hex leading missing (some value)) done (digits ++ rest) =
      contents next (gained.reverseAux done) rest := by
  induction missing generalizing value digits with
  | zero =>
    obtain ⟨digit, rfl⟩ := List.length_eq_one_iff.1 length
    obtain ⟨low, known, ⟨⟩⟩ := hexNumber?_cons.1 written
    simp [contents, stroke, known, stands]
  | succ missing ih =>
    obtain ⟨digit, digits, rfl⟩ := List.exists_cons_of_length_eq_add_one length
    obtain ⟨low, known, further⟩ := hexNumber?_cons.1 written
    have next := ih (by simpa using length) further
    simp [contents, stroke, known, next]

theorem contents_of_escape {escape : Bytes} {c : Char} (escaped : Escape escape c)
    (done rest : Bytes) :
    contents .plain done (escape ++ rest) =
      contents .plain ((Utf8.encodeChar c).reverse ++ done) rest := by
  cases escaped with
  | short known =>
    obtain ⟨different, meant, ascii⟩ := shortEscape?_of_mem known
    simp [contents, stroke, different, meant, Utf8.encodeChar_of_ascii ascii]
  | @unit digits unit written scalar =>
    obtain ⟨length, written⟩ := written
    have stands : codeUnit none unit = .goesOn .plain (Utf8.encodeChar (Char.ofNat unit)) := by
      rw [codeUnit, if_neg, if_neg] <;> simp [isLeading, isTrailing] <;> omega
    have read := contents_of_digits length written stands done rest
    simp [contents, stroke, read]
  | @pair first second high low written also leading trailing =>
    obtain ⟨length, written⟩ := written
    obtain ⟨length', written'⟩ := also
    have stands : codeUnit none high = .goesOn (.second high) [] := by
      rw [codeUnit, if_neg, if_pos] <;> simp [isLeading, isTrailing] <;> omega
    have stands' : codeUnit (some high) low = .goesOn .plain
        (Utf8.encodeChar (Char.ofNat (0x10000 + (high - 0xD800) * 0x400 + (low - 0xDC00)))) := by
      rw [codeUnit, if_pos]
      simp [isTrailing]
      omega
    have front := contents_of_digits length written stands done (0x5C :: 0x75 :: (second ++ rest))
    have back := contents_of_digits length' written' stands' done rest
    simp [contents, stroke, front, back]

/-- What stands between quotes is read as the text that it writes. -/
theorem contents_of_literal {octets : Bytes} {chars : List Char} (literal : Literal octets chars)
    (done rest : Bytes) : contents .plain done (octets ++ 0x22 :: rest) =
      .ok (done.reverse ++ Utf8.encodeChars chars, rest) := by
  induction literal generalizing done with
  | empty => simp [contents, stroke]
  | char plain visible _ ih =>
    rw [List.append_assoc, contents_append fun _ => isPlain_of_mem_encodeChar plain visible, ih]
    simp
  | escape escaped _ ih =>
    rw [List.append_assoc, contents_of_escape escaped, ih]
    simp

theorem text_of_literal {octets : Bytes} {chars : List Char} (literal : Literal octets chars)
    (rest : Bytes) : text (octets ++ 0x22 :: rest) = .ok (String.ofList chars, rest) := by
  have decoded : Utf8.decode? (Utf8.encodeChars chars) = some (String.ofList chars) := by
    rw [Utf8.decode?_eq_some_iff, Utf8.encode, String.toList_ofList]
  rw [text, contents_of_literal literal]
  simp [bind, Except.bind, decoded]

theorem codeUnit_ne_ends (leading : Option Nat) (unit : Nat) : codeUnit leading unit ≠ .ends := by
  cases leading <;> simp only [codeUnit] <;> split <;> try split
  all_goals exact nofun

/-- The value of one digit more. -/
theorem bind_hexValue?_eq_some {value : Option Nat} {digit : UInt8} {unit : Nat} :
    (value.bind fun high => (Ascii.hexValue? digit).map fun low => high * 16 + low) = some unit ↔
      ∃ start, value = some start ∧ ∃ low, Ascii.hexValue? digit = some low ∧
        start * 16 + low = unit := by
  simp [Option.bind_eq_some_iff]

theorem contents_digit (leading : Option Nat) (value : Option Nat) (done rest : Bytes)
    (digit : UInt8) : contents (.hex leading 0 value) done (digit :: rest) =
      match value.bind fun high => (Ascii.hexValue? digit).map fun low => high * 16 + low with
      | none => fail .invalidEscape rest
      | some unit =>
        match codeUnit leading unit with
        | .goesOn next gained => contents next (gained.reverseAux done) rest
        | .ends => .ok (done.reverse, rest)
        | .breaks cause => fail cause rest := by
  simp only [contents, stroke]
  cases value.bind fun high => (Ascii.hexValue? digit).map fun low => high * 16 + low with
  | none => rfl
  | some unit => rfl

/-- The octets that were taken for a code unit are its digits. -/
theorem digits_of_contents {leading : Option Nat} {missing : Nat} {value : Option Nat}
    {done input : Bytes} {result : Bytes × Bytes}
    (read : contents (.hex leading missing value) done input = .ok result) :
    ∃ start digits rest unit next gained, value = some start ∧ input = digits ++ rest ∧
      digits.length = missing + 1 ∧ hexNumber? start digits = some unit ∧
      codeUnit leading unit = .goesOn next gained ∧
      contents next (gained.reverseAux done) rest = .ok result := by
  induction missing generalizing value input with
  | zero =>
    cases input with
    | nil => cases read
    | cons digit rest =>
      rw [contents_digit] at read
      split at read
      · cases read
      · rename_i unit known
        obtain ⟨start, rfl, low, digital, rfl⟩ := bind_hexValue?_eq_some.1 known
        split at read
        · rename_i next gained stands
          exact ⟨start, [digit], rest, _, next, gained, rfl, rfl, rfl,
            hexNumber?_cons.2 ⟨low, digital, rfl⟩, stands, read⟩
        · rename_i ends
          exact absurd ends (codeUnit_ne_ends _ _)
        · cases read
  | succ missing ih =>
    cases input with
    | nil => cases read
    | cons digit rest =>
      rw [contents, stroke] at read
      obtain ⟨start, digits, rest, unit, next, gained, known, rfl, length, written, stands, more⟩ :=
        ih read
      obtain ⟨first, rfl, low, digital, rfl⟩ := bind_hexValue?_eq_some.1 known
      exact ⟨first, digit :: digits, rest, unit, next, gained, rfl, rfl, by simp [length],
        hexNumber?_cons.2 ⟨low, digital, written⟩, stands, more⟩

theorem mem_of_shortEscape? {letter meant : UInt8} (known : shortEscape? letter = some meant) :
    ∃ c, (letter, c) ∈ shortEscapes ∧ Utf8.encodeChar c = [meant] := by
  unfold shortEscape? at known
  split at known
  · rename_i same
    cases known
    rcases same with rfl | rfl | rfl
    · exact ⟨'"', by decide, rfl⟩
    · exact ⟨'\\', by decide, rfl⟩
    · exact ⟨'/', by decide, rfl⟩
  split at known
  · subst letter
    cases known
    exact ⟨'\x08', by decide, rfl⟩
  split at known
  · subst letter
    cases known
    exact ⟨'\x0C', by decide, rfl⟩
  split at known
  · subst letter
    cases known
    exact ⟨'\n', by decide, rfl⟩
  split at known
  · subst letter
    cases known
    exact ⟨'\r', by decide, rfl⟩
  split at known
  · subst letter
    cases known
    exact ⟨'\t', by decide, rfl⟩
  · cases known

/-- A code unit alone stands for a character, or begins a pair. -/
theorem codeUnit_none {unit : Nat} {next : Inside} {gained : Bytes}
    (stands : codeUnit none unit = .goesOn next gained) :
    ((0xD800 ≤ unit ∧ unit < 0xDC00) ∧ next = .second unit ∧ gained = []) ∨
      ((unit < 0xD800 ∨ 0xDFFF < unit) ∧ next = .plain ∧
        gained = Utf8.encodeChar (Char.ofNat unit)) := by
  rw [codeUnit] at stands
  split at stands
  · cases stands
  rename_i notTrailing
  split at stands
  · rename_i leading
    cases stands
    exact .inl ⟨by simpa [isLeading] using leading, rfl, rfl⟩
  · rename_i notLeading
    cases stands
    simp only [isTrailing, isLeading, Bool.and_eq_true, decide_eq_true_eq] at notTrailing notLeading
    exact .inr ⟨by omega, rfl, rfl⟩

/-- A code unit after a leading surrogate is a trailing one. -/
theorem codeUnit_some {high low : Nat} {next : Inside} {gained : Bytes}
    (stands : codeUnit (some high) low = .goesOn next gained) :
    (0xDC00 ≤ low ∧ low < 0xE000) ∧ next = .plain ∧
      gained =
        Utf8.encodeChar (Char.ofNat (0x10000 + (high - 0xD800) * 0x400 + (low - 0xDC00))) := by
  rw [codeUnit] at stands
  split at stands
  · rename_i trailing
    cases stands
    exact ⟨by simpa [isTrailing] using trailing, rfl, rfl⟩
  · cases stands

/-- After a leading surrogate stands the beginning of an escape by code unit. -/
theorem second_of_contents {high : Nat} {done input : Bytes} {result : Bytes × Bytes}
    (read : contents (.second high) done input = .ok result) :
    ∃ rest, input = 0x5C :: 0x75 :: rest ∧
      contents (.hex (some high) 3 (some 0)) done rest = .ok result := by
  cases input with
  | nil => cases read
  | cons octet input =>
    by_cases backslash : octet = 0x5C
    · subst backslash
      cases input with
      | nil => cases read
      | cons letter rest =>
        by_cases unit : letter = 0x75
        · subst unit
          rw [contents, stroke, if_pos rfl] at read
          exact ⟨rest, rfl, read⟩
        · simp [contents, stroke, unit, fail] at read
    · simp [contents, stroke, backslash, fail] at read

/-- The octets that were taken for an escape are one. -/
theorem escape_of_contents {done input : Bytes} {result : Bytes × Bytes}
    (read : contents .escape done input = .ok result) :
    ∃ octets c rest, input = octets ++ rest ∧ Escape (0x5C :: octets) c ∧
      contents .plain ((Utf8.encodeChar c).reverse ++ done) rest = .ok result := by
  cases input with
  | nil => cases read
  | cons letter input =>
    by_cases unit : letter = 0x75
    · subst unit
      change contents (.hex none 3 (some 0)) done input = .ok result at read
      obtain ⟨_, first, rest, high, next, gained, ⟨⟩, rfl, length, written, stands, read⟩ :=
        digits_of_contents read
      rcases codeUnit_none stands with ⟨leading, rfl, rfl⟩ | ⟨scalar, rfl, rfl⟩
      · obtain ⟨rest, rfl, read⟩ := second_of_contents read
        obtain ⟨_, second, rest, low, next, gained, ⟨⟩, rfl, length', written', stands', read⟩ :=
          digits_of_contents read
        obtain ⟨trailing, same, gain⟩ := codeUnit_some stands'
        rw [same, gain] at read
        exact ⟨0x75 :: (first ++ 0x5C :: 0x75 :: second), _, rest, by simp,
          .pair ⟨length, written⟩ ⟨length', written'⟩ leading trailing, by simpa using read⟩
      · exact ⟨0x75 :: first, _, rest, rfl, .unit ⟨length, written⟩ scalar, by simpa using read⟩
    · rw [contents, stroke, if_neg unit] at read
      cases known : shortEscape? letter with
      | none => simp [known, fail] at read
      | some meant =>
        obtain ⟨c, listed, encoded⟩ := mem_of_shortEscape? known
        simp only [known] at read
        exact ⟨[letter], c, input, rfl, .short listed, by simpa [encoded] using read⟩

/-- What stands between quotes gives octets: those that stand for themselves and those of escaped
characters. -/
inductive Pieces : Bytes → Bytes → Prop
  | empty : Pieces [] []
  | plain {octet : UInt8} {octets gained : Bytes} (plain : IsPlain octet)
      (further : Pieces octets gained) : Pieces (octet :: octets) (octet :: gained)
  | escape {escape octets gained : Bytes} {c : Char} (escaped : Escape escape c)
      (further : Pieces octets gained) : Pieces (escape ++ octets) (Utf8.encodeChar c ++ gained)

/-- What was read up to the closing quote is pieces. -/
theorem pieces_of_contents {done input octets rest : Bytes}
    (read : contents .plain done input = .ok (octets, rest)) :
    ∃ raw gained, Pieces raw gained ∧ input = raw ++ 0x22 :: rest ∧
      octets = done.reverse ++ gained := by
  induction length : input.length using Nat.strongRecOn generalizing input done with
  | ind n ih =>
    cases input with
    | nil => cases read
    | cons octet input =>
      by_cases quote : octet = 0x22
      · subst quote
        cases read
        exact ⟨[], [], .empty, rfl, by simp⟩
      by_cases backslash : octet = 0x5C
      · subst backslash
        change contents .escape done input = .ok (octets, rest) at read
        obtain ⟨escape, c, rest', rfl, escaped, read⟩ := escape_of_contents read
        have shorter : rest'.length < n := by
          rw [← length, List.length_cons, List.length_append]
          omega
        obtain ⟨raw, gained, pieces, rfl, rfl⟩ := ih _ shorter read rfl
        exact ⟨0x5C :: escape ++ raw, Utf8.encodeChar c ++ gained, .escape escaped pieces, by simp,
          by simp⟩
      by_cases control : octet < 0x20
      · simp [contents, stroke, quote, backslash, control, fail] at read
      · have plain : IsPlain octet := ⟨quote, backslash, control⟩
        rw [contents_of_plain plain] at read
        have shorter : input.length < n := by
          rw [← length, List.length_cons]
          omega
        obtain ⟨raw, gained, pieces, rfl, rfl⟩ := ih _ shorter read rfl
        exact ⟨octet :: raw, octet :: gained, .plain plain pieces, rfl, by simp⟩

/-- Octets that continue a character are not those of an escape. -/
theorem pieces_append {tail gained raw : Bytes} (continuing : ∀ octet ∈ tail, Utf8.Continues octet)
    (pieces : Pieces raw (tail ++ gained)) :
    ∃ others, raw = tail ++ others ∧ Pieces others gained := by
  induction tail generalizing raw with
  | nil => exact ⟨raw, rfl, pieces⟩
  | cons octet tail ih =>
    obtain ⟨first, others⟩ := List.forall_mem_cons.1 continuing
    generalize same : octet :: tail ++ gained = octets at pieces
    cases pieces with
    | empty => cases same
    | plain plain further =>
      obtain ⟨rfl, rfl⟩ := List.cons.inj same
      obtain ⟨raw, rfl, pieces⟩ := ih others further
      exact ⟨raw, rfl, pieces⟩
    | @escape _ _ _ c _ _ =>
      obtain ⟨head, tail', encoded, stops, -⟩ := Utf8.exists_encodeChar c
      rw [encoded] at same
      obtain ⟨rfl, -⟩ := List.cons.inj same
      exact absurd first stops

/-- Pieces that give well-formed text write it. -/
theorem literal_of_pieces {raw : Bytes} {chars : List Char}
    (pieces : Pieces raw (Utf8.encodeChars chars)) : Literal raw chars := by
  induction chars generalizing raw with
  | nil =>
    generalize same : Utf8.encodeChars [] = octets at pieces
    cases pieces with
    | empty => exact .empty
    | plain => cases same
    | @escape _ _ _ c =>
      exact absurd same.symm fun none => Utf8.encodeChar_ne_nil c (List.append_eq_nil_iff.1 none).1
  | cons c chars ih =>
    generalize same : Utf8.encodeChars (c :: chars) = octets at pieces
    rw [Utf8.encodeChars_cons] at same
    cases pieces with
    | empty => exact absurd (List.append_eq_nil_iff.1 same).1 (Utf8.encodeChar_ne_nil c)
    | @plain octet raw gained plain further =>
      obtain ⟨first, tail, encoded, -, continuing⟩ := Utf8.exists_encodeChar c
      rw [encoded, List.cons_append, List.cons.injEq] at same
      obtain ⟨rfl, rfl⟩ := same
      obtain ⟨others, rfl, rest⟩ := pieces_append continuing further
      obtain ⟨plain, visible⟩ := plain_of_isPlain encoded plain
      have literal := Literal.char plain visible (ih rest)
      rwa [encoded] at literal
    | escape escaped further =>
      rw [← Utf8.encodeChars_cons] at same
      obtain ⟨others, ⟨⟩, rfl⟩ := Utf8.encodeChars_of_append same.symm
      exact .escape escaped (ih further)

/-- The reader of string literals accepts what the grammar tells. -/
theorem text_eq_ok_iff {input rest : Bytes} {s : String} : text input = .ok (s, rest) ↔
    ∃ octets chars, Literal octets chars ∧ s = String.ofList chars ∧
      input = octets ++ 0x22 :: rest := by
  refine ⟨fun read => ?_, ?_⟩
  · rw [text, bind_eq_ok_iff] at read
    obtain ⟨⟨octets, rest'⟩, taken, read⟩ := read
    dsimp only at read
    split at read
    · rename_i decoded
      cases read
      obtain ⟨raw, gained, pieces, rfl, rfl⟩ := pieces_of_contents taken
      obtain rfl := Utf8.decode?_eq_some_iff.1 decoded
      exact ⟨raw, s.toList, literal_of_pieces pieces, (String.ofList_toList).symm, rfl⟩
    · cases read
  · rintro ⟨octets, chars, literal, rfl, rfl⟩
    exact text_of_literal literal rest

end Read
end Json
end HttpExchange
