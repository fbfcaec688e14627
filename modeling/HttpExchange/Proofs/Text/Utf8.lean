import HttpExchange.Text.Utf8

/-!
# Decoding is exact

The strict decoder accepts what the encoder writes and nothing else (`decode?_eq_some_iff`).
-/

namespace HttpExchange
namespace Utf8

/-- The octet continues a character. -/
def Continues (octet : UInt8) : Prop :=
  0x80 ≤ octet.toNat ∧ octet.toNat < 0xC0

theorem toNat_ofNat_of_scalar {n : Nat} (scalar : n < 0xD800 ∨ 0xDFFF < n ∧ n < 0x110000) :
    (Char.ofNat n).toNat = n := by
  have valid : n.isValidChar := scalar
  rw [Char.ofNat, dif_pos valid]
  rfl

theorem ofNat_eq_of_toNat {n : Nat} (octet : UInt8) (same : octet.toNat = n) :
    UInt8.ofNat n = octet := by
  rw [← same, UInt8.ofNat_toNat]

/-! ### The octets of a character -/

theorem encodeChar_of_ascii {c : Char} (ascii : c.toNat < 0x80) :
    encodeChar c = [UInt8.ofNat c.toNat] := by
  rw [encodeChar, if_pos ascii]

/-- The first octet of a character tells that it is the first. -/
theorem exists_encodeChar (c : Char) : ∃ first tail, encodeChar c = first :: tail ∧
    ¬ Continues first ∧ ∀ octet ∈ tail, Continues octet := by
  have valid : c.toNat < 0xD800 ∨ 0xDFFF < c.toNat ∧ c.toNat < 0x110000 := c.valid
  rw [encodeChar]
  generalize c.toNat = n at valid
  by_cases one : n < 0x80
  · refine ⟨_, _, if_pos one, ?_, List.forall_mem_nil _⟩
    simp [Continues, toNat_ofNat_of_lt (show n < 256 by omega)]
    omega
  by_cases two : n < 0x800
  · refine ⟨_, _, by rw [if_neg one, if_pos two], ?_, ?_⟩
    · rw [Continues, toNat_ofNat_of_lt (by omega)]
      omega
    · refine List.forall_mem_singleton.2 ?_
      rw [Continues, toNat_ofNat_of_lt (by omega)]
      omega
  by_cases three : n < 0x10000
  · refine ⟨_, _, by rw [if_neg one, if_neg two, if_pos three], ?_, ?_⟩
    · rw [Continues, toNat_ofNat_of_lt (by omega)]
      omega
    · refine List.forall_mem_cons.2 ⟨?_, List.forall_mem_singleton.2 ?_⟩
      all_goals
        rw [Continues, toNat_ofNat_of_lt (by omega)]
        omega
  · refine ⟨_, _, by rw [if_neg one, if_neg two, if_neg three], ?_, ?_⟩
    · rw [Continues, toNat_ofNat_of_lt (by omega)]
      omega
    · refine List.forall_mem_cons.2
        ⟨?_, List.forall_mem_cons.2 ⟨?_, List.forall_mem_singleton.2 ?_⟩⟩
      all_goals
        rw [Continues, toNat_ofNat_of_lt (by omega)]
        omega

theorem encodeChar_ne_nil (c : Char) : encodeChar c ≠ [] := by
  obtain ⟨first, tail, same, -⟩ := exists_encodeChar c
  simp [same]

/-- Only ASCII characters have ASCII octets. -/
theorem le_of_mem_encodeChar {c : Char} (wide : 0x80 ≤ c.toNat) {octet : UInt8}
    (member : octet ∈ encodeChar c) : 0x80 ≤ octet.toNat := by
  have valid : c.toNat < 0xD800 ∨ 0xDFFF < c.toNat ∧ c.toNat < 0x110000 := c.valid
  rw [encodeChar, if_neg (by omega)] at member
  generalize c.toNat = n at *
  split at member
  · simp only [List.mem_cons, List.not_mem_nil, or_false] at member
    rcases member with rfl | rfl <;> rw [toNat_ofNat_of_lt (by omega)] <;> omega
  split at member
  · simp only [List.mem_cons, List.not_mem_nil, or_false] at member
    rcases member with rfl | rfl | rfl <;> rw [toNat_ofNat_of_lt (by omega)] <;> omega
  · simp only [List.mem_cons, List.not_mem_nil, or_false] at member
    rcases member with rfl | rfl | rfl | rfl <;> rw [toNat_ofNat_of_lt (by omega)] <;> omega

/-! ### What the decoder accepts -/

theorem encodeChar_one {first : UInt8} (small : first.toNat < 0x80) :
    encodeChar (Char.ofNat first.toNat) = [first] := by
  have back := toNat_ofNat_of_scalar (n := first.toNat) (by omega)
  rw [encodeChar_of_ascii (by omega), back, UInt8.ofNat_toNat]

theorem encodeChar_two {first second : UInt8} (low : 0xC2 ≤ first.toNat)
    (high : first.toNat < 0xE0) (continues : Continues second) :
    encodeChar (Char.ofNat ((first.toNat - 0xC0) * 0x40 + (second.toNat - 0x80))) =
      [first, second] := by
  obtain ⟨least, most⟩ := continues
  have back := toNat_ofNat_of_scalar
    (n := (first.toNat - 0xC0) * 0x40 + (second.toNat - 0x80)) (by omega)
  rw [encodeChar, back, if_neg (by omega), if_pos (by omega)]
  rw [ofNat_eq_of_toNat first (by omega), ofNat_eq_of_toNat second (by omega)]

theorem encodeChar_three {first second third : UInt8} {bits : Nat}
    (same : bits = ((first.toNat - 0xE0) * 0x40 + (second.toNat - 0x80)) * 0x40 +
      (third.toNat - 0x80))
    (low : 0xE0 ≤ first.toNat) (high : first.toNat < 0xF0)
    (continues : Continues second) (also : Continues third)
    (scalar : bits < 0xD800 ∨ 0xDFFF < bits) (shortest : 0x800 ≤ bits) :
    encodeChar (Char.ofNat bits) = [first, second, third] := by
  obtain ⟨least, most⟩ := continues
  obtain ⟨lower, upper⟩ := also
  have back := toNat_ofNat_of_scalar (n := bits) (by omega)
  rw [encodeChar, back, if_neg (by omega), if_neg (by omega), if_pos (by omega)]
  rw [ofNat_eq_of_toNat first (by omega), ofNat_eq_of_toNat second (by omega),
    ofNat_eq_of_toNat third (by omega)]

theorem encodeChar_four {first second third fourth : UInt8} {bits : Nat}
    (same : bits = (((first.toNat - 0xF0) * 0x40 + (second.toNat - 0x80)) * 0x40 +
      (third.toNat - 0x80)) * 0x40 + (fourth.toNat - 0x80))
    (low : 0xF0 ≤ first.toNat) (continues : Continues second) (also : Continues third)
    (last : Continues fourth) (scalar : bits < 0x110000) (shortest : 0x10000 ≤ bits) :
    encodeChar (Char.ofNat bits) = [first, second, third, fourth] := by
  obtain ⟨least, most⟩ := continues
  obtain ⟨lower, upper⟩ := also
  obtain ⟨lowest, uppermost⟩ := last
  have back := toNat_ofNat_of_scalar (n := bits) (by omega)
  rw [encodeChar, back, if_neg (by omega), if_neg (by omega), if_neg (by omega)]
  rw [ofNat_eq_of_toNat first (by omega), ofNat_eq_of_toNat second (by omega),
    ofNat_eq_of_toNat third (by omega), ofNat_eq_of_toNat fourth (by omega)]

section

variable {bits further low high : Nat} {done : List Char} {mark octets : Bytes}

/-- An accepted sequence goes on with an octet that the pending character allows. -/
theorem exists_octet {pending : Pending} (unread : mark ≠ [])
    (accepted : (scan (some pending) done mark octets).2 = []) :
    ∃ octet rest, octets = octet :: rest ∧ pending.low ≤ octet.toNat ∧
      octet.toNat ≤ pending.high := by
  cases octets with
  | nil => exact absurd accepted unread
  | cons octet rest =>
    by_cases within : pending.low ≤ octet.toNat ∧ octet.toNat ≤ pending.high
    · exact ⟨octet, rest, rfl, within⟩
    · rw [scan, advance, Pending.feed] at accepted
      simp only [within, if_false] at accepted
      exact absurd accepted unread

theorem scan_last (unread : mark ≠ [])
    (accepted : (scan (some ⟨bits, 0, low, high⟩) done mark octets).2 = []) :
    ∃ octet rest, octets = octet :: rest ∧ low ≤ octet.toNat ∧ octet.toNat ≤ high ∧
      scan (some ⟨bits, 0, low, high⟩) done mark octets =
        scan none (Char.ofNat (bits * 0x40 + (octet.toNat - 0x80)) :: done) rest rest := by
  obtain ⟨octet, rest, rfl, least, most⟩ := exists_octet unread accepted
  refine ⟨octet, rest, rfl, least, most, scan_of_complete ?_ _ _ _⟩
  rw [advance, Pending.feed]
  exact if_pos ⟨least, most⟩

theorem scan_more (unread : mark ≠ [])
    (accepted : (scan (some ⟨bits, further + 1, low, high⟩) done mark octets).2 = []) :
    ∃ octet rest, octets = octet :: rest ∧ low ≤ octet.toNat ∧ octet.toNat ≤ high ∧
      scan (some ⟨bits, further + 1, low, high⟩) done mark octets =
        scan (some ⟨bits * 0x40 + (octet.toNat - 0x80), further, 0x80, 0xBF⟩) done mark rest := by
  obtain ⟨octet, rest, rfl, least, most⟩ := exists_octet unread accepted
  refine ⟨octet, rest, rfl, least, most, scan_of_unfinished ?_ _ _ _⟩
  rw [advance, Pending.feed]
  exact if_pos ⟨least, most⟩

end

/-- What the decoder accepts begins with a character, unless it is empty. -/
theorem exists_char {done : List Char} {octets : Bytes} (nonempty : octets ≠ [])
    (accepted : (scan none done octets octets).2 = []) :
    ∃ c rest, octets = encodeChar c ++ rest ∧
      scan none done octets octets = scan none (c :: done) rest rest := by
  obtain ⟨first, others, rfl⟩ := List.exists_cons_of_ne_nil nonempty
  have byte : first.toNat < 0x100 := first.toNat_lt
  rw [scan, advance, start] at accepted ⊢
  -- The first octet tells how many follow.  After some the second one has a narrower range, which
  -- rules out surrogates, numbers that are too great, and numbers that fewer octets could encode.
  by_cases one : first.toNat < 0x80
  · simp only [one, if_true]
    exact ⟨_, others, by rw [encodeChar_one one, List.singleton_append], rfl⟩
  simp only [one, if_false] at accepted ⊢
  by_cases stray : first.toNat < 0xC2
  · simp [stray] at accepted
  simp only [stray, if_false] at accepted ⊢
  by_cases two : first.toNat < 0xE0
  · simp only [two, if_true] at accepted ⊢
    obtain ⟨second, rest, rfl, low, high, next⟩ := scan_last nonempty accepted
    rw [next]
    exact ⟨_, rest, by rw [encodeChar_two (by omega) two ⟨low, by omega⟩]; rfl, rfl⟩
  simp only [two, if_false] at accepted ⊢
  by_cases three : first.toNat < 0xF0
  · simp only [three, if_true] at accepted ⊢
    obtain ⟨second, others, rfl, low, high, next⟩ := scan_more nonempty accepted
    rw [next] at accepted ⊢
    obtain ⟨third, rest, rfl, least, most, last⟩ := scan_last nonempty accepted
    have continues : Continues second := ⟨by split at low <;> omega, by split at high <;> omega⟩
    rw [last]
    refine ⟨_, rest, ?_, rfl⟩
    rw [encodeChar_three rfl (by omega) three continues ⟨least, by omega⟩]
    · rfl
    · split at high <;> omega
    · split at low <;> omega
  simp only [three, if_false] at accepted ⊢
  by_cases four : first.toNat < 0xF5
  · simp only [four, if_true] at accepted ⊢
    obtain ⟨second, others, rfl, low, high, next⟩ := scan_more nonempty accepted
    rw [next] at accepted ⊢
    obtain ⟨third, others, rfl, least, most, further⟩ := scan_more nonempty accepted
    rw [further] at accepted ⊢
    obtain ⟨fourth, rest, rfl, lowest, uppermost, last⟩ := scan_last nonempty accepted
    have continues : Continues second := ⟨by split at low <;> omega, by split at high <;> omega⟩
    rw [last]
    refine ⟨_, rest, ?_, rfl⟩
    rw [encodeChar_four rfl (by omega) continues ⟨least, by omega⟩ ⟨lowest, by omega⟩]
    · rfl
    · split at high <;> omega
    · split at low <;> omega
  · simp [four] at accepted

/-- What the decoder accepts is what the encoder writes. -/
theorem eq_encodeChars_of_scan {done : List Char} {octets : Bytes}
    (accepted : (scan none done octets octets).2 = []) : ∃ chars,
      octets = encodeChars chars ∧
        (scan none done octets octets).1 = chars.reverse ++ done := by
  induction length : octets.length using Nat.strongRecOn generalizing octets done with
  | ind n ih =>
    cases octets with
    | nil => exact ⟨[], rfl, rfl⟩
    | cons octet others =>
      obtain ⟨c, rest, same, next⟩ := exists_char (List.cons_ne_nil octet others) accepted
      rw [next] at accepted ⊢
      have positive := List.length_pos_iff.2 (encodeChar_ne_nil c)
      have shorter : rest.length < n := by
        rw [← length, same, List.length_append]
        omega
      obtain ⟨chars, rfl, decoded⟩ := ih rest.length shorter accepted rfl
      exact ⟨c :: chars, by rw [same, encodeChars_cons], by simp [decoded]⟩

/-- The decoder accepts exactly what the encoder writes. -/
theorem decode?_eq_some_iff {octets : Bytes} {text : String} :
    decode? octets = some text ↔ octets = encode text := by
  refine ⟨fun decoded => ?_, fun same => by rw [same, decode?_encode]⟩
  rw [decode?, split] at decoded
  cases rest : (scan none [] octets octets).2 with
  | cons octet others => simp [rest] at decoded
  | nil =>
    obtain ⟨chars, same, done⟩ := eq_encodeChars_of_scan rest
    rw [List.append_nil] at done
    simp only [rest, done, List.reverse_reverse, Option.some.injEq] at decoded
    rw [same, ← decoded, encode, String.toList_ofList]

theorem length_encodeChar (c : Char) : (encodeChar c).length = c.utf8Size := by
  have one : c.val ≤ 0x7F ↔ c.toNat < 0x80 := UInt32.le_iff_toNat_le.trans Nat.lt_succ_iff.symm
  have two : c.val ≤ 0x7FF ↔ c.toNat < 0x800 := UInt32.le_iff_toNat_le.trans Nat.lt_succ_iff.symm
  have three : c.val ≤ 0xFFFF ↔ c.toNat < 0x10000 :=
    UInt32.le_iff_toNat_le.trans Nat.lt_succ_iff.symm
  change _ =
    if c.val ≤ 0x7F then 1 else if c.val ≤ 0x7FF then 2 else if c.val ≤ 0xFFFF then 3 else 4
  simp only [encodeChar, one, two, three]
  split
  · rfl
  · split
    · rfl
    · split <;> rfl

/-- The octets of a text are as many as it says. -/
theorem length_encode (text : String) : (encode text).length = text.utf8ByteSize := by
  rw [encode, ← String.ofList_toList (s := text), String.toList_ofList]
  induction text.toList with
  | nil => rfl
  | cons c chars ih =>
    rw [encodeChars_cons, List.length_append, length_encodeChar, ih, String.ofList_cons,
      String.utf8ByteSize_append, String.utf8ByteSize_singleton]
/-- Where the strict decoder reads everything, the lenient one has nothing to replace. -/
theorem scanLenient_of_scan {state : Option Pending} {done : List Char} {mark octets : Bytes}
    (unread : mark = [] → state = none ∧ octets = [])
    (accepted : (scan state done mark octets).2 = []) :
    scanLenient state done octets = (scan state done mark octets).1 := by
  induction octets generalizing state done mark with
  | nil =>
    obtain ⟨rfl, -⟩ := unread accepted
    rfl
  | cons octet rest ih =>
    have begun : mark ≠ [] := fun none => List.cons_ne_nil _ _ (unread none).2
    rw [scan] at accepted ⊢
    cases next : advance state octet with
    | complete c =>
      simp only [next] at accepted ⊢
      have lenient :
          scanLenient state done (octet :: rest) = scanLenient none (c :: done) rest := by
        cases state <;> simp [scanLenient, next]
      rw [lenient]
      exact ih (fun none => ⟨rfl, none⟩) accepted
    | unfinished pending =>
      simp only [next] at accepted ⊢
      have lenient :
          scanLenient state done (octet :: rest) = scanLenient (some pending) done rest := by
        cases state <;> simp [scanLenient, next]
      rw [lenient]
      exact ih (fun none => absurd none begun) accepted
    | malformed =>
      simp only [next] at accepted
      exact absurd accepted begun

@[simp]
theorem decodeLenient_encode (text : String) : decodeLenient (encode text) = text := by
  have all := scan_encodeChars text.toList [] []
  simp only [List.append_nil, scan] at all
  rw [decodeLenient, encode, scanLenient_of_scan (fun none => ⟨rfl, none⟩) (by rw [all]), all,
    List.reverse_reverse, String.ofList_toList]

/-- What the encoder writes can be taken apart in only one way. -/
theorem encodeChars_of_append {c : Char} {rest : Bytes} {chars : List Char}
    (same : encodeChar c ++ rest = encodeChars chars) :
    ∃ others, chars = c :: others ∧ rest = encodeChars others := by
  have all := scan_encodeChars chars [] []
  rw [List.append_nil, ← same, scan_encodeChar, scan] at all
  have accepted : (scan none [c] rest rest).2 = [] := by rw [all]
  obtain ⟨others, written, done⟩ := eq_encodeChars_of_scan accepted
  refine ⟨others, ?_, written⟩
  rw [all, List.append_nil] at done
  simpa using congrArg List.reverse done

end Utf8
end HttpExchange
