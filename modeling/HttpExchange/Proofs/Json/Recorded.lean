import HttpExchange.Proofs.Json.Record
import HttpExchange.Proofs.Json.Skipped

/-!
# What is read as a record

A record is read from an object or from an array and from nothing else.
-/

namespace HttpExchange
namespace Json
namespace Read

open Grammar

variable {σ : Type}

/-! ### Objects -/

section

variable {fields : List (Field σ)} {size : Nat}
  (sound : ∀ field ∈ fields, ∀ {record input after rest},
    field.read record input = .ok (after, rest) →
      ∃ blanks raw, Blanks blanks ∧ Text raw ∧ input = blanks ++ (raw ++ rest))

include sound

/-- A step through the members takes one of them, and then there are others. -/
theorem entry_of_byName {fuel : Nat} {first : Bool} {seen : List String} {record : σ}
    {input left : Bytes} {result : σ × Bytes} (found : nextMember first input = .ok (true, left))
    (read : byName fields size (fuel + 1) first seen record input = .ok result) :
    ∃ octets one seen' record' after, Entry octets one ∧ 0x22 :: left = octets ++ after ∧
      byName fields size fuel false seen' record' after = .ok result := by
  rw [byName, found] at read
  obtain ⟨_, ⟨⟩, begun⟩ := bind_eq_ok_iff.1 read
  dsimp only at begun
  rw [if_pos rfl] at begun
  obtain ⟨⟨name, _⟩, named, goes⟩ := bind_eq_ok_iff.1 begun
  obtain ⟨octets, chars, literal, rfl, rfl⟩ := text_eq_ok_iff.1 named
  dsimp only at goes
  split at goes
  · obtain ⟨_, stop, goes⟩ := bind_eq_ok_iff.1 goes
    obtain ⟨_, skipped, others⟩ := bind_eq_ok_iff.1 goes
    obtain ⟨before, between, rfl⟩ := colon_eq_ok_iff.1 stop
    obtain ⟨after, raw, also, text, rfl⟩ := text_of_skipValue skipped
    exact ⟨_, _, _, _, _, .intro literal between also text, by simp, others⟩
  · rename_i field search
    split at goes
    · cases goes
    · obtain ⟨_, stop, goes⟩ := bind_eq_ok_iff.1 goes
      obtain ⟨⟨_, _⟩, taken, others⟩ := bind_eq_ok_iff.1 goes
      obtain ⟨before, between, rfl⟩ := colon_eq_ok_iff.1 stop
      obtain ⟨after, raw, also, text, rfl⟩ := sound field (List.mem_of_find?_eq_some search) taken
      exact ⟨_, _, _, _, _, .intro literal between also text, by simp, others⟩

theorem further_of_byName {fuel : Nat} {seen : List String} {record final : σ}
    {input rest : Bytes}
    (read : byName fields size fuel false seen record input = .ok (final, rest)) :
    ∃ octets members, Further Entry octets members ∧ input = octets ++ 0x7D :: rest := by
  induction fuel generalizing seen record input with
  | zero => cases read
  | succ fuel ih =>
    obtain ⟨⟨more, left⟩, found, taken⟩ := bind_eq_ok_iff.1 read
    cases between_of_nextMember found with
    | ends blank =>
      cases taken
      exact ⟨_, [], .done blank, rfl⟩
    | @goesOn before after _ _ octet blank also visible same =>
      obtain ⟨octets, one, _, _, _, entry, parted, read⟩ := entry_of_byName sound found read
      obtain ⟨others, members, further, rfl⟩ := ih read
      refine ⟨_, one :: members, .more blank also entry further, ?_⟩
      rw [← same, List.singleton_append, parted]
      simp

/-- What is read by name is a list of members. -/
theorem listed_of_byName {fuel : Nat} {seen : List String} {record final : σ}
    {input rest : Bytes}
    (read : byName fields size fuel true seen record input = .ok (final, rest)) :
    ∃ octets members, Listed Entry octets members ∧ input = octets ++ 0x7D :: rest := by
  cases fuel with
  | zero => cases read
  | succ fuel =>
    obtain ⟨⟨more, left⟩, found, taken⟩ := bind_eq_ok_iff.1 read
    cases between_of_nextMember found with
    | ends blank =>
      cases taken
      exact ⟨_, [], .none blank, rfl⟩
    | @begins before _ _ octet blank visible same =>
      obtain ⟨octets, one, _, _, _, entry, parted, read⟩ := entry_of_byName sound found read
      obtain ⟨others, members, further, rfl⟩ := further_of_byName sound read
      refine ⟨_, one :: members, .some blank entry further, ?_⟩
      rw [← same, List.singleton_append, parted]
      simp

end

/-! ### Arrays -/

theorem closeArray_eq_ok_iff {input rest : Bytes} :
    closeArray input = .ok rest ↔ ∃ blanks, Blanks blanks ∧ input = blanks ++ 0x5D :: rest := by
  constructor
  · intro read
    unfold closeArray at read
    split at read
    · cases read
    rename_i octet left here
    obtain ⟨blanks, blank, rfl⟩ := blanks_of_skipBlanks here
    split at read
    · rename_i closes
      subst closes
      cases read
      exact ⟨blanks, blank, rfl⟩
    split at read
    · split at read
      · cases read
      · split at read <;> cases read
    · cases read
  · rintro ⟨blanks, blank, rfl⟩
    rw [closeArray, skipBlanks_append_cons blank (by decide)]
    rfl

section

variable {γ : Type} {field : Field σ} {apply : γ → σ → σ} {written : Bytes → γ → Prop} {size : Nat}
  (begins : ∀ {octets change}, written octets change →
    ∃ octet others, octets = octet :: others ∧ Visible 0x5D octet)
  (sound : ∀ {record input after rest}, field.read record input = .ok (after, rest) →
    ∃ blanks octets change, Blanks blanks ∧ written octets change ∧
      after = apply change record ∧ input = blanks ++ (octets ++ rest))
  (complete : ∀ {octets change rest} record, written octets change → octets.length < size →
    Ends rest → field.read record (octets ++ rest) = .ok (apply change record, rest))

include begins sound complete

/-- A record of one field is read in order from one element, or from none. -/
theorem inOrder_singleton_eq_ok_iff {record final : σ} {input rest : Bytes}
    (short : input.length < size) :
    inOrder [field] true record input = .ok (final, rest) ↔
      ∃ octets changes, Listed written octets changes ∧ changes.length ≤ 1 ∧
        input = octets ++ 0x5D :: rest ∧ final = applyAll apply changes record := by
  constructor
  · intro read
    obtain ⟨⟨more, left⟩, found, read⟩ := bind_eq_ok_iff.1 read
    cases between_of_nextElement found with
    | ends blank =>
      cases read
      exact ⟨_, [], .none blank, Nat.zero_le _, rfl, rfl⟩
    | @begins before _ _ octet blank visible same =>
      obtain ⟨⟨_, _⟩, taken, read⟩ := bind_eq_ok_iff.1 read
      obtain ⟨_, closed, ⟨⟩⟩ := bind_eq_ok_iff.1 read
      obtain ⟨blanks, octets, change, between, wrote, rfl, parted⟩ := sound taken
      obtain ⟨after, also, rfl⟩ := closeArray_eq_ok_iff.1 closed
      refine ⟨_, [change], .some (blanks_append blank between) wrote (.done also),
        Nat.le_refl _, ?_, rfl⟩
      rw [← same, List.nil_append, parted]
      simp
  · rintro ⟨octets, changes, listed, single, rfl, rfl⟩
    cases listed with
    | none between =>
      rw [inOrder, nextElement_of_between (.ends between)]
      rfl
    | @some blanks octets others one changes between wrote further =>
      obtain rfl : changes = [] := by simpa using single
      cases further with
      | done also =>
        obtain ⟨octet, tail, shape, visible⟩ := begins wrote
        have opens : ∃ octet others left, octets = octet :: others ∧ Visible 0x5D octet ∧
            octets = [] ++ left := ⟨octet, tail, octets, shape, visible, rfl⟩
        obtain ⟨left, same, next⟩ := exists_between_first opens between (others ++ 0x5D :: rest)
        obtain rfl : left = octets ++ (others ++ 0x5D :: rest) := same
        simp only [List.length_append, List.length_cons] at short
        have ends : Ends (0x5D :: rest) := ends_closing .list rest
        have read := complete record wrote (by omega) (ends_append also ends)
        simp only [List.append_assoc, inOrder, nextElement_of_between next, bind, Except.bind,
          if_true, read, closeArray_eq_ok_iff.2 ⟨others, also, rfl⟩]
        rfl

end

/-! ### Records -/

theorem record_of_bracket {blanks : Bytes} (blank : Blanks blanks) (wanted : String)
    (fields : List (Field σ)) (initial : σ) (fuel : Nat) (left : Bytes) :
    record wanted fields initial fuel (blanks ++ 0x5B :: left) =
      inOrder fields true initial left := by
  rw [record, skipBlanks_append_cons blank (by decide)]
  rfl

/-- A record is read from an array or from an object. -/
theorem opened_of_record {wanted : String} {fields : List (Field σ)} {initial : σ} {fuel : Nat}
    {input : Bytes} {result : σ × Bytes}
    (read : record wanted fields initial fuel input = .ok result) :
    ∃ blanks left, Blanks blanks ∧
      (input = blanks ++ 0x5B :: left ∧ inOrder fields true initial left = .ok result ∨
        input = blanks ++ 0x7B :: left ∧
          byName fields fuel fuel true [] initial left = .ok result) := by
  unfold record at read
  split at read
  · cases read
  rename_i octet left here
  obtain ⟨blanks, blank, rfl⟩ := blanks_of_skipBlanks here
  split at read
  · rename_i bracket
    subst bracket
    exact ⟨blanks, left, blank, .inl ⟨rfl, read⟩⟩
  split at read
  · rename_i brace
    subst brace
    exact ⟨blanks, left, blank, .inr ⟨rfl, read⟩⟩
  · exact absurd read (mismatch_ne_ok _ _ _ _)

/-! ### Values of any type -/

/-- A text is a numeral, or begins otherwise. -/
theorem figures_or_begins {octets : Bytes} (text : Text octets) :
    Figures octets ∨ ∃ octet others, octets = octet :: others ∧ isBlank octet = false ∧
      octet ≠ 0x2D ∧ Ascii.isDigit octet = false := by
  have flatly : ∀ {octets}, Flat octets → Figures octets ∨ ∃ octet others,
      octets = octet :: others ∧ isBlank octet = false ∧ octet ≠ 0x2D ∧
        Ascii.isDigit octet = false := by
    intro octets flat
    cases flat with
    | null | true | false | quoted => exact .inr ⟨_, _, rfl, by decide⟩
    | figures figures => exact .inl figures
  obtain ⟨depth, form⟩ := text
  cases depth with
  | zero => exact flatly form
  | succ depth =>
    rcases form with flat | array | object
    · exact flatly flat
    · exact .inr ⟨_, _, rfl, by decide⟩
    · exact .inr ⟨_, _, rfl, by decide⟩

/-- A numeral is read up to what does not go on with it. -/
theorem rest_of_value {fuel depth : Nat} {octets rest left : Bytes} {v : Value}
    (figures : Figures octets) (ends : Ends rest)
    (read : value fuel depth (octets ++ rest) = .ok (v, left)) : left = rest := by
  obtain @⟨whole, fraction, digits, power, exponent, negative, wholly, fractional, scaled⟩ :=
    figures
  have split := splitNumeral_of_whole wholly fractional scaled ends .endOfValue
  have numbered : ∀ {negative n},
      number negative (whole ++ (fraction ++ (power ++ rest))) = .ok (n, left) → left = rest := by
    intro negative n read
    rw [number, split] at read
    obtain ⟨_, ⟨⟩, read⟩ := bind_eq_ok_iff.1 read
    obtain ⟨_, -, ⟨⟩⟩ := bind_eq_ok_iff.1 read
    rfl
  cases negative with
  | true =>
    simp only [if_true, List.append_assoc, List.cons_append, List.nil_append] at read
    rw [value_cons (by decide)] at read
    obtain ⟨⟨n, _⟩, taken, ⟨⟩⟩ := bind_eq_ok_iff.1 read
    exact numbered taken
  | false =>
    obtain ⟨nonempty, digital⟩ := wholly.digital
    obtain ⟨first, others, rfl⟩ := List.exists_cons_of_ne_nil nonempty
    have digit := digital first List.mem_cons_self
    simp only [Bool.false_eq_true, if_false, List.append_assoc, List.cons_append,
      List.nil_append] at read
    rw [value_cons (visible_of_isDigit digit).1, valueFrom_of_isDigit digit] at read
    obtain ⟨⟨n, _⟩, taken, ⟨⟩⟩ := bind_eq_ok_iff.1 read
    exact numbered taken

/-- A text is read as a value exactly if it writes one. -/
theorem value_eq_ok_iff {fuel depth : Nat} {blanks octets rest : Bytes} {result : Value × Bytes}
    (blank : Blanks blanks) (text : Text octets) (short : octets.length < fuel) (ends : Ends rest) :
    value fuel depth (blanks ++ (octets ++ rest)) = .ok result ↔
      ∃ v, Writes depth octets v ∧ result = (v, rest) := by
  constructor
  · intro read
    obtain ⟨v, left⟩ := result
    obtain ⟨before, taken, also, writes, same⟩ := writes_of_value read
    have form : Text taken := ⟨depth, writes.form⟩
    -- Where a numeral ends is only known of the one that is followed by `rest`.
    rcases figures_or_begins text with figures | ⟨octet, others, rfl, visible, other⟩
    · rw [value_append blank] at read
      obtain rfl := rest_of_value figures ends read
      obtain ⟨rfl, -⟩ := eq_of_texts blank text (fun _ => ends) also form (fun _ => ends) same
      exact ⟨v, writes, rfl⟩
    · have unfigured : ¬ Figures taken := by
        intro figures
        obtain ⟨first, tail, rfl, shown, -⟩ := begins_of_flat (.figures figures)
        obtain rfl := visible_unique blank visible also shown same
        exact not_figures other _ figures
      obtain ⟨rfl, rfl⟩ :=
        eq_of_texts blank text (fun _ => ends) also form (absurd · unfigured) same
      exact ⟨v, writes, rfl⟩
  · rintro ⟨v, writes, rfl⟩
    rw [value_append blank, value_of_writes writes short ends]

end Read
end Json
end HttpExchange
