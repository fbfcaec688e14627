import HttpExchange.Proofs.Json.Items

/-!
# Documents are read by the grammar

The documents that are read are those of the grammar, with the values that it gives them
(`Value.parse_eq_ok_iff`).
-/

namespace HttpExchange
namespace Json
namespace Read

open Grammar

/-- The reader of values inside an array or object, if `depth` allows one. -/
def nested (fuel : Nat) : (depth : Nat) → Option (Reader Value)
  | 0 => none
  | depth + 1 => some (value fuel depth)

theorem value_eq (fuel depth : Nat) (input : Bytes) : value fuel depth input =
    match skipBlanks input with
    | [] => fail .endOfValue []
    | octet :: rest => valueFrom fuel (nested fuel depth) octet rest := by
  cases depth <;> rfl

theorem value_cons {octet : UInt8} (visible : isBlank octet = false) (fuel depth : Nat)
    (rest : Bytes) :
    value fuel depth (octet :: rest) = valueFrom fuel (nested fuel depth) octet rest := by
  rw [value_eq, skipBlanks_cons visible]

theorem value_append {blanks : Bytes} (blank : Blanks blanks) (fuel depth : Nat) (input : Bytes) :
    value fuel depth (blanks ++ input) = value fuel depth input := by
  rw [value_eq, value_eq, skipBlanks_append blank]

/-! ### What begins a value -/

instance (close octet : UInt8) : Decidable (Visible close octet) :=
  inferInstanceAs (Decidable (_ ∧ _))

theorem visible_of_isDigit {octet : UInt8} (digit : Ascii.isDigit octet = true) :
    Visible 0x5D octet := by
  constructor
  · cases blank : isBlank octet with
    | false => rfl
    | true =>
      simp only [isBlank, Bool.or_eq_true, beq_iff_eq] at blank
      rcases blank with ((rfl | rfl) | rfl) | rfl <;> exact absurd digit (by decide)
  · rintro rfl
    exact absurd digit (by decide)

theorem begins_of_whole {whole : Bytes} (wholly : Whole whole) (negative : Bool) (rest : Bytes) :
    ∃ octet others, (if negative then [0x2D] else []) ++ (whole ++ rest) = octet :: others ∧
      Visible 0x5D octet := by
  cases negative with
  | true => exact ⟨_, _, rfl, by decide⟩
  | false =>
    obtain ⟨nonempty, digital⟩ := wholly.digital
    obtain ⟨first, others, rfl⟩ := List.exists_cons_of_ne_nil nonempty
    exact ⟨first, _, rfl, visible_of_isDigit (digital first List.mem_cons_self)⟩

theorem begins_of_numeral {octets : Bytes} {n : Number} (numeral : Grammar.Numeral octets n) :
    ∃ octet others, octets = octet :: others ∧ Visible 0x5D octet := by
  obtain ⟨wholly, -, -, -⟩ := numeral
  exact begins_of_whole wholly _ _

theorem begins_of_scalar {octets : Bytes} {v : Value} (scalar : Scalar octets v) :
    ∃ octet others, octets = octet :: others ∧ Visible 0x5D octet := by
  cases scalar with
  | null => exact ⟨_, _, rfl, by decide⟩
  | true => exact ⟨_, _, rfl, by decide⟩
  | false => exact ⟨_, _, rfl, by decide⟩
  | number numeral => exact begins_of_numeral numeral
  | string => exact ⟨_, _, rfl, by decide⟩

theorem begins_of_writes {depth : Nat} {octets : Bytes} {v : Value}
    (writes : Writes depth octets v) :
    ∃ octet others, octets = octet :: others ∧ Visible 0x5D octet := by
  cases depth with
  | zero => exact begins_of_scalar writes
  | succ depth =>
    rcases writes with scalar | array | object
    · exact begins_of_scalar scalar
    · exact ⟨_, _, rfl, by decide⟩
    · exact ⟨_, _, rfl, by decide⟩

/-! ### Scalars -/

theorem valueFrom_of_isDigit {octet : UInt8} (digit : Ascii.isDigit octet = true) (fuel : Nat)
    (nested : Option (Reader Value)) (rest : Bytes) : valueFrom fuel nested octet rest =
      (number false (octet :: rest) >>= fun (n, rest) => .ok (.number n, rest)) := by
  have other : ∀ letter, Ascii.isDigit letter = false → octet ≠ letter := by
    rintro _ different rfl
    rw [digit] at different
    cases different
  unfold valueFrom
  rw [if_neg (other _ (by decide)), if_neg (other _ (by decide)),
    if_neg (other _ (by decide)), if_neg (other _ (by decide)), if_pos digit]

theorem value_of_numeral {octets rest : Bytes} {n : Number} (numeral : Grammar.Numeral octets n)
    (ends : Ends rest) (fuel depth : Nat) :
    value fuel depth (octets ++ rest) = .ok (.number n, rest) := by
  obtain @⟨negative, whole, fraction, digits, power, exponent, n, wholly, fractional, scaled,
    number⟩ := numeral
  have read := number_of_numeral wholly fractional scaled number ends
  cases negative with
  | true =>
    simp only [if_true, List.append_assoc, List.cons_append, List.nil_append]
    rw [value_cons (by decide)]
    simp [valueFrom, read, bind, Except.bind]
  | false =>
    obtain ⟨nonempty, digital⟩ := wholly.digital
    obtain ⟨first, others, rfl⟩ := List.exists_cons_of_ne_nil nonempty
    have digit := digital first List.mem_cons_self
    simp only [Bool.false_eq_true, if_false, List.append_assoc, List.cons_append,
      List.nil_append] at read ⊢
    rw [value_cons (visible_of_isDigit digit).1, valueFrom_of_isDigit digit, read]
    rfl

/-- Scalars are read at any depth. -/
theorem value_of_scalar {octets rest : Bytes} {v : Value} (scalar : Scalar octets v)
    (ends : Ends rest) (fuel depth : Nat) :
    value fuel depth (octets ++ rest) = .ok (v, rest) := by
  cases scalar with
  | null =>
    rw [List.cons_append, value_cons (by decide)]
    rfl
  | true =>
    rw [List.cons_append, value_cons (by decide)]
    rfl
  | false =>
    rw [List.cons_append, value_cons (by decide)]
    rfl
  | number numeral => exact value_of_numeral numeral ends fuel depth
  | string literal =>
    rw [List.cons_append, List.append_assoc, value_cons (by decide)]
    simp [valueFrom, Ascii.isDigit, text_of_literal literal, bind, Except.bind]

/-- What begins neither an array nor an object is a scalar, or is not read. -/
theorem scalar_of_valueFrom {octet : UInt8} {fuel : Nat} {nested : Option (Reader Value)}
    {input rest : Bytes} {v : Value} (flat : octet ≠ 0x5B ∧ octet ≠ 0x7B)
    (read : valueFrom fuel nested octet input = .ok (v, rest)) :
    ∃ octets, Scalar octets v ∧ octet :: input = octets ++ rest := by
  unfold valueFrom at read
  split at read
  · rename_i same
    obtain ⟨_, word, ⟨⟩⟩ := bind_eq_ok_iff.1 read
    rw [wordNull, word_eq_ok_iff] at word
    exact ⟨_, .null, by rw [same, word]; rfl⟩
  split at read
  · rename_i same
    obtain ⟨_, word, ⟨⟩⟩ := bind_eq_ok_iff.1 read
    rw [wordTrue, word_eq_ok_iff] at word
    exact ⟨_, .true, by rw [same, word]; rfl⟩
  split at read
  · rename_i same
    obtain ⟨_, word, ⟨⟩⟩ := bind_eq_ok_iff.1 read
    rw [wordFalse, word_eq_ok_iff] at word
    exact ⟨_, .false, by rw [same, word]; rfl⟩
  split at read
  · rename_i same
    obtain ⟨⟨n, _⟩, number, ⟨⟩⟩ := bind_eq_ok_iff.1 read
    obtain ⟨whole, fraction, digits, power, exponent, wholly, fractional, scaled, meant, rfl⟩ :=
      numeral_of_number number
    have numeral := @Numeral.intro true _ _ _ _ _ _ wholly fractional scaled meant
    exact ⟨_, .number numeral, by simp [same]⟩
  split at read
  · obtain ⟨⟨n, _⟩, number, ⟨⟩⟩ := bind_eq_ok_iff.1 read
    obtain ⟨whole, fraction, digits, power, exponent, wholly, fractional, scaled, meant, parted⟩ :=
      numeral_of_number number
    have numeral := @Numeral.intro false _ _ _ _ _ _ wholly fractional scaled meant
    exact ⟨_, .number numeral, by simp [parted]⟩
  split at read
  · rename_i same
    obtain ⟨⟨s, _⟩, string, ⟨⟩⟩ := bind_eq_ok_iff.1 read
    obtain ⟨octets, chars, literal, rfl, rfl⟩ := text_eq_ok_iff.1 string
    exact ⟨_, .string literal, by simp [same]⟩
  rw [if_neg flat.1, if_neg flat.2] at read
  cases read

/-! ### Members -/

theorem colon_eq_ok_iff {input rest : Bytes} : colon input = .ok rest ↔
    ∃ blanks, Blanks blanks ∧ input = blanks ++ 0x3A :: rest := by
  constructor
  · intro found
    unfold colon at found
    split at found
    · cases found
    rename_i octet rest here
    obtain ⟨blanks, blank, rfl⟩ := blanks_of_skipBlanks here
    split at found
    · rename_i same
      subst same
      cases found
      exact ⟨blanks, blank, rfl⟩
    · cases found
  · rintro ⟨blanks, blank, rfl⟩
    rw [colon, skipBlanks_append blank, skipBlanks_cons (by decide)]
    rfl

theorem begins_of_member {item : Bytes → Value → Prop} {octets : Bytes} {one : String × Value}
    (written : Member item octets one) : ∃ octet others left,
      octets = octet :: others ∧ Visible 0x7D octet ∧ octets = [0x22] ++ left := by
  obtain ⟨_, _, _, _⟩ := written
  exact ⟨_, _, _, rfl, by decide, rfl⟩

section

variable {element : Reader Value} {item : Bytes → Value → Prop}

section

variable {bound : Nat}
  (reads : ∀ {blanks octets v rest}, Blanks blanks → item octets v → octets.length < bound →
    Ends rest → element (blanks ++ (octets ++ rest)) = .ok (v, rest))

include reads

/-- A member is read if its value is. -/
theorem member_of_written {octets left rest : Bytes} {one : String × Value}
    (written : Member item octets one) (short : octets.length < bound) (ends : Ends rest)
    (same : [0x22] ++ left = octets ++ rest) : member element left = .ok (one, rest) := by
  obtain @⟨name, text, before, after, octets, v, literal, between, also, this⟩ := written
  simp only [List.length_append, List.length_cons] at short
  obtain rfl : left = name ++ 0x22 :: (before ++ 0x3A :: (after ++ (octets ++ rest))) := by
    simpa using same
  have value := reads also this (by omega) ends
  rw [member, text_of_literal literal]
  simp [bind, Except.bind, colon_eq_ok_iff.2 ⟨before, between, rfl⟩, value]

theorem members_of_listed {octets rest : Bytes} {entries : List (String × Value)}
    (listed : Listed (Member item) octets entries) {fuel : Nat} (enough : octets.length < fuel)
    (short : octets.length < bound) :
    members element fuel true [] (octets ++ 0x7D :: rest) = .ok (entries, rest) := by
  have closes : ∀ {rest}, Ends (0x7D :: rest) := by
    rintro _ _ ⟨⟩
    decide
  rw [members_eq_items]
  exact items_of_listed nextMember_eq_ok_iff begins_of_member (member_of_written reads) closes
    listed enough short rest

theorem elements_of_listed {octets rest : Bytes} {vs : List Value} (listed : Listed item octets vs)
    (begins : ∀ {octets v}, item octets v → ∃ octet others, octets = octet :: others ∧
      Visible 0x5D octet)
    {fuel : Nat} (enough : octets.length < fuel) (short : octets.length < bound) :
    elements element fuel true [] (octets ++ 0x5D :: rest) = .ok (vs, rest) := by
  have closes : ∀ {rest}, Ends (0x5D :: rest) := by
    rintro _ _ ⟨⟩
    decide
  have opens : ∀ {octets v}, item octets v → ∃ octet others left,
      octets = octet :: others ∧ Visible 0x5D octet ∧ octets = [] ++ left := by
    intro octets v this
    obtain ⟨octet, others, same, visible⟩ := begins this
    exact ⟨octet, others, octets, same, visible, rfl⟩
  have each : ∀ {octets v left rest}, item octets v → octets.length < bound → Ends rest →
      [] ++ left = octets ++ rest → element left = .ok (v, rest) := by
    rintro octets v left rest this short ends rfl
    exact reads blanks_nil this short ends
  rw [elements_eq_items]
  exact items_of_listed nextElement_eq_ok_iff opens each closes listed enough short rest

end

section

variable (sound : ∀ {input v rest}, element input = .ok (v, rest) →
  ∃ blanks octets, Blanks blanks ∧ item octets v ∧ input = blanks ++ (octets ++ rest))

include sound

/-- What is read as a member is one. -/
theorem written_of_member {input rest : Bytes} {one : String × Value}
    (read : member element input = .ok (one, rest)) :
    ∃ octets, Member item octets one ∧ 0x22 :: input = octets ++ rest := by
  obtain ⟨⟨name, _⟩, string, read⟩ := bind_eq_ok_iff.1 read
  obtain ⟨_, stop, read⟩ := bind_eq_ok_iff.1 read
  obtain ⟨⟨v, _⟩, value, ⟨⟩⟩ := bind_eq_ok_iff.1 read
  obtain ⟨octets, chars, literal, rfl, rfl⟩ := text_eq_ok_iff.1 string
  obtain ⟨before, between, rfl⟩ := colon_eq_ok_iff.1 stop
  obtain ⟨after, written, also, this, rfl⟩ := sound value
  exact ⟨_, .intro literal between also this, by simp⟩

theorem listed_of_members {fuel : Nat} {entries : List (String × Value)} {input rest : Bytes}
    (read : members element fuel true [] input = .ok (entries, rest)) :
    ∃ octets, Listed (Member item) octets entries ∧ input = octets ++ 0x7D :: rest := by
  rw [members_eq_items] at read
  refine listed_of_items nextMember_eq_ok_iff ?_ read
  intro left one rest read
  obtain ⟨octets, written, same⟩ := written_of_member sound read
  exact ⟨[], octets, blanks_nil, written, same⟩

theorem listed_of_elements {fuel : Nat} {vs : List Value} {input rest : Bytes}
    (read : elements element fuel true [] input = .ok (vs, rest)) :
    ∃ octets, Listed item octets vs ∧ input = octets ++ 0x5D :: rest := by
  rw [elements_eq_items] at read
  exact listed_of_items nextElement_eq_ok_iff sound read

end

end

/-! ### Values -/

/-- What is written at a depth is read at that depth. -/
theorem value_of_writes {fuel depth : Nat} {octets rest : Bytes} {v : Value}
    (writes : Writes depth octets v) (short : octets.length < fuel) (ends : Ends rest) :
    value fuel depth (octets ++ rest) = .ok (v, rest) := by
  induction depth generalizing octets rest v with
  | zero => exact value_of_scalar writes ends fuel 0
  | succ depth ih =>
    -- The fuel bounds the items of one list and not the nesting, which the depth bounds: the same
    -- fuel serves at every level, and the induction is on the depth.
    have reads : ∀ {blanks octets v rest}, Blanks blanks → Writes depth octets v →
        octets.length < fuel → Ends rest →
          value fuel depth (blanks ++ (octets ++ rest)) = .ok (v, rest) := by
      intro blanks octets v rest blank writes short ends
      rw [value_append blank, ih writes short ends]
    rcases writes with scalar | @⟨octets, vs, listed⟩ | @⟨octets, entries, listed⟩
    · exact value_of_scalar scalar ends fuel _
    · simp only [List.length_cons, List.length_append] at short
      have read : elements (value fuel depth) fuel true [] (octets ++ 0x5D :: rest) =
          .ok (vs, rest) :=
        elements_of_listed reads listed begins_of_writes (by omega) (by omega)
      rw [List.cons_append, List.append_assoc, value_cons (by decide)]
      simp [valueFrom, nested, Ascii.isDigit, read, bind, Except.bind]
    · simp only [List.length_cons, List.length_append] at short
      have read : members (value fuel depth) fuel true [] (octets ++ 0x7D :: rest) =
          .ok (entries, rest) :=
        members_of_listed reads listed (by omega) (by omega)
      rw [List.cons_append, List.append_assoc, value_cons (by decide)]
      simp [valueFrom, nested, Ascii.isDigit, read, bind, Except.bind]

/-- What is read for an array or an object is one. -/
theorem compound_of_valueFrom {octet : UInt8} {fuel : Nat} {nested : Reader Value}
    {item : Bytes → Value → Prop} (sound : ∀ {input v rest}, nested input = .ok (v, rest) →
      ∃ blanks octets, Blanks blanks ∧ item octets v ∧ input = blanks ++ (octets ++ rest))
    {input rest : Bytes} {v : Value} (either : octet = 0x5B ∨ octet = 0x7B)
    (read : valueFrom fuel (some nested) octet input = .ok (v, rest)) :
    ∃ octets, Compound item octets v ∧ octet :: input = octets ++ rest := by
  rcases either with rfl | rfl
  · have read : (elements nested fuel true [] input >>= fun result =>
      .ok (Value.array result.1, result.2)) = .ok (v, rest) := read
    obtain ⟨⟨values, _⟩, items, ⟨⟩⟩ := bind_eq_ok_iff.1 read
    obtain ⟨octets, listed, rfl⟩ := listed_of_elements sound items
    exact ⟨0x5B :: (octets ++ [0x5D]), .array listed, by simp⟩
  · have read : (members nested fuel true [] input >>= fun result =>
      .ok (Value.ofEntries result.1, result.2)) = .ok (v, rest) := read
    obtain ⟨⟨entries, _⟩, items, ⟨⟩⟩ := bind_eq_ok_iff.1 read
    obtain ⟨octets, listed, rfl⟩ := listed_of_members sound items
    exact ⟨0x7B :: (octets ++ [0x7D]), .object listed, by simp⟩

theorem valueFrom_none {octet : UInt8} {fuel : Nat} {input : Bytes} {result : Value × Bytes}
    (read : valueFrom fuel none octet input = .ok result) : octet ≠ 0x5B ∧ octet ≠ 0x7B := by
  constructor
  · rintro rfl
    cases read
  · rintro rfl
    cases read

/-- What is read is written at its depth, after blanks. -/
theorem writes_of_value {fuel depth : Nat} {input rest : Bytes} {v : Value}
    (read : value fuel depth input = .ok (v, rest)) :
    ∃ blanks octets, Blanks blanks ∧ Writes depth octets v ∧
      input = blanks ++ (octets ++ rest) := by
  induction depth generalizing input rest v with
  | zero =>
    rw [value_eq] at read
    split at read
    · cases read
    rename_i octet others here
    obtain ⟨blanks, blank, rfl⟩ := blanks_of_skipBlanks here
    obtain ⟨octets, scalar, same⟩ := scalar_of_valueFrom (valueFrom_none read) read
    exact ⟨blanks, octets, blank, scalar, by rw [same]⟩
  | succ depth ih =>
    rw [value_eq] at read
    split at read
    · cases read
    rename_i octet others here
    obtain ⟨blanks, blank, rfl⟩ := blanks_of_skipBlanks here
    by_cases compound : octet = 0x5B ∨ octet = 0x7B
    · obtain ⟨octets, compound, same⟩ := compound_of_valueFrom ih compound read
      exact ⟨blanks, octets, blank, .inr compound, by rw [same]⟩
    · obtain ⟨octets, scalar, same⟩ := scalar_of_valueFrom (not_or.1 compound) read
      exact ⟨blanks, octets, blank, .inl scalar, by rw [same]⟩

end Read

open Grammar

/-- What a reader reads with nothing but blanks after it is read as a whole. -/
theorem Read.whole_eq_ok_iff {α : Type} {reader : Nat → Reader α} {input : Bytes} {result : α} :
    Read.whole reader input = .ok result ↔
      ∃ blanks, Blanks blanks ∧ reader (input.length + 1) input = .ok (result, blanks) := by
  rw [Read.whole]
  split
  · rename_i failure failed
    simp [failed]
  · rename_i read rest succeeded
    simp only [succeeded, Except.ok.injEq, Prod.mk.injEq]
    split
    · rename_i blank
      have blanks : Blanks rest := List.dropWhile_eq_nil_iff.1 blank
      simp [blanks]
    · rename_i octet others left
      simp only [reduceCtorEq, false_iff]
      rintro ⟨_, blank, -, rfl⟩
      rw [Read.skipBlanks_of_blanks blank] at left
      cases left

/-- The documents that are read are those of the grammar, with the values that it gives them. -/
theorem Value.parse_eq_ok_iff {octets : Bytes} {v : Value} :
    Value.parse octets = .ok v ↔ Document octets v := by
  rw [Value.parse, Read.whole_eq_ok_iff]
  constructor
  · rintro ⟨after, blank, read⟩
    obtain ⟨before, written, also, writes, same⟩ := Read.writes_of_value read
    exact ⟨before, written, after, also, blank, same, writes⟩
  · rintro ⟨before, written, after, blank, also, rfl, writes⟩
    have ends : Read.Ends after := by
      simpa using Read.ends_append also Read.ends_nil
    refine ⟨after, also, ?_⟩
    rw [Read.value_append blank, Read.value_of_writes writes _ ends]
    simp only [List.length_append]
    omega

end Json
end HttpExchange
