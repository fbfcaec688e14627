import HttpExchange.Json.Record
import HttpExchange.Proofs.Json.Skipping
import Mathlib.Data.List.Forall2
import Mathlib.Data.List.Nodup

/-!
# Records are read by the grammar

Reading gives what the changes that its fields write make of the initial record
(`whole_record_eq_ok_iff`); what the fields preserve, every record that is read has
(`record_preserves`).
-/

namespace HttpExchange
namespace Json

namespace Grammar

/-- A named variant: its name, or an object whose only member has that name and the value `null`. -/
inductive Variant : Bytes → String → Prop
  | name {octets : Bytes} {name : String} (named : Scalar octets (.string name)) :
      Variant octets name
  | object {octets : Bytes} {name : String}
      (listed : Listed (Member Scalar) octets [(name, .null)]) :
      Variant (0x7B :: (octets ++ [0x7D])) name

/-- A member of an object: its name, and the octets of its value, of whatever type it is. -/
inductive Entry : Bytes → String × Bytes → Prop
  | intro {name : Bytes} {chars : List Char} {before after raw : Bytes}
      (literal : Literal name chars) (between : Blanks before) (also : Blanks after)
      (text : Text raw) :
      Entry (0x22 :: (name ++ 0x22 :: (before ++ 0x3A :: (after ++ raw))))
        (String.ofList chars, raw)

/-- An object of the given members, between blanks. -/
inductive ObjectText : Bytes → List (String × Bytes) → Prop
  | intro {before octets after : Bytes} {members : List (String × Bytes)} (blank : Blanks before)
      (listed : Listed Entry octets members) (also : Blanks after) :
      ObjectText (before ++ 0x7B :: (octets ++ 0x7D :: after)) members

end Grammar

namespace Read

open Grammar

/-! ### Readers of one type -/

/-- The reader takes what writes a result, after blanks, and nothing else. -/
structure Takes {α : Type} (reader : Reader α) (written : Bytes → α → Prop) : Prop where
  /-- What writes a result has the form of a value other than a number. -/
  form : ∀ {octets result}, written octets result → Text octets ∧ ¬ Figures octets
  /-- It is taken whatever follows. -/
  complete : ∀ {blanks octets result}, Blanks blanks → written octets result → ∀ rest,
    reader (blanks ++ (octets ++ rest)) = .ok (result, rest)
  /-- What is taken writes the result. -/
  sound : ∀ {input rest result}, reader input = .ok (result, rest) → ∃ blanks octets,
    Blanks blanks ∧ written octets result ∧ input = blanks ++ (octets ++ rest)

/-- A value is taken exactly if it writes a result. -/
theorem Takes.eq_ok_iff {α : Type} {reader : Reader α} {written : Bytes → α → Prop}
    (takes : Takes reader written) {blanks octets rest : Bytes} {result : α × Bytes}
    (blank : Blanks blanks) (text : Text octets) (ends : Ends rest) :
    reader (blanks ++ (octets ++ rest)) = .ok result ↔
      ∃ value, written octets value ∧ result = (value, rest) := by
  constructor
  · intro read
    obtain ⟨value, left⟩ := result
    obtain ⟨before, taken, also, wrote, same⟩ := takes.sound read
    obtain ⟨form, other⟩ := takes.form wrote
    obtain ⟨rfl, rfl⟩ := eq_of_texts blank text (fun _ => ends) also form (absurd · other) same
    exact ⟨value, wrote, rfl⟩
  · rintro ⟨value, wrote, rfl⟩
    exact takes.complete blank wrote rest

/-- What is made of the results is taken where they are. -/
theorem Takes.map {α β : Type} {reader : Reader α} {written : Bytes → α → Prop}
    (takes : Takes reader written) (f : α → β) :
    Takes (fun input => do
      let (value, rest) ← reader input
      .ok (f value, rest)) fun octets made => ∃ value, written octets value ∧ f value = made where
  form := by
    rintro octets _ ⟨value, wrote, -⟩
    exact takes.form wrote
  complete := by
    rintro blanks octets _ blank ⟨value, wrote, rfl⟩ rest
    exact bind_eq_ok_iff.2 ⟨_, takes.complete blank wrote rest, rfl⟩
  sound := by
    intro input rest made read
    obtain ⟨⟨value, _⟩, taken, ⟨⟩⟩ := bind_eq_ok_iff.1 read
    obtain ⟨blanks, octets, blank, wrote, same⟩ := takes.sound taken
    exact ⟨blanks, octets, blank, ⟨value, wrote, rfl⟩, same⟩

theorem not_figures {octet : UInt8} (other : octet ≠ 0x2D ∧ Ascii.isDigit octet = false)
    (others : Bytes) : ¬ Figures (octet :: others) := by
  intro figures
  generalize same : octet :: others = octets at figures
  obtain ⟨negative, wholly, -, -⟩ := figures
  cases negative with
  | true => exact other.1 (List.cons.inj same).1
  | false =>
    obtain ⟨nonempty, digital⟩ := wholly.digital
    obtain ⟨first, rest, rfl⟩ := List.exists_cons_of_ne_nil nonempty
    have digit := digital first List.mem_cons_self
    obtain rfl : octet = first := (List.cons.inj same).1
    rw [other.2] at digit
    cases digit

theorem text_of_scalar {octets : Bytes} {v : Value} (scalar : Scalar octets v) : Text octets :=
  ⟨0, scalar.flat⟩

theorem mismatch_ne_ok {α : Type} (wanted : String) (octet : UInt8) (rest : Bytes) (result : α) :
    mismatch wanted octet rest ≠ .ok result := by
  intro read
  unfold mismatch at read
  iterate 3
    split at read
    · obtain ⟨_, -, impossible⟩ := bind_eq_ok_iff.1 read
      cases impossible
  iterate 3
    split at read
    · obtain ⟨⟨_, _⟩, -, impossible⟩ := bind_eq_ok_iff.1 read
      cases impossible
  split at read
  · cases read
  split at read <;> cases read

theorem takes_bool : Takes bool fun octets b => Scalar octets (.bool b) where
  form := by
    intro octets b scalar
    refine ⟨text_of_scalar scalar, ?_⟩
    cases scalar <;> exact not_figures (by decide) _
  complete := by
    intro blanks octets b blank scalar rest
    rw [bool, skipBlanks_append blank]
    cases scalar with
    | true =>
      rw [List.cons_append, skipBlanks_cons (by decide)]
      rfl
    | false =>
      rw [List.cons_append, skipBlanks_cons (by decide)]
      rfl
  sound := by
    intro input rest b read
    unfold bool at read
    split at read
    · cases read
    rename_i octet left here
    obtain ⟨blanks, blank, rfl⟩ := blanks_of_skipBlanks here
    split at read
    · obtain ⟨_, word, ⟨⟩⟩ := bind_eq_ok_iff.1 read
      rw [wordTrue, word_eq_ok_iff] at word
      subst octet left
      exact ⟨blanks, _, blank, .true, rfl⟩
    split at read
    · obtain ⟨_, word, ⟨⟩⟩ := bind_eq_ok_iff.1 read
      rw [wordFalse, word_eq_ok_iff] at word
      subst octet left
      exact ⟨blanks, _, blank, .false, rfl⟩
    · exact absurd read (mismatch_ne_ok _ _ _ _)

theorem scalar_of_text {input rest : Bytes} {s : String} (read : text input = .ok (s, rest)) :
    ∃ octets, Scalar octets (.string s) ∧ 0x22 :: input = octets ++ rest := by
  obtain ⟨octets, chars, literal, rfl, rfl⟩ := text_eq_ok_iff.1 read
  exact ⟨_, .string literal, by simp⟩

theorem string_of_scalar {blanks octets : Bytes} {s : String} (blank : Blanks blanks)
    (scalar : Scalar octets (.string s)) (rest : Bytes) : ∃ left,
      skipBlanks (blanks ++ (octets ++ rest)) = 0x22 :: left ∧ text left = .ok (s, rest) := by
  generalize same : Value.string s = v at scalar
  cases scalar with
  | string literal =>
    cases same
    refine ⟨_, ?_, text_of_literal literal rest⟩
    rw [skipBlanks_append blank, List.cons_append, skipBlanks_cons (by decide), List.append_assoc]
    rfl
  | _ => cases same

theorem not_figures_of_string {octets : Bytes} {s : String} (scalar : Scalar octets (.string s)) :
    ¬ Figures octets := by
  generalize same : Value.string s = v at scalar
  cases scalar with
  | string => exact not_figures (by decide) _
  | _ => cases same

theorem takes_string : Takes string fun octets s => Scalar octets (.string s) where
  form scalar := ⟨text_of_scalar scalar, not_figures_of_string scalar⟩
  complete := by
    intro blanks octets s blank scalar rest
    obtain ⟨left, here, read⟩ := string_of_scalar blank scalar rest
    rw [string, here]
    exact read
  sound := by
    intro input rest s read
    unfold string at read
    split at read
    · cases read
    rename_i octet left here
    obtain ⟨blanks, blank, rfl⟩ := blanks_of_skipBlanks here
    split at read
    · subst octet
      obtain ⟨octets, scalar, same⟩ := scalar_of_text read
      exact ⟨blanks, octets, blank, scalar, by rw [same]⟩
    · exact absurd read (mismatch_ne_ok _ _ _ _)

/-! ### Variants -/

theorem unit_eq_ok_iff {input rest : Bytes} : unit input = .ok rest ↔
    ∃ blanks, Blanks blanks ∧ input = blanks ++ (0x6E :: 0x75 :: 0x6C :: 0x6C :: rest) := by
  constructor
  · intro read
    unfold unit at read
    split at read
    · cases read
    rename_i octet left here
    obtain ⟨blanks, blank, rfl⟩ := blanks_of_skipBlanks here
    split at read
    · subst octet
      rw [wordNull, word_eq_ok_iff] at read
      exact ⟨blanks, blank, by rw [read]; rfl⟩
    · exact absurd read (mismatch_ne_ok _ _ _ _)
  · rintro ⟨blanks, blank, rfl⟩
    rw [unit, skipBlanks_append_cons blank (by decide)]
    rfl

theorem choose_eq_ok_iff {α : Type} {table : List (String × α)} {name : String} {rest : Bytes}
    {choice : α} : choose table name rest = .ok choice ↔ table.lookup name = some choice := by
  rw [choose]
  cases table.lookup name <;> simp [fail]

theorem listed_singleton {α : Type} {item : Bytes → α → Prop} {octets : Bytes} {one : α} :
    Listed item octets [one] ↔ ∃ before this after,
      Blanks before ∧ item this one ∧ Blanks after ∧ octets = before ++ (this ++ after) := by
  constructor
  · rintro (_ | ⟨between, this, ⟨also⟩⟩)
    exact ⟨_, _, _, between, this, also, rfl⟩
  · rintro ⟨before, this, after, between, written, also, rfl⟩
    exact .some between written (.done also)

/-- A variant is taken if its name is in the table, as an object only where one may be opened. -/
theorem takes_variant {α : Type} (table : List (String × α)) {depth : Nat} (open_ : depth ≠ 0) :
    Takes (variant table depth) fun octets choice =>
      ∃ name, Variant octets name ∧ table.lookup name = some choice where
  form := by
    rintro octets choice ⟨name, ⟨named⟩ | ⟨listed⟩, -⟩
    · exact ⟨text_of_scalar named, not_figures_of_string named⟩
    · exact ⟨⟨1, Writes.form (.inr (.object listed))⟩, not_figures (by decide) _⟩
  complete := by
    rintro blanks octets choice blank ⟨name, ⟨named⟩ | ⟨listed⟩, known⟩ rest
    · obtain ⟨left, here, read⟩ := string_of_scalar blank named rest
      rw [variant, here]
      simp [read, choose_eq_ok_iff.2 known, bind, Except.bind]
    · obtain ⟨before, this, after, between, written, also, rfl⟩ := listed_singleton.1 listed
      obtain @⟨octets, chars, front, back, _, _, literal, leading, trailing, scalar⟩ := written
      cases scalar
      have rearranged : blanks ++ (0x7B :: (before ++ (0x22 :: (octets ++ 0x22 :: (front ++ 0x3A ::
            (back ++ [0x6E, 0x75, 0x6C, 0x6C]))) ++ after) ++ [0x7D]) ++ rest) =
          blanks ++ 0x7B :: (before ++ 0x22 :: (octets ++ 0x22 :: (front ++ 0x3A ::
            (back ++ 0x6E :: 0x75 :: 0x6C :: 0x6C :: (after ++ 0x7D :: rest))))) := by
        simp
      have quote := skipBlanks_append_cons between (show isBlank 0x22 = false by decide)
      have brace := skipBlanks_append_cons also (show isBlank 0x7D = false by decide)
      rw [rearranged, variant, skipBlanks_append_cons blank (by decide)]
      simp only [open_, quote, if_true, if_false, text_of_literal literal, choose_eq_ok_iff.2 known,
        colon_eq_ok_iff.2 ⟨front, leading, rfl⟩, unit_eq_ok_iff.2 ⟨back, trailing, rfl⟩, brace,
        bind, Except.bind]
      rfl
  sound := by
    intro input rest choice read
    unfold variant at read
    split at read
    · cases read
    rename_i octet left here
    obtain ⟨blanks, blank, rfl⟩ := blanks_of_skipBlanks here
    split at read
    · subst octet
      obtain ⟨⟨name, _⟩, text, read⟩ := bind_eq_ok_iff.1 read
      obtain ⟨_, chosen, ⟨⟩⟩ := bind_eq_ok_iff.1 read
      obtain ⟨octets, scalar, same⟩ := scalar_of_text text
      exact ⟨blanks, octets, blank, ⟨name, .name scalar, choose_eq_ok_iff.1 chosen⟩, by rw [same]⟩
    split at read
    · subst octet
      split at read
      · cases read
      rename_i octet left there
      obtain ⟨before, between, rfl⟩ := blanks_of_skipBlanks there
      split at read
      · subst octet
        obtain ⟨⟨name, _⟩, text, read⟩ := bind_eq_ok_iff.1 read
        obtain ⟨_, chosen, read⟩ := bind_eq_ok_iff.1 read
        obtain ⟨_, stop, read⟩ := bind_eq_ok_iff.1 read
        obtain ⟨_, null, read⟩ := bind_eq_ok_iff.1 read
        split at read
        · cases read
        rename_i octet others last
        obtain ⟨after, also, rfl⟩ := blanks_of_skipBlanks last
        split at read
        · subst octet
          cases read
          obtain ⟨octets, chars, literal, rfl, rfl⟩ := text_eq_ok_iff.1 text
          obtain ⟨front, leading, rfl⟩ := colon_eq_ok_iff.1 stop
          obtain ⟨back, trailing, rfl⟩ := unit_eq_ok_iff.1 null
          have member := Member.intro literal leading trailing Scalar.null
          have listed := listed_singleton.2 ⟨before, _, after, between, member, also, rfl⟩
          exact ⟨blanks, _, blank, ⟨_, .object listed, choose_eq_ok_iff.1 chosen⟩, by simp⟩
        · cases read
      · split at read <;> cases read
    · cases read

/-! ### Objects -/

theorem begins_of_entry {octets : Bytes} {one : String × Bytes} (written : Entry octets one) :
    ∃ octet others left,
      octets = octet :: others ∧ Visible 0x7D octet ∧ octets = [0x22] ++ left := by
  obtain ⟨_, _, _, _⟩ := written
  exact ⟨_, _, _, rfl, by decide, rfl⟩

section

variable {σ γ : Type}

/-- Each field reads, from a value of its own, the changes that the value writes. -/
def Reads (fields : List (Field σ)) (apply : γ → σ → σ) (written : String × Bytes → γ → Prop)
    (size : Nat) : Prop :=
  ∀ field ∈ fields, ∀ ⦃blanks raw rest record result⦄, Blanks blanks → Text raw →
    raw.length < size → Ends rest → (field.read record (blanks ++ (raw ++ rest)) = .ok result ↔
      ∃ change, written (field.name, raw) change ∧ result = (apply change record, rest))

/-- The members that are named like a field. -/
def filling (fields : List (Field σ)) (members : List (String × Bytes)) : List (String × Bytes) :=
  members.filter (·.1 ∈ fields.map Field.name)

/-- Make changes to a record, one after another. -/
def applyAll (apply : γ → σ → σ) (changes : List γ) (record : σ) : σ :=
  changes.foldl (fun record change => apply change record) record

variable {fields : List (Field σ)} {apply : γ → σ → σ} {written : String × Bytes → γ → Prop}
  {size : Nat}

theorem find?_eq_none_iff {name : String} :
    fields.find? (fun field => field.name == name) = none ↔ name ∉ fields.map Field.name := by
  simp [List.find?_eq_none]

theorem filling_cons_known {one : String × Bytes} (known : one.1 ∈ fields.map Field.name)
    (members : List (String × Bytes)) :
    filling fields (one :: members) = one :: filling fields members :=
  List.filter_cons_of_pos (decide_eq_true known)

theorem filling_cons_other {one : String × Bytes} (other : one.1 ∉ fields.map Field.name)
    (members : List (String × Bytes)) : filling fields (one :: members) = filling fields members :=
  List.filter_cons_of_neg (by simpa using other)

section

variable {fuel : Nat} {first : Bool} {seen : List String} {record : σ}
  {input left octets rest : Bytes} {one : String × Bytes} {result : σ × Bytes}
  (found : nextMember first input = .ok (true, left))
  (entry : Entry octets one) (short : octets.length < size) (ends : Ends rest)
  (same : [0x22] ++ left = octets ++ rest)

include found entry short ends same

/-- A member that is named like no field is skipped. -/
theorem byName_other (other : one.1 ∉ fields.map Field.name) :
    byName fields size (fuel + 1) first seen record input =
      byName fields size fuel false seen record rest := by
  obtain @⟨name, chars, before, after, raw, literal, between, also, text⟩ := entry
  simp only [List.length_append, List.length_cons] at short
  obtain rfl : left = name ++ 0x22 :: (before ++ 0x3A :: (after ++ (raw ++ rest))) := by
    simpa using same
  have skipped := skipValue_of_text also text (fun _ => ends) (show raw.length ≤ size by omega)
  rw [byName, found]
  simp only [bind, Except.bind, if_true, text_of_literal literal, find?_eq_none_iff.2 other,
    colon_eq_ok_iff.2 ⟨before, between, rfl⟩, skipped]

/-- A member that is named like a field is read if the field was not seen before. -/
theorem byName_known (reads : Reads fields apply written size)
    (known : one.1 ∈ fields.map Field.name) :
    byName fields size (fuel + 1) first seen record input = .ok result ↔
      one.1 ∉ seen ∧ ∃ change, written one change ∧
        byName fields size fuel false (one.1 :: seen) (apply change record) rest = .ok result := by
  obtain @⟨name, chars, before, after, raw, literal, between, also, text⟩ := entry
  simp only [List.length_append, List.length_cons] at short
  obtain rfl : left = name ++ 0x22 :: (before ++ 0x3A :: (after ++ (raw ++ rest))) := by
    simpa using same
  cases search : fields.find? fun field => field.name == String.ofList chars with
  | none => exact absurd known (find?_eq_none_iff.1 search)
  | some field =>
    have own : field.name = String.ofList chars := by simpa using List.find?_some search
    by_cases repeated : String.ofList chars ∈ seen
    · rw [byName, found]
      simp [text_of_literal literal, search, repeated, fail, bind, Except.bind]
    · have step : byName fields size (fuel + 1) first seen record input =
          field.read record (after ++ (raw ++ rest)) >>= fun (record, rest) =>
            byName fields size fuel false (String.ofList chars :: seen) record rest := by
        rw [byName, found]
        simp [text_of_literal literal, search, repeated, bind, Except.bind,
          colon_eq_ok_iff.2 ⟨before, between, rfl⟩]
      have mine : ∀ result, field.read record (after ++ (raw ++ rest)) = .ok result ↔
          ∃ change, written (field.name, raw) change ∧ result = (apply change record, rest) :=
        fun result => reads field (List.mem_of_find?_eq_some search) also text (by omega) ends
      rw [step, bind_eq_ok_iff]
      simp only [mine, own]
      constructor
      · rintro ⟨_, ⟨change, wrote, rfl⟩, further⟩
        exact ⟨repeated, change, wrote, further⟩
      · rintro ⟨-, change, wrote, further⟩
        exact ⟨_, ⟨change, wrote, rfl⟩, further⟩

/-- What a member does to what is read of those after it. -/
theorem byName_entry (reads : Reads fields apply written size) {members : List (String × Bytes)}
    {final : Bytes} (further : ∀ {seen : List String}, seen.Nodup → ∀ record,
      byName fields size fuel false seen record rest = .ok result ↔
        ((filling fields members).map Prod.fst ++ seen).Nodup ∧
          ∃ changes, List.Forall₂ written (filling fields members) changes ∧
            result = (applyAll apply changes record, final))
    (distinct : seen.Nodup) :
    byName fields size (fuel + 1) first seen record input = .ok result ↔
      ((filling fields (one :: members)).map Prod.fst ++ seen).Nodup ∧
        ∃ changes, List.Forall₂ written (filling fields (one :: members)) changes ∧
          result = (applyAll apply changes record, final) := by
  by_cases known : one.1 ∈ fields.map Field.name
  · rw [byName_known found entry short ends same reads known, filling_cons_known known]
    constructor
    · rintro ⟨new, change, wrote, read⟩
      have wider := List.nodup_cons.2 ⟨new, distinct⟩
      obtain ⟨once, changes, several, rfl⟩ := (further wider _).1 read
      exact ⟨List.nodup_middle.1 once, change :: changes, .cons wrote several, rfl⟩
    · rintro ⟨once, _, all, rfl⟩
      obtain ⟨change, changes, wrote, several, rfl⟩ := List.forall₂_cons_left_iff.1 all
      obtain ⟨new, -⟩ := List.nodup_cons.1 once
      have new : one.1 ∉ seen := fun before => new (List.mem_append_right _ before)
      have wider := List.nodup_cons.2 ⟨new, distinct⟩
      exact ⟨new, change, wrote, (further wider _).2
        ⟨List.nodup_middle.2 once, changes, several, rfl⟩⟩
  · rw [byName_other found entry short ends same known, filling_cons_other known, further distinct]

end

theorem byName_done {blanks : Bytes} (blank : Blanks blanks) (fuel : Nat) (first : Bool)
    (seen : List String) (record : σ) (rest : Bytes) :
    byName fields size (fuel + 1) first seen record (blanks ++ 0x7D :: rest) =
      .ok (record, rest) := by
  rw [byName, nextMember_of_between (.ends blank)]
  rfl

theorem ends_brace (rest : Bytes) : Ends (0x7D :: rest) :=
  ends_closing .object rest

section

variable (reads : Reads fields apply written size) {octets : Bytes}
  {members : List (String × Bytes)} {fuel : Nat}

include reads

/-- Members are read exactly if none is named like a field that another or one of those before is
named like, and the value of each that is named like a field writes changes. -/
theorem byName_of_further (further : Further Entry octets members) (enough : members.length < fuel)
    (short : octets.length < size) {seen : List String} (distinct : seen.Nodup) (record : σ)
    (rest : Bytes) {result : σ × Bytes} :
    byName fields size fuel false seen record (octets ++ 0x7D :: rest) = .ok result ↔
      ((filling fields members).map Prod.fst ++ seen).Nodup ∧
        ∃ changes, List.Forall₂ written (filling fields members) changes ∧
          result = (applyAll apply changes record, rest) := by
  induction further generalizing fuel seen record with
  | done between =>
    obtain ⟨fuel, rfl⟩ := Nat.exists_eq_add_one_of_ne_zero (Nat.ne_of_gt enough)
    rw [byName_done between]
    simp [filling, distinct, applyAll, eq_comm]
  | @more before after octets others one members between also this further ih =>
    obtain ⟨fuel, rfl⟩ := Nat.exists_eq_add_one_of_ne_zero (Nat.ne_of_gt (Nat.zero_lt_of_lt enough))
    simp only [List.length_append, List.length_cons] at short enough
    obtain ⟨left, same, next⟩ :=
      exists_between_further (begins_of_entry this) between also (others ++ 0x7D :: rest)
    have rearranged : before ++ 0x2C :: (after ++ (octets ++ others)) ++ 0x7D :: rest =
        before ++ 0x2C :: (after ++ (octets ++ (others ++ 0x7D :: rest))) := by
      simp
    rw [rearranged]
    exact byName_entry (nextMember_of_between next) this (by omega)
      (ends_of_further further (ends_brace rest)) same reads
      (ih (by omega) (by omega)) distinct

theorem byName_of_listed (listed : Listed Entry octets members) (enough : octets.length < fuel)
    (short : octets.length < size) (record : σ) (rest : Bytes) {result : σ × Bytes} :
    byName fields size fuel true [] record (octets ++ 0x7D :: rest) = .ok result ↔
      ((filling fields members).map Prod.fst).Nodup ∧
        ∃ changes, List.Forall₂ written (filling fields members) changes ∧
          result = (applyAll apply changes record, rest) := by
  obtain ⟨fuel, rfl⟩ := Nat.exists_eq_add_one_of_ne_zero (Nat.ne_of_gt (Nat.zero_lt_of_lt enough))
  cases listed with
  | none between =>
    rw [byName_done between]
    simp [filling, applyAll, eq_comm]
  | @some blanks octets others one members between this further =>
    have several := further.length_le
    have nonempty : 0 < octets.length := by
      obtain ⟨_, _, _, shape, -, -⟩ := begins_of_entry this
      rw [shape]
      exact Nat.zero_lt_succ _
    simp only [List.length_append] at short enough
    obtain ⟨left, same, next⟩ :=
      exists_between_first (begins_of_entry this) between (others ++ 0x7D :: rest)
    rw [List.append_assoc, List.append_assoc, ← List.append_nil (List.map _ _)]
    exact byName_entry (nextMember_of_between next) this (by omega)
      (ends_of_further further (ends_brace rest)) same reads
      (byName_of_further reads further (by omega) (by omega) · · rest) List.nodup_nil

end

/-- An object is read as a record exactly if no field occurs twice and the value of each writes
changes, which make the record. -/
theorem whole_record_eq_ok_iff {fields : Nat → List (Field σ)} {document : Bytes}
    {members : List (String × Bytes)} (object : ObjectText document members)
    (reads : Reads (fields (document.length + 1)) apply written (document.length + 1))
    (wanted : String) (initial : σ) {result : σ} :
    whole (fun fuel => record wanted (fields fuel) initial fuel) document = .ok result ↔
      ((filling (fields (document.length + 1)) members).map Prod.fst).Nodup ∧
        ∃ changes, List.Forall₂ written (filling (fields (document.length + 1)) members) changes ∧
          result = applyAll apply changes initial := by
  obtain @⟨before, octets, after, members, blank, listed, also⟩ := object
  have short : octets.length < (before ++ 0x7B :: (octets ++ 0x7D :: after)).length + 1 := by
    simp only [List.length_append, List.length_cons]
    omega
  have opened : ∀ fuel, record wanted (fields fuel) initial fuel
      (before ++ 0x7B :: (octets ++ 0x7D :: after)) =
        byName (fields fuel) fuel fuel true [] initial (octets ++ 0x7D :: after) := by
    intro fuel
    rw [record, skipBlanks_append_cons blank (by decide)]
    rfl
  rw [whole_eq_ok_iff]
  simp only [opened, byName_of_listed reads listed short short]
  constructor
  · rintro ⟨_, -, once, changes, wrote, same⟩
    cases same
    exact ⟨once, changes, wrote, rfl⟩
  · rintro ⟨once, changes, wrote, rfl⟩
    exact ⟨after, also, once, changes, wrote, rfl⟩

/-! ### Arrays and objects -/

section

variable {P : σ → Prop} (each : ∀ field ∈ fields, ∀ {record input after rest}, P record →
  field.read record input = .ok (after, rest) → P after)

include each

theorem inOrder_preserves {first : Bool} {initial final : σ} {input rest : Bytes}
    (start : P initial) (read : inOrder fields first initial input = .ok (final, rest)) :
    P final := by
  induction fields generalizing first initial input with
  | nil =>
    obtain ⟨_, -, ⟨⟩⟩ := bind_eq_ok_iff.1 read
    exact start
  | cons field fields ih =>
    obtain ⟨here, others⟩ := List.forall_mem_cons.1 each
    obtain ⟨⟨more, left⟩, -, read⟩ := bind_eq_ok_iff.1 read
    dsimp only at read
    split at read
    · obtain ⟨⟨next, _⟩, taken, read⟩ := bind_eq_ok_iff.1 read
      exact ih others (here start taken) read
    · cases read
      exact start

theorem byName_preserves {fuel : Nat} {first : Bool} {seen : List String} {initial final : σ}
    {input rest : Bytes} (start : P initial)
    (read : byName fields size fuel first seen initial input = .ok (final, rest)) : P final := by
  induction fuel generalizing first seen initial input with
  | zero => cases read
  | succ fuel ih =>
    obtain ⟨⟨more, left⟩, -, read⟩ := bind_eq_ok_iff.1 read
    dsimp only at read
    split at read
    · obtain ⟨⟨name, _⟩, -, read⟩ := bind_eq_ok_iff.1 read
      dsimp only at read
      split at read
      · obtain ⟨_, -, read⟩ := bind_eq_ok_iff.1 read
        obtain ⟨_, -, read⟩ := bind_eq_ok_iff.1 read
        exact ih start read
      · rename_i field search
        split at read
        · cases read
        · obtain ⟨_, -, read⟩ := bind_eq_ok_iff.1 read
          obtain ⟨⟨next, _⟩, taken, read⟩ := bind_eq_ok_iff.1 read
          exact ih (each field (List.mem_of_find?_eq_some search) start taken) read
    · cases read
      exact start

/-- What holds initially and is preserved by every field holds of every record that is read. -/
theorem record_preserves {wanted : String} {initial final : σ} {fuel : Nat} {input rest : Bytes}
    (start : P initial) (read : record wanted fields initial fuel input = .ok (final, rest)) :
    P final := by
  unfold record at read
  split at read
  · cases read
  split at read
  · exact inOrder_preserves each start read
  split at read
  · exact byName_preserves each start read
  · exact absurd read (mismatch_ne_ok _ _ _ _)

end

end

end Read
end Json
end HttpExchange
