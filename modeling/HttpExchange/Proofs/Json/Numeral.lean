import HttpExchange.Proofs.Json.Lexeme

/-!
# Numerals are read by the grammar

An exponent is handed on with all that follows it, of which only the digits count
(`number?_followedBy`).
-/

namespace HttpExchange
namespace Json
namespace Read

open Grammar

/-- No digit comes next. -/
def Stops (rest : Bytes) : Prop :=
  ∀ octet ∈ rest.head?, Ascii.isDigit octet = false

/-- What comes next goes on with no numeral. -/
def Ends (rest : Bytes) : Prop :=
  ∀ octet ∈ rest.head?, Ascii.isDigit octet = false ∧ octet ≠ 0x2E ∧ octet ≠ 0x65 ∧ octet ≠ 0x45

theorem Ends.stops {rest : Bytes} (ends : Ends rest) : Stops rest :=
  fun octet next => (ends octet next).1

theorem ends_nil : Ends [] :=
  nofun

theorem ends_append {blanks rest : Bytes} (blank : Blanks blanks) (ends : Ends rest) :
    Ends (blanks ++ rest) := by
  cases blanks with
  | nil => exact ends
  | cons octet blanks =>
    rintro _ ⟨⟩
    have known := blank octet List.mem_cons_self
    simp only [isBlank, Bool.or_eq_true, beq_iff_eq] at known
    rcases known with ((rfl | rfl) | rfl) | rfl <;> decide

theorem stops_cons {octet : UInt8} {rest : Bytes} :
    Stops (octet :: rest) ↔ Ascii.isDigit octet = false := by
  simp [Stops]

theorem stops_dropWhile (input : Bytes) : Stops (input.dropWhile Ascii.isDigit) := by
  intro octet next
  have first := List.head?_dropWhile_not Ascii.isDigit input
  rw [Option.mem_def.1 next] at first
  simpa using first

section

variable {digits rest : Bytes} (digital : ∀ octet ∈ digits, Ascii.isDigit octet = true)
  (stops : Stops rest)

include digital stops

theorem takeWhile_digits : (digits ++ rest).takeWhile Ascii.isDigit = digits := by
  rw [List.takeWhile_append_of_pos digital]
  cases rest with
  | nil => simp
  | cons octet rest => simp [stops_cons.1 stops]

theorem dropWhile_digits : (digits ++ rest).dropWhile Ascii.isDigit = rest := by
  rw [List.dropWhile_append_of_pos digital]
  cases rest with
  | nil => rfl
  | cons octet rest => simp [stops_cons.1 stops]

end

/-- Digits are followed by what no digit begins. -/
theorem exists_digits (input : Bytes) : ∃ digits rest,
    (∀ octet ∈ digits, Ascii.isDigit octet = true) ∧ Stops rest ∧ input = digits ++ rest :=
  ⟨input.takeWhile Ascii.isDigit, input.dropWhile Ascii.isDigit,
    fun _ member => List.mem_takeWhile_imp member, stops_dropWhile input,
    List.takeWhile_append_dropWhile.symm⟩

/-! ### Fractions -/

theorem fractionDigits_point {digits rest : Bytes} (digital : Digits digits) (stops : Stops rest)
    (unfinished : Cause) :
    fractionDigits unfinished (0x2E :: (digits ++ rest)) = .ok (digits, rest) := by
  obtain ⟨nonempty, digital⟩ := digital
  rw [fractionDigits, takeWhile_digits digital stops, dropWhile_digits digital stops]
  · rw [takeWhile_digits digital stops]
    exact fun none _ => nonempty none
  · rw [takeWhile_digits digital stops]
    exact fun _ _ none _ => nonempty none

theorem fractionDigits_other {rest : Bytes} (point : ∀ octet ∈ rest.head?, octet ≠ 0x2E)
    (unfinished : Cause) : fractionDigits unfinished rest = .ok ([], rest) := by
  rw [fractionDigits]
  rintro _ rfl
  exact point _ rfl rfl

theorem fractionDigits_of_fraction {fraction digits rest : Bytes}
    (fractional : Fraction fraction digits) (stops : Stops rest)
    (point : ∀ octet ∈ rest.head?, octet ≠ 0x2E) (unfinished : Cause) :
    fractionDigits unfinished (fraction ++ rest) = .ok (digits, rest) := by
  cases fractional with
  | absent => exact fractionDigits_other point unfinished
  | present digital => exact fractionDigits_point digital stops unfinished

/-- A point alone is no fraction. -/
theorem fractionDigits_ne_ok {rest : Bytes} (stops : Stops rest) (unfinished : Cause)
    (result : Bytes × Bytes) : fractionDigits unfinished (0x2E :: rest) ≠ .ok result := by
  cases rest with
  | nil => exact nofun
  | cons octet rest =>
    rw [fractionDigits]
    · exact nofun
    · rw [List.takeWhile_cons_of_neg]
      simp [stops_cons.1 stops]

theorem fraction_of_fractionDigits {unfinished : Cause} {input digits rest : Bytes}
    (read : fractionDigits unfinished input = .ok (digits, rest)) :
    ∃ fraction, Fraction fraction digits ∧ input = fraction ++ rest := by
  by_cases point : ∃ after, input = 0x2E :: after
  · obtain ⟨after, rfl⟩ := point
    obtain ⟨taken, others, digital, stops, rfl⟩ := exists_digits after
    by_cases none : taken = []
    · subst none
      exact absurd read (fractionDigits_ne_ok stops unfinished _)
    · have digital : Digits taken := ⟨none, digital⟩
      rw [fractionDigits_point digital stops] at read
      cases read
      exact ⟨_, .present digital, rfl⟩
  · rw [fractionDigits] at read
    · cases read
      exact ⟨[], .absent, rfl⟩
    · exact fun after same => point ⟨after, same⟩

/-! ### Exponents -/

theorem exponentSign_of_sign {sign : Bytes} {negative : Bool} (signed : Sign sign negative)
    {digits : Bytes} (digital : Digits digits) (rest : Bytes) :
    exponentSign (sign ++ (digits ++ rest)) = (negative, digits ++ rest) := by
  cases signed with
  | absent =>
    obtain ⟨nonempty, digital⟩ := digital
    obtain ⟨first, others, rfl⟩ := List.exists_cons_of_ne_nil nonempty
    have digit := digital first List.mem_cons_self
    rw [List.nil_append, exponentSign]
    · rintro _ ⟨⟩
      exact absurd digit (by decide)
    · rintro _ ⟨⟩
      exact absurd digit (by decide)
  | plus => rfl
  | minus => rfl

theorem sign_of_exponentSign {input digits : Bytes} {negative : Bool}
    (read : exponentSign input = (negative, digits)) :
    ∃ sign, Sign sign negative ∧ input = sign ++ digits := by
  unfold exponentSign at read
  split at read
  · cases read
    exact ⟨_, .plus, rfl⟩
  · cases read
    exact ⟨_, .minus, rfl⟩
  · cases read
    exact ⟨_, .absent, rfl⟩

/-- The exponent that is handed on with `rest` after it. -/
def followedBy (rest : Bytes) (exponent : Option (Bool × Bytes)) : Option (Bool × Bytes) :=
  exponent.map fun power => (power.1, power.2 ++ rest)

theorem exponentPart_of_exponent {power : Bytes} {exponent : Option (Bool × Bytes)}
    (scaled : Exponent power exponent) {rest : Bytes} (ends : Ends rest) (unfinished : Cause) :
    exponentPart unfinished (power ++ rest) = .ok (followedBy rest exponent, rest) := by
  cases scaled with
  | absent =>
    cases rest with
    | nil => rfl
    | cons octet rest =>
      obtain ⟨-, -, lower, upper⟩ := ends octet rfl
      rw [List.nil_append, exponentPart, if_neg (by simp [lower, upper])]
      rfl
  | @present letter sign digits negative either signed digital =>
    have read := exponentSign_of_sign signed digital rest
    obtain ⟨nonempty, digital⟩ := digital
    have skipped := dropWhile_digits digital ends.stops
    obtain ⟨first, others, rfl⟩ := List.exists_cons_of_ne_nil nonempty
    have digit := digital first List.mem_cons_self
    rw [List.cons_append, List.append_assoc, exponentPart, if_pos either, read]
    simp only [List.cons_append, digit, if_true] at skipped ⊢
    rw [skipped]
    rfl

theorem exponent_of_exponentPart {unfinished : Cause} {input rest : Bytes}
    {exponent : Option (Bool × Bytes)}
    (read : exponentPart unfinished input = .ok (exponent, rest)) :
    ∃ power written, Exponent power written ∧ exponent = followedBy rest written ∧
      input = power ++ rest ∧ (written.isSome → Stops rest) := by
  cases input with
  | nil =>
    cases read
    exact ⟨[], none, .absent, rfl, rfl, nofun⟩
  | cons letter input =>
    rw [exponentPart] at read
    split at read
    · rename_i either
      generalize known : exponentSign input = parts at read
      obtain ⟨negative, digits⟩ := parts
      obtain ⟨sign, signed, rfl⟩ := sign_of_exponentSign known
      dsimp only at read
      split at read
      · cases read
      rename_i octet after
      split at read
      · rename_i digit
        cases read
        obtain ⟨digits, others, digital, stops, same⟩ := exists_digits (octet :: after)
        have nonempty : digits ≠ [] := by
          rintro rfl
          rw [List.nil_append] at same
          subst same
          rw [stops_cons.1 stops] at digit
          cases digit
        rw [same, dropWhile_digits digital stops]
        exact ⟨letter :: (sign ++ digits), _, .present either signed ⟨nonempty, digital⟩, rfl,
          by simp, fun _ => stops⟩
      · cases read
    · cases read
      exact ⟨[], none, .absent, rfl, rfl, nofun⟩

/-! ### Numerals -/

theorem boundedDigits_append {digits rest : Bytes} (stops : Stops rest) (value : Nat) :
    (boundedDigits value (digits ++ rest)).1 = (boundedDigits value digits).1 := by
  induction digits generalizing value with
  | nil =>
    cases rest with
    | nil => rfl
    | cons octet rest => simp [boundedDigits, stops_cons.1 stops]
  | cons octet digits ih =>
    simp only [List.cons_append, boundedDigits]
    split
    · split
      · exact ih _
      · rfl
    · rfl

/-- What is handed on after the digits of an exponent does not change the number. -/
theorem number?_followedBy {whole fraction : Bytes} {exponent : Option (Bool × Bytes)}
    {rest : Bytes} (stops : exponent.isSome → Stops rest) (negative : Bool) :
    Numeral.number? negative ⟨whole, fraction, followedBy rest exponent⟩ =
      Numeral.number? negative ⟨whole, fraction, exponent⟩ := by
  cases exponent with
  | none => rfl
  | some power =>
    have same : (boundedDigits 0 (power.2 ++ rest)).1 = (boundedDigits 0 power.2).1 :=
      boundedDigits_append (stops rfl) 0
    simp only [Numeral.number?, followedBy, Option.map_some]
    generalize boundedDigits 0 (power.2 ++ rest) = left at same ⊢
    generalize boundedDigits 0 power.2 = right at same ⊢
    obtain ⟨known, _⟩ := left
    obtain ⟨_, _⟩ := right
    obtain rfl : known = _ := same
    cases known <;> rfl

theorem evaluate_eq_ok_iff {negative : Bool} {numeral : Numeral} {rest : Bytes} {n : Number} :
    evaluate negative numeral rest = .ok n ↔ numeral.number? negative = some n := by
  rw [evaluate]
  cases numeral.number? negative <;> simp [fail]

section

variable {fraction digits power rest : Bytes} {exponent : Option (Bool × Bytes)}

theorem head?_exponent (scaled : Exponent power exponent) (ends : Ends rest) :
    ∀ octet ∈ (power ++ rest).head?, Ascii.isDigit octet = false ∧ octet ≠ 0x2E := by
  intro octet next
  cases scaled with
  | absent => exact ⟨(ends octet next).1, (ends octet next).2.1⟩
  | present either =>
    cases next
    rcases either with rfl | rfl <;> decide

theorem stops_fraction (fractional : Fraction fraction digits) (stops : Stops rest) :
    Stops (fraction ++ rest) := by
  cases fractional with
  | absent => exact stops
  | present => exact stops_cons.2 (by decide)

end

/-- A numeral is split into its parts if what follows does not go on with it. -/
theorem splitNumeral_of_whole {whole fraction digits power rest : Bytes}
    {exponent : Option (Bool × Bytes)} (wholly : Whole whole)
    (fractional : Fraction fraction digits) (scaled : Exponent power exponent) (ends : Ends rest)
    (unfinished : Cause) : splitNumeral unfinished (whole ++ (fraction ++ (power ++ rest))) =
      .ok (⟨whole, digits, followedBy rest exponent⟩, rest) := by
  have next := head?_exponent scaled ends
  have stops : Stops (power ++ rest) := fun octet first => (next octet first).1
  have taken := fractionDigits_of_fraction fractional stops
    (fun octet first => (next octet first).2) unfinished
  have further := stops_fraction fractional stops
  have digital := wholly.digital.2
  cases whole with
  | nil => exact absurd rfl wholly.digital.1
  | cons first others =>
    obtain ⟨digit, digital⟩ := List.forall_mem_cons.1 digital
    have leading : ¬ (first = 0x30 ∧ (!others.isEmpty) = true) := by
      rintro ⟨rfl, more⟩
      cases wholly with
      | zero => cases more
      | digits _ nonzero => exact nonzero rfl
    rw [List.cons_append, splitNumeral, takeWhile_digits digital further,
      dropWhile_digits digital further, taken]
    simp only [digit, Bool.not_true, Bool.false_eq_true, if_false, leading]
    simp only [bind, Except.bind, exponentPart_of_exponent scaled ends]

/-- A numeral is read if what follows does not go on with it. -/
theorem number_of_numeral {negative : Bool} {whole fraction digits power rest : Bytes}
    {exponent : Option (Bool × Bytes)} {n : Number} (wholly : Whole whole)
    (fractional : Fraction fraction digits) (scaled : Exponent power exponent)
    (number : Numeral.number? negative ⟨whole, digits, exponent⟩ = some n) (ends : Ends rest) :
    Read.number negative (whole ++ (fraction ++ (power ++ rest))) = .ok (n, rest) := by
  rw [Read.number, bind_eq_ok_iff]
  refine ⟨_, splitNumeral_of_whole wholly fractional scaled ends .endOfValue, ?_⟩
  rw [bind_eq_ok_iff]
  exact ⟨n, evaluate_eq_ok_iff.2 ((number?_followedBy (fun _ => ends.stops) negative).trans number),
    rfl⟩

theorem whole_of_digits {first : UInt8} {others : Bytes}
    (digital : ∀ octet ∈ first :: others, Ascii.isDigit octet = true)
    (leading : ¬ (first = 0x30 ∧ (!others.isEmpty) = true)) : Whole (first :: others) := by
  by_cases zero : first = 0x30
  · have none : others = [] := by simpa [zero] using leading
    rw [zero, none]
    exact .zero
  · exact .digits ⟨List.cons_ne_nil _ _, digital⟩ zero

/-- What is split as a numeral has the parts of one. -/
theorem parts_of_splitNumeral {unfinished : Cause} {input rest : Bytes} {numeral : Numeral}
    (split : splitNumeral unfinished input = .ok (numeral, rest)) :
    ∃ whole fraction digits power exponent, Whole whole ∧ Fraction fraction digits ∧
      Exponent power exponent ∧ (exponent.isSome → Stops rest) ∧
      numeral = ⟨whole, digits, followedBy rest exponent⟩ ∧
      input = whole ++ (fraction ++ (power ++ rest)) := by
  cases input with
  | nil => cases split
  | cons first input =>
    obtain ⟨others, further, digital, stops, rfl⟩ := exists_digits input
    rw [splitNumeral, takeWhile_digits digital stops, dropWhile_digits digital stops] at split
    split at split
    · cases split
    rename_i digit
    split at split
    · cases split
    rename_i leading
    rw [bind_eq_ok_iff] at split
    obtain ⟨⟨digits, powers⟩, taken, split⟩ := split
    obtain ⟨⟨_, _⟩, also, ⟨⟩⟩ := bind_eq_ok_iff.1 split
    obtain ⟨fraction, fractional, rfl⟩ := fraction_of_fractionDigits taken
    obtain ⟨power, exponent, scaled, rfl, rfl, counted⟩ := exponent_of_exponentPart also
    have digit : Ascii.isDigit first = true := by simpa using digit
    exact ⟨first :: others, fraction, digits, power, exponent,
      whole_of_digits (List.forall_mem_cons.2 ⟨digit, digital⟩) leading, fractional, scaled,
      counted, rfl, rfl⟩

/-- What is read for a number is a numeral. -/
theorem numeral_of_number {negative : Bool} {input rest : Bytes} {n : Number}
    (read : Read.number negative input = .ok (n, rest)) :
    ∃ whole fraction digits power exponent, Whole whole ∧ Fraction fraction digits ∧
      Exponent power exponent ∧ Numeral.number? negative ⟨whole, digits, exponent⟩ = some n ∧
      input = whole ++ (fraction ++ (power ++ rest)) := by
  rw [Read.number, bind_eq_ok_iff] at read
  obtain ⟨⟨numeral, after⟩, split, read⟩ := read
  obtain ⟨_, number, ⟨⟩⟩ := bind_eq_ok_iff.1 read
  obtain ⟨whole, fraction, digits, power, exponent, wholly, fractional, scaled, counted, rfl,
    rfl⟩ := parts_of_splitNumeral split
  exact ⟨whole, fraction, digits, power, exponent, wholly, fractional, scaled,
    (number?_followedBy counted negative).symm.trans (evaluate_eq_ok_iff.1 number), rfl⟩

end Read
end Json
end HttpExchange
