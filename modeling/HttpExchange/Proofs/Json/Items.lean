import HttpExchange.Proofs.Json.Numeral

/-!
# Lists of items are read by the grammar

The loops over elements and members differ in the closing bracket and in what opens an item.
-/

namespace HttpExchange
namespace Json
namespace Read

open Grammar

section

variable {α : Type}

/-- Items up to a closing bracket, onto the reversed items `done`. -/
def items (unfinished : Cause) (next : Bool → Bytes → Except Failure (Bool × Bytes))
    (item : Reader α) : (fuel : Nat) → (first : Bool) → (done : List α) → Reader (List α)
  | 0, _, _, _ => fail unfinished []
  | fuel + 1, first, done, input => do
    let (more, input) ← next first input
    if more then
      let (one, rest) ← item input
      items unfinished next item fuel false (one :: done) rest
    else .ok (done.reverse, input.drop 1)

end

/-- A member of an object after the opening quote of its name. -/
def member (element : Reader Value) : Reader (String × Value) := fun input => do
  let (name, rest) ← text input
  let rest ← colon rest
  let (value, rest) ← element rest
  .ok ((name, value), rest)

theorem elements_eq_items (element : Reader Value) (fuel : Nat) (first : Bool)
    (done : List Value) (input : Bytes) : elements element fuel first done input =
      items .endOfList nextElement element fuel first done input := by
  induction fuel generalizing first done input with
  | zero => rfl
  | succ fuel ih => simp only [elements, items, ih]

theorem members_eq_items (element : Reader Value) (fuel : Nat) (first : Bool)
    (done : List (String × Value)) (input : Bytes) : members element fuel first done input =
      items .endOfObject nextMember (member element) fuel first done input := by
  induction fuel generalizing first done input with
  | zero => rfl
  | succ fuel ih =>
    simp only [members, items, ih, member, bind_assoc]
    rfl

/-! ### What stands between items -/

/-- The octet is neither a blank nor the given one. -/
def Visible (close octet : UInt8) : Prop :=
  isBlank octet = false ∧ octet ≠ close

/-- What a step between items finds, and what it leaves: the closing bracket after the last item; or
an item, which begins with `opening`, after a comma unless it is the first. -/
inductive Between (close : UInt8) (opening : Bytes) : Bool → Bytes → Bool → Bytes → Prop
  | ends {first : Bool} {blanks rest : Bytes} (blank : Blanks blanks) :
      Between close opening first (blanks ++ close :: rest) false (close :: rest)
  | begins {blanks rest left : Bytes} {octet : UInt8} (blank : Blanks blanks)
      (visible : Visible close octet) (same : opening ++ left = octet :: rest) :
      Between close opening true (blanks ++ octet :: rest) true left
  | goesOn {before after rest left : Bytes} {octet : UInt8} (blank : Blanks before)
      (also : Blanks after) (visible : Visible close octet)
      (same : opening ++ left = octet :: rest) :
      Between close opening false (before ++ 0x2C :: (after ++ octet :: rest)) true left

section

variable {close : UInt8} {opening octets : Bytes}
  (begins : ∃ octet others left, octets = octet :: others ∧ Visible close octet ∧
    octets = opening ++ left)

include begins

/-- The first item is found after blanks. -/
theorem exists_between_first {blanks : Bytes} (blank : Blanks blanks) (rest : Bytes) :
    ∃ left, opening ++ left = octets ++ rest ∧
      Between close opening true (blanks ++ (octets ++ rest)) true left := by
  obtain ⟨octet, others, left, shape, visible, opened⟩ := begins
  have same : opening ++ (left ++ rest) = octets ++ rest := by
    rw [opened, List.append_assoc]
  refine ⟨left ++ rest, same, ?_⟩
  rw [shape, List.cons_append] at same ⊢
  exact .begins blank visible same

/-- An item after the first one is found after a comma. -/
theorem exists_between_further {before after : Bytes} (blank : Blanks before) (also : Blanks after)
    (rest : Bytes) : ∃ left, opening ++ left = octets ++ rest ∧
      Between close opening false (before ++ 0x2C :: (after ++ (octets ++ rest))) true left := by
  obtain ⟨octet, others, left, shape, visible, opened⟩ := begins
  have same : opening ++ (left ++ rest) = octets ++ rest := by
    rw [opened, List.append_assoc]
  refine ⟨left ++ rest, same, ?_⟩
  rw [shape, List.cons_append] at same ⊢
  exact .goesOn blank also visible same

end

theorem between_of_nextElement {first more : Bool} {input left : Bytes}
    (found : nextElement first input = .ok (more, left)) :
    Between 0x5D [] first input more left := by
  unfold nextElement at found
  split at found
  · cases found
  rename_i octet rest here
  obtain ⟨blanks, blank, rfl⟩ := blanks_of_skipBlanks here
  split at found
  · rename_i closes
    subst closes
    cases found
    exact .ends blank
  rename_i different
  split at found
  · rename_i initial
    subst initial
    cases found
    exact .begins blank ⟨isBlank_of_skipBlanks here, different⟩ rfl
  rename_i later
  obtain rfl : first = false := by simpa using later
  split at found
  · rename_i comma
    subst comma
    split at found
    · cases found
    rename_i octet others there
    obtain ⟨after, also, rfl⟩ := blanks_of_skipBlanks there
    split at found
    · cases found
    · rename_i different
      cases found
      exact .goesOn blank also ⟨isBlank_of_skipBlanks there, different⟩ rfl
  · cases found

theorem nextElement_of_between {first more : Bool} {input left : Bytes}
    (between : Between 0x5D [] first input more left) :
    nextElement first input = .ok (more, left) := by
  cases between with
  | ends blank =>
    rw [nextElement, skipBlanks_append blank, skipBlanks_cons (by decide)]
    rfl
  | begins blank visible same =>
    obtain rfl : left = _ := same
    rw [nextElement, skipBlanks_append blank, skipBlanks_cons visible.1]
    simp [visible.2]
  | goesOn blank also visible same =>
    obtain rfl : left = _ := same
    rw [nextElement, skipBlanks_append blank, skipBlanks_cons (by decide)]
    simp [skipBlanks_append also, skipBlanks_cons visible.1, visible.2]

theorem nextElement_eq_ok_iff {first more : Bool} {input left : Bytes} :
    nextElement first input = .ok (more, left) ↔ Between 0x5D [] first input more left :=
  ⟨between_of_nextElement, nextElement_of_between⟩

theorem between_of_nextMember {first more : Bool} {input left : Bytes}
    (found : nextMember first input = .ok (more, left)) :
    Between 0x7D [0x22] first input more left := by
  unfold nextMember at found
  split at found
  · cases found
  rename_i octet rest here
  obtain ⟨blanks, blank, rfl⟩ := blanks_of_skipBlanks here
  split at found
  · rename_i closes
    subst closes
    cases found
    exact .ends blank
  rename_i different
  split at found
  · rename_i initial
    subst initial
    split at found
    · rename_i quote
      subst quote
      cases found
      exact .begins blank ⟨isBlank_of_skipBlanks here, different⟩ rfl
    · cases found
  rename_i later
  obtain rfl : first = false := by simpa using later
  split at found
  · rename_i comma
    subst comma
    split at found
    · cases found
    rename_i octet others there
    obtain ⟨after, also, rfl⟩ := blanks_of_skipBlanks there
    split at found
    · rename_i quote
      subst quote
      cases found
      exact .goesOn blank also ⟨isBlank_of_skipBlanks there, by decide⟩ rfl
    · split at found <;> cases found
  · cases found

theorem nextMember_of_between {first more : Bool} {input left : Bytes}
    (between : Between 0x7D [0x22] first input more left) :
    nextMember first input = .ok (more, left) := by
  cases between with
  | ends blank =>
    rw [nextMember, skipBlanks_append blank, skipBlanks_cons (by decide)]
    rfl
  | begins blank visible same =>
    obtain ⟨rfl, rfl⟩ := List.cons.inj same
    rw [nextMember, skipBlanks_append blank, skipBlanks_cons visible.1]
    rfl
  | goesOn blank also visible same =>
    obtain ⟨rfl, rfl⟩ := List.cons.inj same
    rw [nextMember, skipBlanks_append blank, skipBlanks_cons (by decide)]
    simp [skipBlanks_append also, skipBlanks_cons visible.1]

theorem nextMember_eq_ok_iff {first more : Bool} {input left : Bytes} :
    nextMember first input = .ok (more, left) ↔ Between 0x7D [0x22] first input more left :=
  ⟨between_of_nextMember, nextMember_of_between⟩

/-! ### Lists -/

section

variable {α : Type} {unfinished : Cause} {next : Bool → Bytes → Except Failure (Bool × Bytes)}
  {close : UInt8} {opening : Bytes} {reader : Reader α} {item : Bytes → α → Prop}

/-- What follows an item ends it. -/
theorem ends_of_further {octets rest : Bytes} {xs : List α} (further : Further item octets xs)
    (closes : Ends (close :: rest)) : Ends (octets ++ close :: rest) := by
  cases further with
  | done between => exact ends_append between closes
  | more between =>
    rw [List.append_assoc]
    refine ends_append between ?_
    rintro _ ⟨⟩
    decide

theorem items_step {fuel : Nat} {first : Bool} {input left after : Bytes} {one : α}
    (found : next first input = .ok (true, left)) (read : reader left = .ok (one, after))
    (done : List α) : items unfinished next reader (fuel + 1) first done input =
      items unfinished next reader fuel false (one :: done) after := by
  rw [items, found]
  simp [bind, Except.bind, read]

variable (separates : ∀ {first more input left}, next first input = .ok (more, left) ↔
  Between close opening first input more left)

section

variable {bound : Nat}
  (begins : ∀ {octets one}, item octets one →
    ∃ octet others left, octets = octet :: others ∧ Visible close octet ∧ octets = opening ++ left)
  (reads : ∀ {octets one left rest}, item octets one → octets.length < bound → Ends rest →
    opening ++ left = octets ++ rest → reader left = .ok (one, rest))
  (closes : ∀ {rest}, Ends (close :: rest))

include separates begins reads closes

theorem items_of_further {octets : Bytes} {xs : List α} (further : Further item octets xs)
    {fuel : Nat} (enough : xs.length < fuel) (short : octets.length < bound) (done : List α)
    (rest : Bytes) : items unfinished next reader fuel false done (octets ++ close :: rest) =
      .ok (done.reverse ++ xs, rest) := by
  induction further generalizing fuel done with
  | done between =>
    obtain ⟨fuel, rfl⟩ := Nat.exists_eq_add_one_of_ne_zero (Nat.ne_of_gt enough)
    rw [items, separates.2 (.ends between)]
    simp [bind, Except.bind]
  | @more before after octets others one xs between also this further ih =>
    obtain ⟨fuel, rfl⟩ := Nat.exists_eq_add_one_of_ne_zero (Nat.ne_of_gt (Nat.zero_lt_of_lt enough))
    simp only [List.length_append, List.length_cons] at short enough
    obtain ⟨left, same, next⟩ :=
      exists_between_further (begins this) between also (others ++ close :: rest)
    have read := reads this (by omega) (ends_of_further further closes) same
    have rearranged : before ++ 0x2C :: (after ++ (octets ++ others)) ++ close :: rest =
        before ++ 0x2C :: (after ++ (octets ++ (others ++ close :: rest))) := by
      simp
    rw [rearranged, items_step (separates.2 next) read, ih (by omega) (by omega)]
    simp

/-- Items are read if the step between them and the reader of one do what they ought to. -/
theorem items_of_listed {octets : Bytes} {xs : List α} (listed : Listed item octets xs)
    {fuel : Nat} (enough : octets.length < fuel) (short : octets.length < bound) (rest : Bytes) :
    items unfinished next reader fuel true [] (octets ++ close :: rest) = .ok (xs, rest) := by
  obtain ⟨fuel, rfl⟩ := Nat.exists_eq_add_one_of_ne_zero (Nat.ne_of_gt (Nat.zero_lt_of_lt enough))
  cases listed with
  | none between =>
    rw [items, separates.2 (.ends between)]
    rfl
  | @some blanks octets others one xs between this further =>
    have several := further.length_le
    have nonempty : 0 < octets.length := by
      obtain ⟨_, _, _, shape, -, -⟩ := begins this
      rw [shape]
      exact Nat.zero_lt_succ _
    simp only [List.length_append] at short enough
    obtain ⟨left, same, next⟩ :=
      exists_between_first (begins this) between (others ++ close :: rest)
    have read := reads this (by omega) (ends_of_further further closes) same
    rw [List.append_assoc, List.append_assoc, items_step (separates.2 next) read,
      items_of_further separates begins reads closes further (by omega) (by omega)]
    rfl

end

section

variable (sound : ∀ {left one rest}, reader left = .ok (one, rest) →
  ∃ blanks octets, Blanks blanks ∧ item octets one ∧ opening ++ left = blanks ++ (octets ++ rest))

include separates sound

theorem further_of_items {fuel : Nat} {done result : List α} {input rest : Bytes}
    (read : items unfinished next reader fuel false done input = .ok (result, rest)) :
    ∃ octets xs, Further item octets xs ∧ input = octets ++ close :: rest ∧
      result = done.reverse ++ xs := by
  induction fuel generalizing done input with
  | zero => cases read
  | succ fuel ih =>
    obtain ⟨⟨more, left⟩, found, read⟩ := bind_eq_ok_iff.1 read
    cases separates.1 found with
    | ends blank =>
      cases read
      exact ⟨_, [], .done blank, rfl, by simp⟩
    | @goesOn before after _ _ octet blank also visible same =>
      obtain ⟨⟨one, others⟩, this, read⟩ := bind_eq_ok_iff.1 read
      obtain ⟨blanks, octets, between, written, parted⟩ := sound this
      obtain ⟨tail, xs, further, rfl, rfl⟩ := ih read
      refine ⟨before ++ 0x2C :: ((after ++ blanks) ++ (octets ++ tail)), one :: xs,
        .more blank (blanks_append also between) written further, ?_, by simp⟩
      rw [← same, parted]
      simp

/-- What is read as items is a list of them. -/
theorem listed_of_items {fuel : Nat} {result : List α} {input rest : Bytes}
    (read : items unfinished next reader fuel true [] input = .ok (result, rest)) :
    ∃ octets, Listed item octets result ∧ input = octets ++ close :: rest := by
  cases fuel with
  | zero => cases read
  | succ fuel =>
    obtain ⟨⟨more, left⟩, found, read⟩ := bind_eq_ok_iff.1 read
    cases separates.1 found with
    | ends blank =>
      cases read
      exact ⟨_, .none blank, rfl⟩
    | @begins before _ _ octet blank visible same =>
      obtain ⟨⟨one, others⟩, this, read⟩ := bind_eq_ok_iff.1 read
      obtain ⟨blanks, octets, between, written, parted⟩ := sound this
      obtain ⟨tail, xs, further, rfl, rfl⟩ := further_of_items separates sound read
      refine ⟨(before ++ blanks) ++ (octets ++ tail),
        .some (blanks_append blank between) written further, ?_⟩
      rw [← same, parted]
      simp

end

end

end Read
end Json
end HttpExchange
