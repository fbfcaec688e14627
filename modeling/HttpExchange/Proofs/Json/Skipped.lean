import HttpExchange.Proofs.Json.Skipping

/-!
# What is skipped is a text

What carries the proof is what the open frames still ask for after a value (`Closes`).
-/

namespace HttpExchange
namespace Json

/-! ### Depths -/

namespace Grammar

theorem Attribute.mono {form other : Bytes → Prop} {octets : Bytes} {one : Unit}
    (written : Attribute form octets one) (each : ∀ octets, form octets → other octets) :
    Attribute other octets one := by
  obtain ⟨quoted, between, also, this⟩ := written
  exact .intro quoted between also (each _ this)

theorem Form.succ {depth : Nat} {octets : Bytes} (form : Form depth octets) :
    Form (depth + 1) octets := by
  induction depth generalizing octets with
  | zero => exact .inl form
  | succ depth ih =>
    rcases form with flat | ⟨listed⟩ | ⟨listed⟩
    · exact .inl flat
    · exact .inr (.array (listed.mono fun _ _ => ih))
    · exact .inr (.object (listed.mono fun _ _ written => written.mono fun _ => ih))

theorem Form.mono {depth deeper : Nat} {octets : Bytes} (form : Form depth octets)
    (le : depth ≤ deeper) : Form deeper octets := by
  induction le with
  | refl => exact form
  | step _ ih => exact ih.succ

section

variable {α : Type} (item : Nat → Bytes → α → Prop)
  (mono : ∀ {depth deeper octets one}, depth ≤ deeper → item depth octets one →
    item deeper octets one) {octets : Bytes} {items : List α}

include mono

/-- Items of some depth each have a depth in common. -/
theorem Further.common (further : Further (fun octets one => ∃ depth, item depth octets one)
    octets items) : ∃ depth, Further (item depth) octets items := by
  induction further with
  | done between => exact ⟨0, .done between⟩
  | more between also this _ ih =>
    obtain ⟨deep, this⟩ := this
    obtain ⟨deeper, further⟩ := ih
    exact ⟨max deep deeper, .more between also (mono (Nat.le_max_left _ _) this)
      (further.mono fun _ _ => mono (Nat.le_max_right _ _))⟩

theorem Listed.common (listed : Listed (fun octets one => ∃ depth, item depth octets one)
    octets items) : ∃ depth, Listed (item depth) octets items := by
  cases listed with
  | none between => exact ⟨0, .none between⟩
  | some between this further =>
    obtain ⟨deep, this⟩ := this
    obtain ⟨deeper, further⟩ := further.common item mono
    exact ⟨max deep deeper, .some between (mono (Nat.le_max_left _ _) this)
      (further.mono fun _ _ => mono (Nat.le_max_right _ _))⟩

end

/-- Arrays and objects of texts are texts. -/
theorem text_of_bracketed {octets : Bytes} (bracketed : Bracketed Text octets) : Text octets := by
  cases bracketed with
  | array listed =>
    obtain ⟨depth, listed⟩ := Listed.common (fun depth => Element (Form depth))
      (fun le form => Form.mono form le) listed
    exact ⟨depth + 1, .inr (.array listed)⟩
  | object listed =>
    have each : ∀ octets one, Attribute Text octets one →
        ∃ depth, Attribute (Form depth) octets one := by
      rintro _ _ ⟨quoted, between, also, depth, this⟩
      exact ⟨depth, .intro quoted between also this⟩
    obtain ⟨depth, listed⟩ := (listed.mono each).common (fun depth => Attribute (Form depth))
      fun le written => written.mono fun _ form => form.mono le
    exact ⟨depth + 1, .inr (.object listed)⟩

end Grammar

namespace Read

open Grammar

/-! ### String literals -/

/-- The octets that were taken for a code unit are its digits. -/
theorem digits_of_skipString {missing : Nat} {valid : Bool} {input rest : Bytes}
    (read : skipString (.hex missing valid) input = .ok rest) :
    valid = true ∧ ∃ digits left, digits.length = missing + 1 ∧
      (∀ digit ∈ digits, (Ascii.hexValue? digit).isSome) ∧ input = digits ++ left ∧
        skipString .plain left = .ok rest := by
  induction missing generalizing valid input with
  | zero =>
    cases input with
    | nil => cases read
    | cons digit left =>
      rw [skipString] at read
      split at read
      · rename_i both
        obtain ⟨valid, known⟩ := Bool.and_eq_true_iff.1 both
        exact ⟨valid, [digit], left, rfl, List.forall_mem_singleton.2 known, rfl, read⟩
      · cases read
  | succ missing ih =>
    cases input with
    | nil => cases read
    | cons digit left =>
      rw [skipString] at read
      obtain ⟨both, digits, left, length, digital, rfl, further⟩ := ih read
      obtain ⟨valid, known⟩ := Bool.and_eq_true_iff.1 both
      exact ⟨valid, digit :: digits, left, by simp [length],
        List.forall_mem_cons.2 ⟨known, digital⟩, rfl, further⟩

/-- What is skipped as a string literal is quoted. -/
theorem quoted_of_skipString {input rest : Bytes} (read : skipString .plain input = .ok rest) :
    ∃ octets, Quoted octets ∧ input = octets ++ 0x22 :: rest := by
  induction length : input.length using Nat.strongRecOn generalizing input with
  | ind n ih =>
    subst length
    cases input with
    | nil => cases read
    | cons octet input =>
      rw [skipString] at read
      split at read
      · rename_i quote
        cases read
        exact ⟨[], .empty, by rw [quote]; rfl⟩
      rename_i quote
      split at read
      · rename_i backslash
        subst backslash
        cases input with
        | nil => cases read
        | cons letter input =>
          rw [skipString] at read
          split at read
          · rename_i unit
            subst unit
            obtain ⟨-, digits, left, four, digital, rfl, further⟩ := digits_of_skipString read
            have shorter : left.length < (0x5C :: 0x75 :: (digits ++ left)).length := by
              simp only [List.length_cons, List.length_append]
              omega
            obtain ⟨octets, quoted, rfl⟩ := ih _ shorter further rfl
            exact ⟨_, .unit four digital quoted, by simp⟩
          split at read
          · rename_i known
            have shorter : input.length < (0x5C :: letter :: input).length := by
              simp only [List.length_cons]
              omega
            obtain ⟨octets, quoted, rfl⟩ := ih _ shorter read rfl
            exact ⟨_, .short known quoted, rfl⟩
          · cases read
      rename_i backslash
      split at read
      · cases read
      · rename_i control
        obtain ⟨octets, quoted, rfl⟩ := ih input.length (by simp) read rfl
        exact ⟨_, .plain ⟨quote, backslash, control⟩ quoted, rfl⟩

/-! ### Numerals -/

/-- What is split as a numeral is one, whatever its number. -/
theorem figures_of_splitNumeral {unfinished : Cause} {input rest : Bytes} {numeral : Numeral}
    (negative : Bool) (split : splitNumeral unfinished input = .ok (numeral, rest)) :
    ∃ octets, Figures ((if negative then [0x2D] else []) ++ octets) ∧ input = octets ++ rest := by
  obtain ⟨whole, fraction, digits, power, exponent, wholly, fractional, scaled, -, -, rfl⟩ :=
    parts_of_splitNumeral split
  exact ⟨_, .intro negative wholly fractional scaled, by simp⟩

/-! ### Openings -/

theorem map_none_eq_ok_iff {left : Except Failure Bytes} {opened : Option Frame} {rest : Bytes} :
    (left.map fun rest => (none, rest)) = .ok (opened, rest) ↔ left = .ok rest ∧ opened = none := by
  cases left with
  | error failure => simp [Except.map]
  | ok input => simp [Except.map, eq_comm, and_comm]

theorem map_snd_eq_ok_iff {α : Type} {left : Except Failure (α × Bytes)} {rest : Bytes} :
    left.map Prod.snd = .ok rest ↔ ∃ value, left = .ok (value, rest) := by
  cases left with
  | error failure => simp [Except.map]
  | ok read => simp [Except.map, Prod.ext_iff]

/-- The first octet opens a frame, or a scalar is skipped. -/
theorem opened_of_skipOpening {octet : UInt8} {input rest : Bytes} {opened : Option Frame}
    (read : skipOpening octet input = .ok (opened, rest)) :
    (opened = none ∧ ∃ octets, Flat octets ∧ octet :: input = octets ++ rest) ∨
      rest = input ∧
        (opened = some .list ∧ octet = 0x5B ∨ opened = some .object ∧ octet = 0x7B) := by
  unfold skipOpening at read
  dsimp only at read
  split at read
  · rename_i same
    obtain ⟨word, rfl⟩ := map_none_eq_ok_iff.1 read
    rw [wordNull, word_eq_ok_iff] at word
    exact .inl ⟨rfl, _, .null, by rw [same, word]; rfl⟩
  split at read
  · rename_i same
    obtain ⟨word, rfl⟩ := map_none_eq_ok_iff.1 read
    rw [wordTrue, word_eq_ok_iff] at word
    exact .inl ⟨rfl, _, .true, by rw [same, word]; rfl⟩
  split at read
  · rename_i same
    obtain ⟨word, rfl⟩ := map_none_eq_ok_iff.1 read
    rw [wordFalse, word_eq_ok_iff] at word
    exact .inl ⟨rfl, _, .false, by rw [same, word]; rfl⟩
  split at read
  · rename_i minus
    obtain ⟨split, rfl⟩ := map_none_eq_ok_iff.1 read
    obtain ⟨numeral, split⟩ := map_snd_eq_ok_iff.1 split
    obtain ⟨octets, figures, rfl⟩ := figures_of_splitNumeral true split
    exact .inl ⟨rfl, _, .figures figures, by simp [minus]⟩
  split at read
  · obtain ⟨split, rfl⟩ := map_none_eq_ok_iff.1 read
    obtain ⟨numeral, split⟩ := map_snd_eq_ok_iff.1 split
    obtain ⟨octets, figures, parted⟩ := figures_of_splitNumeral false split
    exact .inl ⟨rfl, _, .figures figures, by simp [parted]⟩
  split at read
  · rename_i quote
    obtain ⟨skipped, rfl⟩ := map_none_eq_ok_iff.1 read
    obtain ⟨octets, quoted, rfl⟩ := quoted_of_skipString skipped
    exact .inl ⟨rfl, _, .quoted quoted, by simp [quote]⟩
  split at read
  · rename_i bracket
    cases read
    exact .inr ⟨rfl, .inl ⟨rfl, bracket⟩⟩
  split at read
  · rename_i brace
    cases read
    exact .inr ⟨rfl, .inr ⟨rfl, brace⟩⟩
  · cases read

/-- What is skipped as a name is quoted, and a colon follows. -/
theorem quoted_of_skipName {input rest : Bytes} (read : skipName input = .ok rest) :
    ∃ blanks name before, Blanks blanks ∧ Quoted name ∧ Blanks before ∧
      input = blanks ++ 0x22 :: (name ++ 0x22 :: (before ++ 0x3A :: rest)) := by
  unfold skipName at read
  split at read
  · cases read
  rename_i octet left here
  obtain ⟨blanks, blank, rfl⟩ := blanks_of_skipBlanks here
  split at read
  · rename_i quote
    subst quote
    obtain ⟨after, skipped, stop⟩ := bind_eq_ok_iff.1 read
    obtain ⟨name, quoted, rfl⟩ := quoted_of_skipString skipped
    obtain ⟨before, between, rfl⟩ := colon_eq_ok_iff.1 stop
    exact ⟨blanks, name, before, blank, quoted, between, rfl⟩
  · cases read

/-! ### Frames -/

/-- The items of a frame. -/
def Item : Frame → Bytes → Unit → Prop
  | .list => Element Text
  | .object => Attribute Text

/-- What open frames ask for after a value. -/
inductive Closes : List Frame → Bytes → Prop
  | outside : Closes [] []
  /-- The innermost frame asks for more items or none, and for its closing bracket. -/
  | inside {frame : Frame} {frames : List Frame} {octets others : Bytes} {items : List Unit}
      (further : Further (Item frame) octets items) (outer : Closes frames others) :
      Closes (frame :: frames) (octets ++ frame.closing :: others)

/-- One item more may stand before what the frames ask for. -/
theorem Closes.item {frame : Frame} {frames : List Frame} {before after octets others : Bytes}
    (closes : Closes (frame :: frames) others) (between : Blanks before) (also : Blanks after)
    (this : Item frame octets ()) :
    Closes (frame :: frames) (before ++ 0x2C :: (after ++ (octets ++ others))) := by
  cases closes with
  | inside further outer =>
    have more := Further.more between also this further
    simpa using Closes.inside more outer

/-- A run that ends has gone past a value and what the open frames asked for. -/
def Ran (fuel : Nat) : Prop :=
  ∀ {frames : List Frame} {input rest : Bytes}, skipInside fuel frames input = .ok rest →
    ∃ blanks octets others, Blanks blanks ∧ Text octets ∧ Closes frames others ∧
      input = blanks ++ (octets ++ (others ++ rest))

section

variable {fuel : Nat} (ran : Ran fuel) {frame : Frame} {frames : List Frame} {input rest : Bytes}

include ran

theorem item_of_enter (read : enter frame fuel frames input = .ok rest) :
    ∃ blanks octets others, Blanks blanks ∧ Item frame octets () ∧
      Closes (frame :: frames) others ∧ input = blanks ++ (octets ++ (others ++ rest)) := by
  cases frame with
  | list => exact ran read
  | object =>
    obtain ⟨left, named, further⟩ := bind_eq_ok_iff.1 read
    obtain ⟨blanks, name, before, blank, quoted, between, rfl⟩ := quoted_of_skipName named
    obtain ⟨after, octets, others, also, text, closes, rfl⟩ := ran further
    exact ⟨blanks, _, others, blank, .intro quoted between also text, closes, by simp⟩

/-- What follows a value is what the open frames ask for. -/
theorem closes_of_goOn (read : goOn true fuel frames input = .ok rest) :
    ∃ others, Closes frames others ∧ input = others ++ rest := by
  induction frames generalizing input with
  | nil =>
    cases read
    exact ⟨[], .outside, rfl⟩
  | cons frame frames ih =>
    obtain ⟨blanks, blank, parted⟩ := exists_blanks input
    cases here : skipBlanks input with
    | nil => simp [goOn, closeFrames, here, fail, bind, Except.bind] at read
    | cons octet left =>
      rw [here] at parted
      subst parted
      by_cases comma : octet = 0x2C
      · subst comma
        rw [goOn_comma blank] at read
        obtain ⟨after, octets, others, also, this, closes, rfl⟩ := item_of_enter ran read
        exact ⟨_, closes.item blank also this, by simp⟩
      by_cases closing : octet = frame.closing
      · subst closing
        rw [goOn_closing blank] at read
        obtain ⟨others, closes, rfl⟩ := ih read
        exact ⟨_, .inside (.done blank) closes, by simp⟩
      · simp [goOn, closeFrames, here, comma, closing, fail, bind, Except.bind] at read

/-- After its opening bracket a frame asks for items and its closing bracket. -/
theorem listed_of_goOn (read : goOn false fuel (frame :: frames) input = .ok rest) :
    ∃ octets items others, Listed (Item frame) octets items ∧ Closes frames others ∧
      input = octets ++ frame.closing :: (others ++ rest) := by
  obtain ⟨blanks, blank, parted⟩ := exists_blanks input
  cases here : skipBlanks input with
  | nil => simp [goOn, closeFrames, here, fail, bind, Except.bind] at read
  | cons octet left =>
    have visible := isBlank_of_skipBlanks here
    rw [here] at parted
    subst parted
    by_cases closing : octet = frame.closing
    · subst closing
      rw [goOn_closing blank] at read
      obtain ⟨others, closes, rfl⟩ := closes_of_goOn ran read
      exact ⟨blanks, [], others, .none blank, closes, by simp⟩
    · rw [goOn_first blank ⟨visible, closing⟩] at read
      obtain ⟨before, octets, others, also, this, closes, parted⟩ := item_of_enter ran read
      cases closes with
      | inside further outer =>
        have listed := Listed.some (blanks_append blank also) this further
        exact ⟨_, _, _, listed, outer, by simp [parted]⟩

end

/-- The octets of an opened value: its bracket, its items and the closing bracket. -/
theorem text_of_frame {octet : UInt8} {frame : Frame} {octets : Bytes} {items : List Unit}
    (opens : frame = .list ∧ octet = 0x5B ∨ frame = .object ∧ octet = 0x7B)
    (listed : Listed (Item frame) octets items) : Text (octet :: (octets ++ [frame.closing])) := by
  rcases opens with ⟨rfl, rfl⟩ | ⟨rfl, rfl⟩
  · exact text_of_bracketed (.array listed)
  · exact text_of_bracketed (.object listed)

/-- Every run that ends has gone past a value and what the frames asked for. -/
theorem ran_skipInside (fuel : Nat) : Ran fuel := by
  induction fuel with
  | zero => exact nofun
  | succ fuel ih =>
    intro frames input rest read
    obtain ⟨blanks, blank, parted⟩ := exists_blanks input
    cases here : skipBlanks input with
    | nil => simp [skipInside, here, fail] at read
    | cons octet left =>
      have visible := isBlank_of_skipBlanks here
      rw [here] at parted
      subst parted
      rw [skipInside_append blank] at read
      cases begins : skipOpening octet left with
      | error failure =>
        simp [skipInside, skipBlanks_cons visible, begins, bind, Except.bind] at read
      | ok opening =>
        obtain ⟨opened, after⟩ := opening
        rw [skipInside_cons visible begins] at read
        rcases opened_of_skipOpening begins with ⟨rfl, octets, flat, parted⟩ | ⟨rfl, opens⟩
        · obtain ⟨others, closes, rfl⟩ := closes_of_goOn ih read
          exact ⟨blanks, octets, others, blank, ⟨0, flat⟩, closes, by rw [parted]⟩
        · obtain ⟨frame, rfl⟩ : ∃ frame, opened = some frame := by
            rcases opens with ⟨rfl, -⟩ | ⟨rfl, -⟩ <;> exact ⟨_, rfl⟩
          obtain ⟨octets, items, others, listed, closes, rfl⟩ := listed_of_goOn ih read
          simp only [Option.some.injEq] at opens
          exact ⟨blanks, _, others, blank, text_of_frame opens listed, closes, by simp⟩

/-- What is skipped as a value is a text. -/
theorem text_of_skipValue {fuel : Nat} {input rest : Bytes}
    (read : skipValue fuel input = .ok rest) :
    ∃ blanks octets, Blanks blanks ∧ Text octets ∧ input = blanks ++ (octets ++ rest) := by
  obtain ⟨blanks, octets, _, blank, text, ⟨⟩, parted⟩ := ran_skipInside fuel read
  exact ⟨blanks, octets, blank, text, parted⟩

end Read
end Json
end HttpExchange
