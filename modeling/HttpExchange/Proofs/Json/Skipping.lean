import HttpExchange.Json.Ignored
import HttpExchange.Proofs.Json.Document

/-!
# Values that are skipped are read by the grammar

What carries the proof is that the octets of a value lead from any stack of open frames to what
follows the value inside the same stack (`Passes`).
-/

namespace HttpExchange
namespace Json

/-! ### Forms -/

namespace Grammar

/-- What stands between quotes, whether or not it writes a text. -/
inductive Quoted : Bytes → Prop
  | empty : Quoted []
  | plain {octet : UInt8} {octets : Bytes} (plain : Read.IsPlain octet) (further : Quoted octets) :
      Quoted (octet :: octets)
  | short {letter : UInt8} {octets : Bytes} (known : (Read.shortEscape? letter).isSome)
      (further : Quoted octets) : Quoted (0x5C :: letter :: octets)
  /-- A code unit, be it a surrogate or not. -/
  | unit {digits octets : Bytes} (four : digits.length = 4)
      (digital : ∀ digit ∈ digits, (Ascii.hexValue? digit).isSome) (further : Quoted octets) :
      Quoted (0x5C :: 0x75 :: (digits ++ octets))

/-- A numeral, whether or not its number is in range. -/
inductive Figures : Bytes → Prop
  | intro {whole fraction digits power : Bytes} {exponent : Option (Bool × Bytes)} (negative : Bool)
      (wholly : Whole whole) (fractional : Fraction fraction digits)
      (scaled : Exponent power exponent) :
      Figures ((if negative then [0x2D] else []) ++ (whole ++ (fraction ++ power)))

/-- The form of what has no parts. -/
inductive Flat : Bytes → Prop
  | null : Flat [0x6E, 0x75, 0x6C, 0x6C]
  | true : Flat [0x74, 0x72, 0x75, 0x65]
  | false : Flat [0x66, 0x61, 0x6C, 0x73, 0x65]
  | figures {octets : Bytes} (figures : Figures octets) : Flat octets
  | quoted {octets : Bytes} (quoted : Quoted octets) : Flat (0x22 :: (octets ++ [0x22]))

/-- The form of an element of an array. -/
def Element (form : Bytes → Prop) (octets : Bytes) (_ : Unit) : Prop :=
  form octets

/-- The form of a member of an object. -/
inductive Attribute (form : Bytes → Prop) : Bytes → Unit → Prop
  | intro {name before after octets : Bytes} (quoted : Quoted name) (between : Blanks before)
      (also : Blanks after) (this : form octets) :
      Attribute form (0x22 :: (name ++ 0x22 :: (before ++ 0x3A :: (after ++ octets)))) ()

/-- The form of arrays and objects. -/
inductive Bracketed (form : Bytes → Prop) : Bytes → Prop
  | array {octets : Bytes} {elements : List Unit} (listed : Listed (Element form) octets elements) :
      Bracketed form (0x5B :: (octets ++ [0x5D]))
  | object {octets : Bytes} {members : List Unit}
      (listed : Listed (Attribute form) octets members) :
      Bracketed form (0x7B :: (octets ++ [0x7D]))

/-- The form of a value with at most `depth` arrays and objects inside one another. -/
def Form : (depth : Nat) → Bytes → Prop
  | 0, octets => Flat octets
  | depth + 1, octets => Flat octets ∨ Bracketed (Form depth) octets

/-- The octets have the form of a value. -/
def Text (octets : Bytes) : Prop :=
  ∃ depth, Form depth octets

/-! ### What writes a value has the form of one -/

theorem isSome_of_hexNumber? {value unit : Nat} {digits : Bytes}
    (written : hexNumber? value digits = some unit) :
    ∀ digit ∈ digits, (Ascii.hexValue? digit).isSome := by
  induction digits generalizing value with
  | nil => exact List.forall_mem_nil _
  | cons digit digits ih =>
    obtain ⟨low, known, further⟩ := hexNumber?_cons.1 written
    exact List.forall_mem_cons.2 ⟨Option.isSome_iff_exists.2 ⟨low, known⟩, ih further⟩

theorem Quoted.append {octets others : Bytes} (plain : ∀ octet ∈ octets, Read.IsPlain octet)
    (further : Quoted others) : Quoted (octets ++ others) := by
  induction octets with
  | nil => exact further
  | cons octet octets ih =>
    obtain ⟨first, rest⟩ := List.forall_mem_cons.1 plain
    exact .plain first (ih rest)

theorem Quoted.escape {escape others : Bytes} {c : Char} (escaped : Escape escape c)
    (further : Quoted others) : Quoted (escape ++ others) := by
  cases escaped with
  | short known =>
    refine .short ?_ further
    rw [(Read.shortEscape?_of_mem known).2.1]
    rfl
  | unit written => exact .unit written.1 (isSome_of_hexNumber? written.2) further
  | pair written also =>
    have second := Quoted.unit also.1 (isSome_of_hexNumber? also.2) further
    have both := Quoted.unit written.1 (isSome_of_hexNumber? written.2) second
    simpa using both

theorem Literal.quoted {octets : Bytes} {chars : List Char} (literal : Literal octets chars) :
    Quoted octets := by
  induction literal with
  | empty => exact .empty
  | char plain visible _ ih =>
    exact .append (fun _ => Read.isPlain_of_mem_encodeChar plain visible) ih
  | escape escaped _ ih => exact .escape escaped ih

theorem Scalar.flat {octets : Bytes} {v : Value} (scalar : Scalar octets v) : Flat octets := by
  cases scalar with
  | null => exact .null
  | true => exact .true
  | false => exact .false
  | number numeral =>
    obtain ⟨wholly, fractional, scaled, -⟩ := numeral
    exact .figures (.intro _ wholly fractional scaled)
  | string literal => exact .quoted literal.quoted

theorem Member.attribute {item : Bytes → Value → Prop} {form : Bytes → Prop} {octets : Bytes}
    {one : String × Value} (written : Member item octets one)
    (each : ∀ octets v, item octets v → form octets) : Attribute form octets () := by
  obtain ⟨literal, between, also, this⟩ := written
  exact .intro literal.quoted between also (each _ _ this)

theorem Writes.form {depth : Nat} {octets : Bytes} {v : Value} (writes : Writes depth octets v) :
    Form depth octets := by
  induction depth generalizing octets v with
  | zero => exact Scalar.flat writes
  | succ depth ih =>
    rcases writes with scalar | @⟨_, _, listed⟩ | @⟨_, _, listed⟩
    · exact .inl scalar.flat
    · exact .inr (.array (listed.map (fun _ => ()) fun _ _ => ih))
    · refine .inr (.object (listed.map (fun _ => ()) fun _ _ member => ?_))
      exact member.attribute fun _ _ => ih

end Grammar

namespace Read

open Grammar

/-! ### What begins a text -/

theorem begins_of_flat {octets : Bytes} (flat : Flat octets) :
    ∃ octet others, octets = octet :: others ∧ Visible 0x5D octet := by
  cases flat with
  | null => exact ⟨_, _, rfl, by decide⟩
  | true => exact ⟨_, _, rfl, by decide⟩
  | false => exact ⟨_, _, rfl, by decide⟩
  | figures figures =>
    obtain ⟨negative, wholly, -, -⟩ := figures
    exact begins_of_whole wholly _ _
  | quoted => exact ⟨_, _, rfl, by decide⟩

theorem begins_of_form {depth : Nat} {octets : Bytes} (form : Form depth octets) :
    ∃ octet others, octets = octet :: others ∧ Visible 0x5D octet := by
  cases depth with
  | zero => exact begins_of_flat form
  | succ depth =>
    rcases form with flat | array | object
    · exact begins_of_flat flat
    · exact ⟨_, _, rfl, by decide⟩
    · exact ⟨_, _, rfl, by decide⟩

theorem begins_of_attribute {form : Bytes → Prop} {octets : Bytes} {one : Unit}
    (written : Attribute form octets one) :
    ∃ octet others, octets = octet :: others ∧ Visible 0x7D octet := by
  obtain ⟨_, _, _, _⟩ := written
  exact ⟨_, _, rfl, by decide⟩

/-! ### String literals and names -/

theorem skipString_of_digits {missing : Nat} {digits : Bytes} (length : digits.length = missing + 1)
    (digital : ∀ digit ∈ digits, (Ascii.hexValue? digit).isSome) (rest : Bytes) :
    skipString (.hex missing true) (digits ++ rest) = skipString .plain rest := by
  induction missing generalizing digits with
  | zero =>
    obtain ⟨digit, rfl⟩ := List.length_eq_one_iff.1 length
    have known := List.forall_mem_singleton.1 digital
    simp [skipString, known]
  | succ missing ih =>
    obtain ⟨digit, digits, rfl⟩ := List.exists_cons_of_length_eq_add_one length
    obtain ⟨known, others⟩ := List.forall_mem_cons.1 digital
    have further := ih (by simpa using length) others
    simp [skipString, known, further]

theorem skipString_of_quoted {octets : Bytes} (quoted : Quoted octets) (rest : Bytes) :
    skipString .plain (octets ++ 0x22 :: rest) = .ok rest := by
  induction quoted with
  | empty => simp [skipString]
  | plain plain _ ih =>
    obtain ⟨quote, backslash, control⟩ := plain
    simp [skipString, quote, backslash, control, ih]
  | @short letter octets known _ ih =>
    have other : letter ≠ 0x75 := by
      rintro rfl
      cases known
    simp [skipString, other, known, ih]
  | unit four digital _ ih =>
    have further := skipString_of_digits four digital
    simp [skipString, further, ih]

theorem skipName_of_quoted {name before : Bytes} (quoted : Quoted name) (between : Blanks before)
    (rest : Bytes) : skipName (0x22 :: (name ++ 0x22 :: (before ++ 0x3A :: rest))) = .ok rest := by
  rw [skipName, skipBlanks_cons (by decide)]
  simp [skipString_of_quoted quoted, bind, Except.bind, colon_eq_ok_iff.2 ⟨before, between, rfl⟩]

/-! ### Steps of the loop -/

/-- What follows a value, or an opening bracket, inside the open frames. -/
def goOn (afterValue : Bool) (fuel : Nat) (frames : List Frame) (input : Bytes) :
    Except Failure Bytes := do
  let (frames, rest) ← closeFrames afterValue frames input
  match frames with
  | [] => .ok rest
  | .list :: _ => skipInside fuel frames rest
  | .object :: _ => do
    let rest ← skipName rest
    skipInside fuel frames rest

/-- Skip an element or a member of the innermost frame, and what follows. -/
def enter (frame : Frame) (fuel : Nat) (frames : List Frame) (input : Bytes) :
    Except Failure Bytes :=
  match frame with
  | .list => skipInside fuel (.list :: frames) input
  | .object => do
    let rest ← skipName input
    skipInside fuel (.object :: frames) rest

theorem skipInside_append {blanks : Bytes} (blank : Blanks blanks) (fuel : Nat)
    (frames : List Frame) (input : Bytes) :
    skipInside fuel frames (blanks ++ input) = skipInside fuel frames input := by
  cases fuel with
  | zero => rfl
  | succ fuel => rw [skipInside, skipInside, skipBlanks_append blank]

theorem skipInside_cons {octet : UInt8} (visible : isBlank octet = false) {rest left : Bytes}
    {opened : Option Frame} (begins : skipOpening octet rest = .ok (opened, left)) (fuel : Nat)
    (frames : List Frame) : skipInside (fuel + 1) frames (octet :: rest) =
      goOn opened.isNone fuel (opened.toList ++ frames) left := by
  rw [skipInside, skipBlanks_cons visible]
  simp only [begins]
  rfl

theorem enter_append {blanks : Bytes} (blank : Blanks blanks) (frame : Frame) (fuel : Nat)
    (frames : List Frame) (input : Bytes) :
    enter frame fuel frames (blanks ++ input) = enter frame fuel frames input := by
  cases frame with
  | list => exact skipInside_append blank fuel _ input
  | object => rw [enter, enter, skipName, skipName, skipBlanks_append blank]

theorem isBlank_closing (frame : Frame) : isBlank frame.closing = false := by
  cases frame <;> decide

theorem ends_closing (frame : Frame) (rest : Bytes) : Ends (frame.closing :: rest) := by
  rintro _ ⟨⟩
  cases frame <;> decide

theorem goOn_closing {blanks : Bytes} (blank : Blanks blanks) (afterValue : Bool) (fuel : Nat)
    (frame : Frame) (frames : List Frame) (rest : Bytes) :
    goOn afterValue fuel (frame :: frames) (blanks ++ frame.closing :: rest) =
      goOn true fuel frames rest := by
  have other : frame.closing ≠ 0x2C := by
    cases frame <;> decide
  rw [goOn, closeFrames, skipBlanks_append_cons blank (isBlank_closing frame)]
  simp only [other, false_and, if_false, if_true]
  rfl

theorem goOn_comma {blanks : Bytes} (blank : Blanks blanks) (fuel : Nat) (frame : Frame)
    (frames : List Frame) (rest : Bytes) :
    goOn true fuel (frame :: frames) (blanks ++ 0x2C :: rest) = enter frame fuel frames rest := by
  rw [goOn, closeFrames, skipBlanks_append_cons blank (by decide)]
  cases frame <;> rfl

theorem goOn_first {blanks : Bytes} (blank : Blanks blanks) {octet : UInt8} {frame : Frame}
    (visible : Visible frame.closing octet) (fuel : Nat) (frames : List Frame) (rest : Bytes) :
    goOn false fuel (frame :: frames) (blanks ++ octet :: rest) =
      enter frame fuel frames (octet :: rest) := by
  rw [goOn, closeFrames, skipBlanks_append_cons blank visible.1]
  simp only [visible.2, Bool.false_eq_true, and_false, if_false]
  cases frame <;> rfl

/-! ### Runs of the loop -/

/-- The octets before `rest` lead from any open frames to what follows a value inside them, at the
cost of one step for each value. -/
def Passes (octets rest : Bytes) : Prop :=
  ∃ cost ≤ octets.length, ∀ fuel frames,
    skipInside (fuel + cost) frames (octets ++ rest) = goOn true fuel frames rest

/-- The octets before `rest` lead through an element or a member of a frame. -/
def PassesIn (frame : Frame) (octets rest : Bytes) : Prop :=
  ∃ cost ≤ octets.length, ∀ fuel frames,
    enter frame (fuel + cost) frames (octets ++ rest) = goOn true fuel (frame :: frames) rest

theorem passes_of_skipOpening {octet : UInt8} {others rest : Bytes}
    (visible : isBlank octet = false)
    (begins : skipOpening octet (others ++ rest) = .ok (none, rest)) :
    Passes (octet :: others) rest := by
  refine ⟨1, Nat.succ_le_succ (Nat.zero_le _), fun fuel frames => ?_⟩
  rw [List.cons_append, skipInside_cons visible begins]
  rfl

theorem passes_of_figures {octets rest : Bytes} (figures : Figures octets) (ends : Ends rest) :
    Passes octets rest := by
  obtain @⟨whole, fraction, digits, power, _, negative, wholly, fractional, scaled⟩ := figures
  have split := splitNumeral_of_whole wholly fractional scaled ends .invalidNumber
  cases negative with
  | true =>
    simp only [if_true, List.cons_append, List.nil_append]
    refine passes_of_skipOpening (by decide) ?_
    simp [skipOpening, split, Except.map]
  | false =>
    obtain ⟨nonempty, digital⟩ := wholly.digital
    obtain ⟨first, others, rfl⟩ := List.exists_cons_of_ne_nil nonempty
    have digit := digital first List.mem_cons_self
    have other : ∀ letter, Ascii.isDigit letter = false → first ≠ letter := by
      rintro _ different rfl
      rw [digit] at different
      cases different
    simp only [Bool.false_eq_true, if_false, List.cons_append, List.nil_append] at split ⊢
    refine passes_of_skipOpening (visible_of_isDigit digit).1 ?_
    simp only [List.append_assoc]
    rw [skipOpening, if_neg (other _ (by decide)), if_neg (other _ (by decide)),
      if_neg (other _ (by decide)), if_neg (other _ (by decide)), if_pos digit, split]
    rfl

theorem passes_of_flat {octets rest : Bytes} (flat : Flat octets)
    (ends : Figures octets → Ends rest) : Passes octets rest := by
  cases flat with
  | null => exact passes_of_skipOpening (by decide) rfl
  | true => exact passes_of_skipOpening (by decide) rfl
  | false => exact passes_of_skipOpening (by decide) rfl
  | figures figures => exact passes_of_figures figures (ends figures)
  | quoted quoted =>
    refine passes_of_skipOpening (by decide) ?_
    rw [List.append_assoc]
    simp [skipOpening, Ascii.isDigit, skipString_of_quoted quoted, Except.map]

section

variable {α : Type} {item : Bytes → α → Prop} {frame : Frame} {octets : Bytes} {items : List α}
  (each : ∀ {octets one rest}, item octets one → Ends rest → PassesIn frame octets rest)

include each

theorem goOn_of_further (further : Further item octets items) (rest : Bytes) :
    ∃ cost ≤ octets.length, ∀ fuel frames,
      goOn true (fuel + cost) (frame :: frames) (octets ++ frame.closing :: rest) =
        goOn true fuel frames rest := by
  induction further with
  | done between =>
    exact ⟨0, Nat.zero_le _, fun fuel frames => goOn_closing between true fuel frame frames rest⟩
  | @more before after octets others one items between also this further ih =>
    obtain ⟨cost, few, one⟩ := each this (ends_of_further further (ends_closing frame rest))
    obtain ⟨costs, enough, several⟩ := ih
    have length : costs + cost ≤ (before ++ 0x2C :: (after ++ (octets ++ others))).length := by
      simp only [List.length_append, List.length_cons]
      omega
    have rearranged : before ++ 0x2C :: (after ++ (octets ++ others)) ++ frame.closing :: rest =
        before ++ 0x2C :: (after ++ (octets ++ (others ++ frame.closing :: rest))) := by
      simp
    refine ⟨costs + cost, length, fun fuel frames => ?_⟩
    rw [rearranged, goOn_comma between, enter_append also, ← Nat.add_assoc, one, several]

/-- What stands between brackets leads to what follows a value outside them. -/
theorem goOn_of_listed (listed : Listed item octets items)
    (begins : ∀ {octets one}, item octets one → ∃ octet others, octets = octet :: others ∧
      Visible frame.closing octet) (rest : Bytes) :
    ∃ cost ≤ octets.length, ∀ fuel frames,
      goOn false (fuel + cost) (frame :: frames) (octets ++ frame.closing :: rest) =
        goOn true fuel frames rest := by
  cases listed with
  | none between =>
    exact ⟨0, Nat.zero_le _, fun fuel frames => goOn_closing between false fuel frame frames rest⟩
  | @some blanks octets others one items between this further =>
    obtain ⟨octet, tail, rfl, visible⟩ := begins this
    obtain ⟨cost, few, one⟩ := each this (ends_of_further further (ends_closing frame rest))
    obtain ⟨costs, enough, several⟩ := goOn_of_further each further rest
    have length : costs + cost ≤ (blanks ++ (octet :: tail ++ others)).length := by
      simp only [List.length_append]
      omega
    have rearranged : blanks ++ (octet :: tail ++ others) ++ frame.closing :: rest =
        blanks ++ octet :: (tail ++ (others ++ frame.closing :: rest)) := by
      simp
    refine ⟨costs + cost, length, fun fuel frames => ?_⟩
    rw [rearranged, goOn_first between visible, ← List.cons_append, ← Nat.add_assoc, one, several]

end

theorem passesIn_of_element {form : Bytes → Prop} {octets rest : Bytes} {one : Unit}
    (each : ∀ {octets rest}, form octets → Ends rest → Passes octets rest)
    (written : Element form octets one) (ends : Ends rest) : PassesIn .list octets rest := by
  obtain ⟨cost, few, passes⟩ := each written ends
  exact ⟨cost, few, fun fuel frames => passes fuel (.list :: frames)⟩

theorem passesIn_of_attribute {form : Bytes → Prop} {octets rest : Bytes} {one : Unit}
    (each : ∀ {octets rest}, form octets → Ends rest → Passes octets rest)
    (written : Attribute form octets one) (ends : Ends rest) : PassesIn .object octets rest := by
  obtain @⟨name, before, after, octets, quoted, between, also, this⟩ := written
  obtain ⟨cost, few, passes⟩ := each this ends
  have length :
      cost ≤ (0x22 :: (name ++ 0x22 :: (before ++ 0x3A :: (after ++ octets)))).length := by
    simp only [List.length_append, List.length_cons]
    omega
  have rearranged : 0x22 :: (name ++ 0x22 :: (before ++ 0x3A :: (after ++ octets))) ++ rest =
      0x22 :: (name ++ 0x22 :: (before ++ 0x3A :: (after ++ (octets ++ rest)))) := by
    simp
  refine ⟨cost, length, fun fuel frames => ?_⟩
  rw [rearranged, enter, skipName_of_quoted quoted between]
  exact (skipInside_append also _ _ _).trans (passes fuel (.object :: frames))

/-- A bracket opens a frame, which what stands between the brackets leads out of. -/
theorem passes_of_frame {frame : Frame} {octet : UInt8} {octets rest : Bytes}
    (visible : isBlank octet = false)
    (opens : ∀ rest, skipOpening octet rest = .ok (some frame, rest))
    (inside : ∃ cost ≤ octets.length, ∀ fuel frames,
      goOn false (fuel + cost) (frame :: frames) (octets ++ frame.closing :: rest) =
        goOn true fuel frames rest) :
    Passes (octet :: (octets ++ [frame.closing])) rest := by
  obtain ⟨cost, few, inside⟩ := inside
  have length : cost + 1 ≤ (octet :: (octets ++ [frame.closing])).length := by
    simp only [List.length_append, List.length_cons]
    omega
  refine ⟨cost + 1, length, fun fuel frames => ?_⟩
  rw [List.cons_append, List.append_assoc, ← Nat.add_assoc, skipInside_cons visible (opens _)]
  exact inside fuel frames

theorem passes_of_bracketed {form : Bytes → Prop} {octets : Bytes}
    (each : ∀ {octets rest}, form octets → Ends rest → Passes octets rest)
    (begins : ∀ {octets}, form octets → ∃ octet others, octets = octet :: others ∧
      Visible 0x5D octet) (bracketed : Bracketed form octets) (rest : Bytes) :
    Passes octets rest := by
  cases bracketed with
  | array listed =>
    exact passes_of_frame (by decide) (fun _ => rfl)
      (goOn_of_listed (passesIn_of_element each) listed begins rest)
  | object listed =>
    exact passes_of_frame (by decide) (fun _ => rfl)
      (goOn_of_listed (passesIn_of_attribute each) listed begins_of_attribute rest)

/-- A text leads from any open frames to what follows a value.  Only a numeral needs to be told
where it ends. -/
theorem passes_of_form {depth : Nat} {octets rest : Bytes} (form : Form depth octets)
    (ends : Figures octets → Ends rest) : Passes octets rest := by
  induction depth generalizing octets rest with
  | zero => exact passes_of_flat form ends
  | succ depth ih =>
    rcases form with flat | bracketed
    · exact passes_of_flat flat ends
    · have each : ∀ {octets rest}, Form depth octets → Ends rest → Passes octets rest :=
        fun form ends => ih form fun _ => ends
      exact passes_of_bracketed each begins_of_form bracketed rest

/-! ### Texts -/

/-- A text is skipped up to its end. -/
theorem skipValue_of_text {fuel : Nat} {blanks octets rest : Bytes} (blank : Blanks blanks)
    (text : Text octets) (ends : Figures octets → Ends rest) (short : octets.length ≤ fuel) :
    skipValue fuel (blanks ++ (octets ++ rest)) = .ok rest := by
  obtain ⟨depth, form⟩ := text
  obtain ⟨cost, few, passes⟩ := passes_of_form form ends
  rw [skipValue, skipInside_append blank, ← Nat.sub_add_cancel (Nat.le_trans few short), passes]
  rfl

/-- An input begins with one text at most. -/
theorem eq_of_texts {before first left after second right : Bytes} (blank : Blanks before)
    (text : Text first) (ends : Figures first → Ends left) (also : Blanks after)
    (other : Text second) (stops : Figures second → Ends right)
    (same : before ++ (first ++ left) = after ++ (second ++ right)) :
    first = second ∧ left = right := by
  have skipped := skipValue_of_text blank text ends (Nat.le_add_right _ second.length)
  rw [same, skipValue_of_text also other stops (Nat.le_add_left _ _)] at skipped
  cases skipped
  have starts : ∀ {blanks octets}, Blanks blanks → Text octets →
      skipBlanks (blanks ++ (octets ++ left)) = octets ++ left := by
    rintro blanks octets blank ⟨depth, form⟩
    obtain ⟨octet, others, rfl, visible, -⟩ := begins_of_form form
    rw [skipBlanks_append blank, List.cons_append, skipBlanks_cons visible]
  have both := congrArg skipBlanks same
  rw [starts blank text, starts also other] at both
  exact ⟨List.append_cancel_right both, rfl⟩

end Read
end Json
end HttpExchange
