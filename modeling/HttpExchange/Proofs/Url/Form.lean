import HttpExchange.Proofs.Text.Utf8
import HttpExchange.Url.Form
import Mathlib.Data.List.TakeWhile

/-!
# Spellings of form-urlencoded pairs

However a list of pairs is spelled, it is the same pairs that are read (`pairs_of_spells`).
-/

namespace HttpExchange
namespace Form

/-- The octets that stand for themselves in no value: `#`, `%`, `&` and `+`. -/
def reserved : List UInt8 := [0x23, 0x25, 0x26, 0x2B]

/-- The octets that stand for themselves in no name: an equals sign ends one. -/
def reservedInName : List UInt8 := 0x3D :: reserved

/-- A spelling of octets, of which those in `special` do not stand for themselves. -/
inductive Spelled (special : List UInt8) : Bytes → Bytes → Prop
  | nil : Spelled special [] []
  | plain {octet : UInt8} {octets spelling : Bytes} (ordinary : octet ∉ special)
      (further : Spelled special octets spelling) :
      Spelled special (octet :: octets) (octet :: spelling)
  | space {octets spelling : Bytes} (further : Spelled special octets spelling) :
      Spelled special (0x20 :: octets) (0x2B :: spelling)
  | escape {high low : UInt8} {first second : Nat} {octets spelling : Bytes}
      (leading : Ascii.hexValue? high = some first) (trailing : Ascii.hexValue? low = some second)
      (further : Spelled special octets spelling) :
      Spelled special (UInt8.ofNat (first * 16 + second) :: octets)
        (0x25 :: high :: low :: spelling)

/-- A spelling of a pair.  The equals sign may be left out if the value is empty and the name is
not. -/
inductive SpelledPair : String × String → Bytes → Prop
  | whole {name value : String} {left right : Bytes}
      (named : Spelled reservedInName (Utf8.encode name) left)
      (valued : Spelled reserved (Utf8.encode value) right) :
      SpelledPair (name, value) (left ++ 0x3D :: right)
  | bare {name : String} {left : Bytes} (named : Spelled reservedInName (Utf8.encode name) left)
      (nonempty : left ≠ []) : SpelledPair (name, "") left

/-- A spelling of a list of pairs, with empty pieces anywhere. -/
inductive Spells : List (String × String) → Bytes → Prop
  | done : Spells [] []
  | empty {pairs : List (String × String)} {spelling : Bytes} (further : Spells pairs spelling) :
      Spells pairs (0x26 :: spelling)
  | last {pair : String × String} {piece : Bytes} (spelled : SpelledPair pair piece) :
      Spells [pair] piece
  | more {pair : String × String} {pairs : List (String × String)} {piece spelling : Bytes}
      (spelled : SpelledPair pair piece) (further : Spells pairs spelling) :
      Spells (pair :: pairs) (piece ++ 0x26 :: spelling)

/-! ### Names and values -/

theorem Spelled.of_plain {special : List UInt8} {octets : Bytes}
    (ordinary : ∀ octet ∈ octets, octet ∉ special) : Spelled special octets octets := by
  induction octets with
  | nil => exact .nil
  | cons octet octets ih =>
    obtain ⟨first, others⟩ := List.forall_mem_cons.1 ordinary
    exact .plain first (ih others)

theorem percentDecode_cons {octet : UInt8} (plain : octet ≠ 0x25) (rest : Bytes) :
    percentDecode (octet :: rest) = octet :: percentDecode rest := by
  match rest with
  | [] | [_] => rfl
  | _ :: _ :: _ => rw [percentDecode, if_neg plain]

theorem percentDecode_escape {high low : UInt8} {first second : Nat}
    (leading : Ascii.hexValue? high = some first) (trailing : Ascii.hexValue? low = some second)
    (rest : Bytes) : percentDecode (0x25 :: high :: low :: rest) =
      UInt8.ofNat (first * 16 + second) :: percentDecode rest := by
  rw [percentDecode, if_pos rfl, leading, trailing]

theorem plusToSpace_of_ne {octet : UInt8} (other : octet ≠ 0x2B) : plusToSpace octet = octet :=
  if_neg other

theorem ne_of_hexValue? {octet other : UInt8} {value : Nat}
    (known : Ascii.hexValue? octet = some value) (none : Ascii.hexValue? other = none) :
    octet ≠ other := by
  rintro rfl
  cases known.symm.trans none

section

variable {special : List UInt8} {octets spelling : Bytes}
  (spelled : Spelled special octets spelling)

include spelled

/-- What is spelled is read. -/
theorem percentDecode_of_spelled (escapes : 0x25 ∈ special) (spaces : 0x2B ∈ special) :
    percentDecode (spelling.map plusToSpace) = octets := by
  induction spelled with
  | nil => rfl
  | @plain octet octets spelling ordinary _ ih =>
    have here : octet ≠ 0x25 := fun same => ordinary (same ▸ escapes)
    have also : octet ≠ 0x2B := fun same => ordinary (same ▸ spaces)
    rw [List.map_cons, plusToSpace_of_ne also, percentDecode_cons here, ih]
  | space _ ih =>
    rw [List.map_cons, show plusToSpace 0x2B = 0x20 from rfl, percentDecode_cons (by decide), ih]
  | escape leading trailing _ ih =>
    rw [List.map_cons, List.map_cons, List.map_cons, plusToSpace_of_ne (by decide),
      plusToSpace_of_ne (ne_of_hexValue? leading rfl),
      plusToSpace_of_ne (ne_of_hexValue? trailing rfl), percentDecode_escape leading trailing, ih]

/-- An octet that does not stand for itself is in no spelling, unless escapes and spaces are written
with it. -/
theorem not_mem_of_spelled {octet : UInt8} (absent : octet ∈ special)
    (other : octet ≠ 0x25 ∧ octet ≠ 0x2B ∧ Ascii.hexValue? octet = none) : octet ∉ spelling := by
  induction spelled with
  | nil => exact List.not_mem_nil
  | plain ordinary _ ih =>
    exact List.not_mem_cons_of_ne_of_not_mem (fun same => ordinary (same ▸ absent)) ih
  | space _ ih => exact List.not_mem_cons_of_ne_of_not_mem other.2.1 ih
  | escape leading trailing _ ih =>
    refine List.not_mem_cons_of_ne_of_not_mem other.1 ?_
    refine List.not_mem_cons_of_ne_of_not_mem (ne_of_hexValue? leading other.2.2).symm ?_
    exact List.not_mem_cons_of_ne_of_not_mem (ne_of_hexValue? trailing other.2.2).symm ih

end

theorem component_of_spelled {special : List UInt8} {text : String} {spelling : Bytes}
    (spelled : Spelled special (Utf8.encode text) spelling) (escapes : 0x25 ∈ special)
    (spaces : 0x2B ∈ special) : component spelling = text := by
  rw [component, percentDecode_of_spelled spelled escapes spaces, Utf8.decodeLenient_encode]

/-! ### Pairs -/

/-- The octets before a separator and from it on. -/
theorem takeWhile_separator {front : Bytes} {separator : UInt8} (absent : separator ∉ front)
    (back : Bytes) :
    (front ++ separator :: back).takeWhile (· != separator) = front ∧
      (front ++ separator :: back).dropWhile (· != separator) = separator :: back := by
  have other : ∀ octet ∈ front, (octet != separator) = true := by
    intro octet member
    simpa using fun same : octet = separator => absent (same ▸ member)
  rw [List.takeWhile_append_of_pos other, List.dropWhile_append_of_pos other]
  simp

theorem takeWhile_of_not_mem {octets : Bytes} {separator : UInt8} (absent : separator ∉ octets) :
    octets.takeWhile (· != separator) = octets ∧ octets.dropWhile (· != separator) = [] := by
  have other : ∀ octet ∈ octets, (octet != separator) = true := by
    intro octet member
    simpa using fun same : octet = separator => absent (same ▸ member)
  exact ⟨List.takeWhile_eq_self_iff.2 other, List.dropWhile_eq_nil_iff.2 other⟩

theorem pair_of_spelledPair {known : String × String} {piece : Bytes}
    (spelled : SpelledPair known piece) : pair piece = known := by
  cases spelled with
  | whole named valued =>
    obtain ⟨before, after⟩ := takeWhile_separator
      (not_mem_of_spelled named (show 0x3D ∈ reservedInName by decide) (by decide)) _
    rw [pair, before, after, List.drop_one, List.tail_cons,
      component_of_spelled named (by decide) (by decide),
      component_of_spelled valued (by decide) (by decide)]
  | bare named =>
    obtain ⟨before, after⟩ := takeWhile_of_not_mem
      (not_mem_of_spelled named (show 0x3D ∈ reservedInName by decide) (by decide))
    rw [pair, before, after, component_of_spelled named (by decide) (by decide)]
    rfl

theorem ne_nil_of_spelledPair {pair : String × String} {piece : Bytes}
    (spelled : SpelledPair pair piece) : piece ≠ [] := by
  cases spelled with
  | whole => exact List.append_ne_nil_of_right_ne_nil _ (List.cons_ne_nil _ _)
  | bare _ nonempty => exact nonempty

/-- Neither what joins pairs nor what begins a fragment is in a spelling of a pair. -/
theorem not_mem_of_spelledPair {pair : String × String} {piece : Bytes}
    (spelled : SpelledPair pair piece) {octet : UInt8} (either : octet = 0x26 ∨ octet = 0x23) :
    octet ∉ piece := by
  have other : octet ≠ 0x25 ∧ octet ≠ 0x2B ∧ Ascii.hexValue? octet = none := by
    rcases either with rfl | rfl <;> decide
  have absent : octet ∈ reserved ∧ octet ∈ reservedInName ∧ octet ≠ 0x3D := by
    rcases either with rfl | rfl <;> decide
  cases spelled with
  | whole named valued =>
    refine List.not_mem_append (not_mem_of_spelled named absent.2.1 other) ?_
    exact List.not_mem_cons_of_ne_of_not_mem absent.2.2 (not_mem_of_spelled valued absent.1 other)
  | bare named => exact not_mem_of_spelled named absent.2.1 other

theorem not_mem_of_spells {list : List (String × String)} {spelling : Bytes}
    (spells : Spells list spelling) : 0x23 ∉ spelling := by
  induction spells with
  | done => exact List.not_mem_nil
  | empty _ ih => exact List.not_mem_cons_of_ne_of_not_mem (by decide) ih
  | last spelled => exact not_mem_of_spelledPair spelled (.inr rfl)
  | more spelled _ ih =>
    refine List.not_mem_append (not_mem_of_spelledPair spelled (.inr rfl)) ?_
    exact List.not_mem_cons_of_ne_of_not_mem (by decide) ih

theorem pieces_of_spelledPair {pair : String × String} {piece : Bytes}
    (spelled : SpelledPair pair piece) : ∀ octet ∈ piece, (octet == 0x26) = false := by
  intro octet member
  refine beq_false_of_ne ?_
  rintro rfl
  exact not_mem_of_spelledPair spelled (.inl rfl) member

/-- A spelling is read as what it spells. -/
theorem pairs_of_spells {list : List (String × String)} {spelling : Bytes}
    (spells : Spells list spelling) : pairs spelling = list := by
  induction spells with
  | done => rfl
  | @empty list spelling _ ih =>
    have split : pieces (· == 0x26) (0x26 :: spelling) = [] :: pieces (· == 0x26) spelling :=
      Pieces.pieces_append_cons _ (List.forall_mem_nil _) rfl spelling
    rw [pairs, split]
    exact ih
  | @last known piece spelled =>
    have one := Pieces.pieces_of_none (· == 0x26) piece (pieces_of_spelledPair spelled)
    have nonempty := ne_nil_of_spelledPair spelled
    simp [pairs, one, nonempty, pair_of_spelledPair spelled]
  | @more known list piece spelling spelled _ ih =>
    have split : pieces (· == 0x26) (piece ++ 0x26 :: spelling) =
        piece :: pieces (· == 0x26) spelling :=
      Pieces.pieces_append_cons _ (pieces_of_spelledPair spelled) rfl spelling
    have nonempty := ne_nil_of_spelledPair spelled
    rw [pairs] at ih
    simp [pairs, split, nonempty, pair_of_spelledPair spelled, ih]

end Form
end HttpExchange
