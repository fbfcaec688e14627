import HttpExchange.Text.Ascii
import Mathlib.Data.List.Forall2

/-!
# Names up to the case of letters
-/

namespace HttpExchange
namespace Ascii

/-- The second character is the lower case of the first, a letter `A` to `Z`. -/
def Lowers (capital small : Char) : Prop :=
  'A'.toNat ≤ capital.toNat ∧ capital.toNat ≤ 'Z'.toNat ∧ small.toNat = capital.toNat + 32

/-- Two names differ at most in the case of letters `A` to `Z`. -/
def SameButCase (left right : String) : Prop :=
  List.Forall₂ (fun first second => first = second ∨ Lowers first second ∨ Lowers second first)
    left.toList right.toList

theorem toNat_toLower (char : Char) : char.toLower.toNat =
    if 'A'.toNat ≤ char.toNat ∧ char.toNat ≤ 'Z'.toNat then char.toNat + 32 else char.toNat := by
  unfold Char.toLower
  split
  · rename_i capital
    obtain ⟨least, most⟩ := capital
    rw [ge_iff_le, UInt32.le_iff_toNat_le] at least
    rw [UInt32.le_iff_toNat_le] at most
    rw [if_pos ⟨least, most⟩]
    change (char.val + ('a'.val - 'A'.val)).toNat = char.val.toNat + 32
    rw [UInt32.toNat_add, show ('a'.val - 'A'.val).toNat = 32 from rfl]
    change char.val.toNat ≤ 90 at most
    omega
  · rename_i other
    rw [ge_iff_le, UInt32.le_iff_toNat_le, UInt32.le_iff_toNat_le] at other
    exact (if_neg other).symm

theorem toLower_eq_toLower_iff (first second : Char) : first.toLower = second.toLower ↔
    first = second ∨ Lowers first second ∨ Lowers second first := by
  have same (left right : Char) : left = right ↔ left.toNat = right.toNat :=
    Char.toNat_inj.symm
  rw [same, same, toNat_toLower, toNat_toLower, Lowers, Lowers,
    show 'A'.toNat = 65 from rfl, show 'Z'.toNat = 90 from rfl]
  split <;> split <;> omega

theorem toNat_toUpper (char : Char) : char.toUpper.toNat =
    if 'a'.toNat ≤ char.toNat ∧ char.toNat ≤ 'z'.toNat then char.toNat - 32 else char.toNat := by
  unfold Char.toUpper
  split
  · rename_i small
    obtain ⟨least, most⟩ := small
    rw [UInt32.le_iff_toNat_le] at least
    rw [UInt32.le_iff_toNat_le] at most
    rw [if_pos ⟨least, most⟩]
    change (char.val + ('A'.val - 'a'.val)).toNat = char.val.toNat - 32
    rw [UInt32.toNat_add, show ('A'.val - 'a'.val).toNat = 4294967264 from rfl]
    change 97 ≤ char.val.toNat at least
    change char.val.toNat ≤ 122 at most
    omega
  · rename_i other
    rw [UInt32.le_iff_toNat_le, UInt32.le_iff_toNat_le] at other
    exact (if_neg other).symm

theorem toUpper_eq_toUpper_iff (first second : Char) : first.toUpper = second.toUpper ↔
    first = second ∨ Lowers first second ∨ Lowers second first := by
  have same (left right : Char) : left = right ↔ left.toNat = right.toNat :=
    Char.toNat_inj.symm
  rw [same, same, toNat_toUpper, toNat_toUpper, Lowers, Lowers,
    show 'A'.toNat = 65 from rfl, show 'Z'.toNat = 90 from rfl, show 'a'.toNat = 97 from rfl,
    show 'z'.toNat = 122 from rfl]
  split <;> split <;> omega

theorem map_eq_map_iff (change : Char → Char) (left right : String) :
    left.map change = right.map change ↔
      List.Forall₂ (fun first second => change first = change second) left.toList right.toList := by
  rw [← String.toList_inj, String.toList_map, String.toList_map, ← List.forall₂_eq_eq_eq,
    List.forall₂_map_left_iff, List.forall₂_map_right_iff]

theorem sameName_iff (left right : String) :
    sameName left right = true ↔ SameButCase left right := by
  rw [sameName, beq_iff_eq, lower, lower, map_eq_map_iff, SameButCase]
  simp only [toLower_eq_toLower_iff]

theorem upper_eq_upper_iff (left right : String) :
    upper left = upper right ↔ SameButCase left right := by
  rw [upper, upper, map_eq_map_iff, SameButCase]
  simp only [toUpper_eq_toUpper_iff]

end Ascii
end HttpExchange
