import HttpExchange.Http.Message
import HttpExchange.Proofs.Text.Ascii

/-!
# Methods and their names
-/

namespace HttpExchange
namespace Method

theorem upper_name : ∀ method ∈ standard, Ascii.upper method.name = method.name := by
  have letters : ∀ method ∈ standard, method.name.toList.map Char.toUpper = method.name.toList := by
    decide
  intro method member
  rw [Ascii.upper, ← String.toList_inj, String.toList_map, letters method member]

theorem name_inj_of_standard : ∀ first ∈ standard, ∀ second ∈ standard,
    first.name = second.name → first = second := by
  decide

theorem other_notMem_standard (name : String) : other name ∉ standard := by
  simp [standard]

theorem upper_eq_name_iff {method : Method} (member : method ∈ standard) (name : String) :
    Ascii.upper name = method.name ↔ Ascii.SameButCase name method.name := by
  rw [← upper_name method member, Ascii.upper_eq_upper_iff, upper_name method member]

/-- The method of a name is a standard one whose name it is, or one of its own. -/
theorem ofName_cases (name : String) :
    (∃ method ∈ standard, Ascii.SameButCase name method.name ∧ ofName name = method) ∨
      (∀ method ∈ standard, ¬ Ascii.SameButCase name method.name) ∧ ofName name = other name := by
  rw [ofName]
  cases found : standard.find? fun method => method.name == Ascii.upper name with
  | none =>
    refine .inr ⟨fun method member same => ?_, rfl⟩
    have differs := List.find?_eq_none.1 found method member
    rw [(upper_eq_name_iff member name).2 same] at differs
    exact differs (beq_self_eq_true _)
  | some method =>
    have member := List.mem_of_find?_eq_some found
    have same := List.find?_some found
    exact .inl ⟨method, member, (upper_eq_name_iff member name).1 (beq_iff_eq.1 same).symm, rfl⟩

/-- A name means a standard method exactly if it is its name up to the case of letters. -/
theorem ofName_eq_iff {method : Method} (member : method ∈ standard) (name : String) :
    ofName name = method ↔ Ascii.SameButCase name method.name := by
  rcases ofName_cases name with ⟨found, also, same, meant⟩ | ⟨different, meant⟩
  · rw [meant]
    refine ⟨fun own => own ▸ same, fun named => name_inj_of_standard _ also _ member ?_⟩
    rw [← (upper_eq_name_iff also name).2 same, (upper_eq_name_iff member name).2 named]
  · rw [meant]
    exact ⟨fun own => absurd (own ▸ member) (other_notMem_standard name),
      fun named => absurd named (different method member)⟩

theorem ofName_name : ∀ method ∈ standard, ofName method.name = method := by
  intro method member
  rw [ofName_eq_iff member, ← upper_eq_name_iff member, upper_name method member]

/-- A method that is made from a name is made from its own name again. -/
theorem ofName_name_ofName (name : String) : ofName (ofName name).name = ofName name := by
  rcases ofName_cases name with ⟨method, member, -, meant⟩ | ⟨-, meant⟩
  · rw [meant, ofName_name method member]
  · rw [meant]
    exact meant

end Method
end HttpExchange
