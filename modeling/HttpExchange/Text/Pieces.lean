/-!
# Pieces between separators
-/

namespace HttpExchange

/-- Put an item in front of the first piece, or begin a new piece at a separator. -/
def Pieces.push {α : Type} (separator : α → Bool) (item : α) : List (List α) → List (List α)
  | [] => if separator item then [[], []] else [[item]]
  | piece :: pieces =>
    if separator item then [] :: piece :: pieces else (item :: piece) :: pieces

/-- The pieces between separators. -/
def pieces {α : Type} (separator : α → Bool) (items : List α) : List (List α) :=
  items.foldr (Pieces.push separator) [[]]

namespace Pieces

@[simp]
theorem pieces_nil {α : Type} (separator : α → Bool) : pieces separator [] = [[]] := rfl

theorem pieces_cons {α : Type} (separator : α → Bool) (item : α) (items : List α) :
    pieces separator (item :: items) = push separator item (pieces separator items) := rfl

theorem pieces_ne_nil {α : Type} (separator : α → Bool) (items : List α) :
    pieces separator items ≠ [] := by
  cases items with
  | nil => simp
  | cons item items =>
    rw [pieces_cons]
    simp only [push]
    split <;> split <;> simp

/-- What has no separator is one piece. -/
theorem pieces_of_none {α : Type} (separator : α → Bool) (items : List α)
    (none : ∀ item ∈ items, separator item = false) : pieces separator items = [items] := by
  induction items with
  | nil => rfl
  | cons item items ih =>
    rw [pieces_cons, ih fun other present => none other (List.mem_cons_of_mem item present)]
    simp [push, none item List.mem_cons_self]

/-- What has no separator is the first piece if a separator follows it. -/
theorem pieces_append_cons {α : Type} (separator : α → Bool) {front : List α}
    (none : ∀ item ∈ front, separator item = false) {item : α} (separates : separator item = true)
    (back : List α) :
    pieces separator (front ++ item :: back) = front :: pieces separator back := by
  induction front with
  | nil =>
    obtain ⟨piece, others, same⟩ := List.exists_cons_of_ne_nil (pieces_ne_nil separator back)
    rw [List.nil_append, pieces_cons, same]
    simp [push, separates]
  | cons first front ih =>
    obtain ⟨whole, further⟩ := List.forall_mem_cons.1 none
    rw [List.cons_append, pieces_cons, ih further]
    simp [push, whole]

end Pieces
end HttpExchange
