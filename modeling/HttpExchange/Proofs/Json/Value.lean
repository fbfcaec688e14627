import HttpExchange.Json.Value

/-!
# The objects that entries make
-/

namespace HttpExchange
namespace Json
namespace Value

theorem canonicalElements_iff (elements : List Value) :
    CanonicalElements elements ↔ ∀ element ∈ elements, Canonical element := by
  induction elements with
  | nil => simp [CanonicalElements]
  | cons element elements ih => rw [CanonicalElements, ih, List.forall_mem_cons]

theorem canonicalMembers_iff (members : List (String × Value)) :
    CanonicalMembers members ↔ ∀ member ∈ members, Canonical member.2 := by
  induction members with
  | nil => simp [CanonicalMembers]
  | cons member members ih => rw [CanonicalMembers, ih, List.forall_mem_cons]

theorem depthElements_le_iff (elements : List Value) (bound : Nat) :
    depthElements elements ≤ bound ↔ ∀ element ∈ elements, depth element ≤ bound := by
  induction elements with
  | nil => simp [depthElements]
  | cons element elements ih => rw [depthElements, Nat.max_le, ih, List.forall_mem_cons]

theorem depthMembers_le_iff (members : List (String × Value)) (bound : Nat) :
    depthMembers members ≤ bound ↔ ∀ member ∈ members, depth member.2 ≤ bound := by
  induction members with
  | nil => simp [depthMembers]
  | cons member members ih => rw [depthMembers, Nat.max_le, ih, List.forall_mem_cons]

/-! ### Entries in order -/

/-- The entries are in strictly increasing order of their names. -/
def Sorted (entries : List (String × Value)) : Prop :=
  (entries.map Prod.fst).Pairwise (· < ·)

theorem sorted_cons {entry : String × Value} {entries : List (String × Value)} :
    Sorted (entry :: entries) ↔ (∀ other ∈ entries, entry.1 < other.1) ∧ Sorted entries := by
  simp [Sorted]

/-- The names of entries are in increasing order. -/
def Ordered (entries : List (String × Value)) : Prop :=
  entries.Pairwise fun left right => left.1 ≤ right.1

theorem mem_of_mem_precede {entry other : String × Value} {entries : List (String × Value)}
    (member : other ∈ precede entry entries) : other = entry ∨ other ∈ entries := by
  cases entries with
  | nil => simpa [precede] using member
  | cons next entries =>
    rw [precede] at member
    split at member
    · exact .inr member
    · exact List.mem_cons.1 member

theorem mem_of_mem_keepLast {other : String × Value} {entries : List (String × Value)}
    (member : other ∈ keepLast entries) : other ∈ entries := by
  induction entries with
  | nil => exact member
  | cons entry entries ih =>
    rcases mem_of_mem_precede member with rfl | later
    · exact List.mem_cons_self
    · exact List.mem_cons_of_mem _ (ih later)

theorem sorted_precede {entry : String × Value} {entries : List (String × Value)}
    (sorted : Sorted entries) (least : ∀ other ∈ entries, entry.1 ≤ other.1) :
    Sorted (precede entry entries) := by
  cases entries with
  | nil => simp [precede, Sorted]
  | cons next entries =>
    obtain ⟨first, -⟩ := sorted_cons.1 sorted
    have here := least next List.mem_cons_self
    rw [precede]
    split
    · exact sorted
    · rename_i different
      have before : entry.1 < next.1 := Std.lt_of_le_of_ne here different
      refine sorted_cons.2 ⟨List.forall_mem_cons.2 ⟨before, fun other later => ?_⟩, sorted⟩
      exact Std.lt_trans before (first other later)

theorem sorted_keepLast {entries : List (String × Value)} (ordered : Ordered entries) :
    Sorted (keepLast entries) := by
  induction entries with
  | nil => exact List.Pairwise.nil
  | cons entry entries ih =>
    obtain ⟨least, ordered⟩ := List.pairwise_cons.1 ordered
    exact sorted_precede (ih ordered) fun other member => least other (mem_of_mem_keepLast member)

theorem keepLast_of_sorted {entries : List (String × Value)} (sorted : Sorted entries) :
    keepLast entries = entries := by
  induction entries with
  | nil => rfl
  | cons entry entries ih =>
    obtain ⟨first, rest⟩ := sorted_cons.1 sorted
    rw [keepLast, List.foldr_cons]
    change precede entry (keepLast entries) = _
    rw [ih rest]
    cases entries with
    | nil => rfl
    | cons next entries =>
      rw [precede, if_neg (Std.ne_of_lt (first next List.mem_cons_self))]

theorem ordered_mergeSort (entries : List (String × Value)) :
    Ordered (entries.mergeSort fun left right => decide (left.1 ≤ right.1)) := by
  refine (List.pairwise_mergeSort ?_ ?_ entries).imp fun before => of_decide_eq_true before
  · intro first second third before after
    simp only [decide_eq_true_eq] at *
    exact String.le_trans before after
  · intro left right
    simpa using String.le_total left.1 right.1

/-- Sorted entries make up their object as they are. -/
theorem ofEntries_of_sorted {entries : List (String × Value)} (sorted : Sorted entries) :
    ofEntries entries = object entries := by
  have ordered : entries.Pairwise fun left right => decide (left.1 ≤ right.1) = true := by
    refine (List.pairwise_map.1 sorted).imp fun before => ?_
    simpa using Std.le_of_lt before
  rw [ofEntries, List.mergeSort_of_pairwise ordered, keepLast_of_sorted sorted]

/-- The members of an object are entries of it, in the order of their names. -/
theorem exists_ofEntries (entries : List (String × Value)) : ∃ members,
    ofEntries entries = object members ∧ Sorted members ∧ ∀ member ∈ members, member ∈ entries :=
  ⟨_, rfl, sorted_keepLast (ordered_mergeSort entries), fun _ member =>
    List.mem_mergeSort.1 (mem_of_mem_keepLast member)⟩

theorem canonical_ofEntries {entries : List (String × Value)}
    (canonical : ∀ entry ∈ entries, Canonical entry.2) : Canonical (ofEntries entries) := by
  obtain ⟨members, same, sorted, entered⟩ := exists_ofEntries entries
  rw [same, Canonical, canonicalMembers_iff]
  exact ⟨sorted, fun member present => canonical member (entered member present)⟩

theorem depth_ofEntries_le {entries : List (String × Value)} {bound : Nat}
    (shallow : ∀ entry ∈ entries, depth entry.2 ≤ bound) :
    depth (ofEntries entries) ≤ bound + 1 := by
  obtain ⟨members, same, -, entered⟩ := exists_ofEntries entries
  rw [same, depth, Nat.succ_le_succ_iff, depthMembers_le_iff]
  exact fun member present => shallow member (entered member present)

end Value
end Json
end HttpExchange
