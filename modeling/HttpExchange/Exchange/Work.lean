import HttpExchange.Exchange.Run

/-!
# The work that is left

Every part of an exchange weighs as much as a bound on the steps to which it can still lead.
-/

namespace HttpExchange

/-- The sum of a measure over a list. -/
def total {α : Type} (measure : α → Nat) : List α → Nat
  | [] => 0
  | item :: items => measure item + total measure items

namespace Total

variable {α : Type} (measure : α → Nat)

@[simp]
theorem total_nil : total measure [] = 0 := rfl

@[simp]
theorem total_cons (item : α) (items : List α) :
    total measure (item :: items) = measure item + total measure items := rfl

@[simp]
theorem total_append (front back : List α) :
    total measure (front ++ back) = total measure front + total measure back := by
  induction front with
  | nil => rw [List.nil_append, total_nil, Nat.zero_add]
  | cons item front ih => rw [List.cons_append, total_cons, total_cons, ih, Nat.add_assoc]

/-- Changing one item exchanges its measure for the measure of what it becomes. -/
theorem total_modify (change : α → α) (items : List α) (index : Nat) {item : α}
    (found : items[index]? = some item) :
    total measure (items.modify index change) + measure item =
      total measure items + measure (change item) := by
  induction items generalizing index with
  | nil => simp at found
  | cons first items ih =>
    cases index with
    | zero =>
      obtain rfl : first = item := by simpa using found
      rw [List.modify_zero_cons, total_cons, total_cons]
      omega
    | succ index =>
      have := ih index (by simpa using found)
      rw [List.modify_succ_cons, total_cons, total_cons]
      omega

/-- A change that keeps the measure of every item keeps the total. -/
theorem total_modify_of_eq (change : α → α) (items : List α) (index : Nat)
    (same : ∀ item, measure (change item) = measure item) :
    total measure (items.modify index change) = total measure items := by
  induction items generalizing index with
  | nil => rw [List.modify_nil]
  | cons first items ih =>
    cases index with
    | zero => rw [List.modify_zero_cons, total_cons, total_cons, same]
    | succ index => rw [List.modify_succ_cons, total_cons, total_cons, ih]

/-- What a test selects and what it leaves add up to the whole. -/
theorem total_filter_add_total_filter_not (test : α → Bool) (items : List α) :
    total measure (items.filter test) + total measure (items.filter fun item => !test item) =
      total measure items := by
  induction items with
  | nil => rfl
  | cons item items ih =>
    cases selected : test item
    · rw [List.filter_cons_of_neg (by simp [selected]),
        List.filter_cons_of_pos (by simp [selected]), total_cons, total_cons]
      omega
    · rw [List.filter_cons_of_pos (by simp [selected]),
        List.filter_cons_of_neg (by simp [selected]), total_cons, total_cons]
      omega

/-- Items of one measure count alike. -/
theorem total_map_of_eq {β : Type} (item : β → α) {weight : Nat}
    (same : ∀ part, measure (item part) = weight) (parts : List β) :
    total measure (parts.map item) = weight * parts.length := by
  induction parts with
  | nil => rfl
  | cons part parts ih =>
    rw [List.map_cons, total_cons, same, ih, List.length_cons, Nat.mul_succ, Nat.add_comm]

end Total

def stepWork : Nat := 9

/-- The weight of a unit of an allowance, which may be the last. -/
def unitWork : Nat := 5

def Wait.work : Wait → Nat
  | clock _ => unitWork
  | turn | forever => 0

/-- What a deadline leads to: its timer goes off, and the exchange runs. -/
def Deadline.work (deadline : Option Deadline) : Nat :=
  if deadline.all (·.isSet) then 0 else 2

/-- What looking out for progress leads to: that no more will come. -/
def Attention.work : Attention → Nat
  | away | listening => unitWork
  | gone => 0

def Phase.work (plan : Plan) : Phase → Nat
  | fresh => stepWork * plan.script.length + 2
  | waiting transport deadline =>
    stepWork * transport.script.length + transport.wait.work + Deadline.work deadline
  | ended => 0

/-- What an exchange can still ask of its surroundings. -/
def Exchange.work (exchange : Exchange) : Nat :=
  match exchange.phase with
  | .ended => 0
  | .fresh | .waiting .. =>
    exchange.phase.work exchange.plan + unitWork * exchange.ticks.length + exchange.attention.work

end HttpExchange
