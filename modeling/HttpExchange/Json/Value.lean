import HttpExchange.Json.Binary64

/-!
# JSON values
-/

namespace HttpExchange
namespace Json

/-- An integer from `-2 ^ 63` to `2 ^ 64 - 1`. -/
structure Integer where
  value : Int
  lower : -9223372036854775808 ≤ value
  upper : value < 18446744073709551616
  deriving DecidableEq, Repr

inductive Number where
  /-- A number written without fraction and exponent. -/
  | integer (n : Integer)
  | real (x : Binary64)
  deriving DecidableEq, Repr

inductive Value where
  | null
  | bool (b : Bool)
  | number (n : Number)
  | string (text : String)
  | array (elements : List Value)
  | object (members : List (String × Value))
  deriving Inhabited

namespace Value

mutual

/-- Equality of values, decided by comparing them part by part. -/
def decideEq : (left right : Value) → Decidable (left = right)
  | null, right => match right with
    | null => .isTrue rfl
    | bool _ | number _ | string _ | array _ | object _ => .isFalse nofun
  | bool b, right => match right with
    | bool b' => if h : b = b' then .isTrue (h ▸ rfl) else .isFalse fun e => h (bool.inj e)
    | null | number _ | string _ | array _ | object _ => .isFalse nofun
  | number n, right => match right with
    | number n' => if h : n = n' then .isTrue (h ▸ rfl) else .isFalse fun e => h (number.inj e)
    | null | bool _ | string _ | array _ | object _ => .isFalse nofun
  | string s, right => match right with
    | string s' => if h : s = s' then .isTrue (h ▸ rfl) else .isFalse fun e => h (string.inj e)
    | null | bool _ | number _ | array _ | object _ => .isFalse nofun
  | array xs, right => match right with
    | array xs' => match decideEqElements xs xs' with
      | .isTrue h => .isTrue (h ▸ rfl)
      | .isFalse h => .isFalse fun e => h (array.inj e)
    | null | bool _ | number _ | string _ | object _ => .isFalse nofun
  | object ms, right => match right with
    | object ms' => match decideEqMembers ms ms' with
      | .isTrue h => .isTrue (h ▸ rfl)
      | .isFalse h => .isFalse fun e => h (object.inj e)
    | null | bool _ | number _ | string _ | array _ => .isFalse nofun

def decideEqElements : (left right : List Value) → Decidable (left = right)
  | [], [] => .isTrue rfl
  | [], _ :: _ => .isFalse nofun
  | _ :: _, [] => .isFalse nofun
  | x :: xs, y :: ys => match decideEq x y with
    | .isFalse h => .isFalse fun e => h (List.cons.inj e).1
    | .isTrue h => match decideEqElements xs ys with
      | .isFalse h' => .isFalse fun e => h' (List.cons.inj e).2
      | .isTrue h' => .isTrue (h ▸ h' ▸ rfl)

def decideEqMembers : (left right : List (String × Value)) → Decidable (left = right)
  | [], [] => .isTrue rfl
  | [], _ :: _ => .isFalse nofun
  | _ :: _, [] => .isFalse nofun
  | (name, x) :: ms, (name', y) :: ms' =>
    if same : name = name' then
      match decideEq x y with
      | .isFalse h => .isFalse fun e => h (Prod.mk.inj (List.cons.inj e).1).2
      | .isTrue h => match decideEqMembers ms ms' with
        | .isFalse h' => .isFalse fun e => h' (List.cons.inj e).2
        | .isTrue h' => .isTrue (same ▸ h ▸ h' ▸ rfl)
    else .isFalse fun e => same (Prod.mk.inj (List.cons.inj e).1).1

end

instance : DecidableEq Value := decideEq

mutual

/-- The members of every object are in strictly increasing order of their names. -/
def Canonical : Value → Prop
  | null | bool _ | number _ | string _ => True
  | array elements => CanonicalElements elements
  | object members => (members.map Prod.fst).Pairwise (· < ·) ∧ CanonicalMembers members

def CanonicalElements : List Value → Prop
  | [] => True
  | element :: elements => Canonical element ∧ CanonicalElements elements

def CanonicalMembers : List (String × Value) → Prop
  | [] => True
  | (_, value) :: members => Canonical value ∧ CanonicalMembers members

end

mutual

/-- The number of arrays and objects around the innermost value, at most. -/
def depth : Value → Nat
  | null | bool _ | number _ | string _ => 0
  | array elements => depthElements elements + 1
  | object members => depthMembers members + 1

def depthElements : List Value → Nat
  | [] => 0
  | element :: elements => max (depth element) (depthElements elements)

def depthMembers : List (String × Value) → Nat
  | [] => 0
  | (_, value) :: members => max (depth value) (depthMembers members)

end

/-- Put an entry in front, unless the first entry already has its name. -/
def precede (entry : String × Value) : List (String × Value) → List (String × Value)
  | [] => [entry]
  | next :: entries => if entry.1 = next.1 then next :: entries else entry :: next :: entries

/-- Of several entries with one name that stand together, keep the last. -/
def keepLast (entries : List (String × Value)) : List (String × Value) :=
  entries.foldr precede []

/-- The object with the given entries: sorted by name, the last entry of a name winning. -/
def ofEntries (entries : List (String × Value)) : Value :=
  object (keepLast (entries.mergeSort fun left right => decide (left.1 ≤ right.1)))

def member? (name : String) : Value → Option Value
  | object members => members.lookup name
  | null | bool _ | number _ | string _ | array _ => none

/-- A natural number, reduced to 64 bits. -/
def natural (n : Nat) : Value :=
  number (.integer ⟨(n % 18446744073709551616 : Nat), by omega, by omega⟩)

end Value
end Json
end HttpExchange
