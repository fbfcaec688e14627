import HttpExchange.Json.Record
import HttpExchange.Json.Value
import HttpExchange.Url.Form

/-!
# The database of the mock server
-/

namespace HttpExchange

structure Store where
  /-- The entries, each key once. -/
  entries : List (String × Json.Value)

namespace Store

def empty : Store :=
  ⟨[]⟩

def get? (store : Store) (key : String) : Option Json.Value :=
  store.entries.lookup key

def put (store : Store) (key : String) (value : Json.Value) : Store :=
  ⟨(key, value) :: store.entries.filter fun entry => entry.1 != key⟩

@[simp]
theorem get?_empty (key : String) : empty.get? key = none := rfl

@[simp]
theorem get?_put (store : Store) (key : String) (value : Json.Value) :
    (store.put key value).get? key = some value := by
  simp [put, get?]

theorem lookup_filter_of_ne {key other : String} (different : other ≠ key)
    (entries : List (String × Json.Value)) :
    (entries.filter fun entry => entry.1 != key).lookup other = entries.lookup other := by
  induction entries with
  | nil => rfl
  | cons entry entries ih =>
    obtain ⟨name, stored⟩ := entry
    by_cases same : name = key
    · subst same
      have absent : (other == name) = false := by simpa using different
      simp [List.lookup_cons, ih, absent]
    · simp [same, List.lookup_cons, ih]

theorem get?_put_of_ne (store : Store) {key other : String} (value : Json.Value)
    (different : other ≠ key) : (store.put key value).get? other = store.get? other := by
  have absent : (other == key) = false := by simpa using different
  simp [put, get?, List.lookup_cons, absent, lookup_filter_of_ne different]

end Store

inductive Action where
  | put
  | get
  deriving DecidableEq

namespace Action

def table : List (String × Action) :=
  [("put", put), ("get", get)]

def parse (document : Bytes) : Except Json.Fault Action :=
  Json.Read.whole (fun _ => Json.Read.variant table Json.Read.maximalDepth) document

end Action

inductive QueryFault where
  | missingAction
  | duplicate (name : String)
  | unknownAction (name : String)
  deriving DecidableEq

def QueryFault.message : QueryFault → String
  | missingAction => "missing field `action`"
  | duplicate name => (Json.Cause.duplicateField name).message
  | unknownAction name =>
    "action: " ++ (Json.Cause.unknownVariant name (Action.table.map Prod.fst)).message

structure StoreQuery where
  action : Action
  key : Option String
  deriving DecidableEq

namespace StoreQuery

def defaultKey : String := "default"

def effectiveKey (query : StoreQuery) : String :=
  query.key.getD defaultKey

/-- Read the remaining pairs, the action and key before them being known. -/
def collect : (action : Option Action) → (key : Option String) → List (String × String) →
    Except QueryFault StoreQuery
  | none, _, [] => .error .missingAction
  | some action, key, [] => .ok ⟨action, key⟩
  | action, key, (name, value) :: pairs =>
    if name = "action" then
      if action.isSome then .error (.duplicate name)
      else
        match Action.table.lookup value with
        | some action => collect (some action) key pairs
        | none => .error (.unknownAction value)
    else if name = "key" then
      if key.isSome then .error (.duplicate name) else collect action (some value) pairs
    else collect action key pairs

/-- The query that the pairs describe.  Pairs of other names are ignored. -/
def ofPairs (pairs : List (String × String)) : Except QueryFault StoreQuery :=
  collect none none pairs

def parse (query : Bytes) : Except QueryFault StoreQuery :=
  ofPairs (Form.pairs query)

end StoreQuery

structure PutBody where
  value : Json.Value

namespace PutBody

/-- The fields of the JSON form; an absent value is `null`. -/
def fields (fuel : Nat) : List (Json.Read.Field PutBody) :=
  [{ name := "value"
     read := fun _ input => do
      let (value, rest) ← Json.Read.value fuel (Json.Read.maximalDepth - 1) input
      .ok (⟨value⟩, rest) }]

def parse (document : Bytes) : Except Json.Fault PutBody :=
  Json.Read.whole
    (fun fuel => Json.Read.record "struct PutEntry" (fields fuel) ⟨.null⟩ fuel) document

end PutBody

end HttpExchange
