import HttpExchange.Proofs.Server.History
import HttpExchange.Proofs.Url.Form
import Mathlib.Data.List.Perm.Basic

/-!
# Queries that are accepted

A query is accepted exactly when its pairs name one action, which is a known one, and at most one
key.
-/

namespace HttpExchange

/-- The name of an action. -/
def Action.name : Action → String
  | put => "put"
  | get => "get"

theorem Action.lookup_table_eq_some_iff {name : String} {action : Action} :
    table.lookup name = some action ↔ name = action.name := by
  cases action <;> grind [table, Action.name]

theorem Action.name_inj {first second : Action} : first.name = second.name ↔ first = second := by
  cases first <;> cases second <;> simp [name]

namespace Form

/-- The values of the pairs that have a name. -/
def valuesOf (name : String) (pairs : List (String × String)) : List String :=
  (pairs.filter (·.1 = name)).map Prod.snd

theorem valuesOf_cons (name : String) (pair : String × String) (pairs : List (String × String)) :
    valuesOf name (pair :: pairs) =
      if pair.1 = name then pair.2 :: valuesOf name pairs else valuesOf name pairs := by
  by_cases same : pair.1 = name <;> simp [valuesOf, same]

/-- Of pairs that are the same apart from their order and from pairs of other names, the values have
the same number, and are the same if there is at most one. -/
theorem valuesOf_perm {names : List String} {pairs others : List (String × String)}
    (same : (others.filter (·.1 ∈ names)).Perm (pairs.filter (·.1 ∈ names))) {name : String}
    (counts : name ∈ names) : (valuesOf name others).Perm (valuesOf name pairs) := by
  have among : ∀ list : List (String × String),
      (list.filter (·.1 ∈ names)).filter (·.1 = name) = list.filter (·.1 = name) := by
    intro list
    rw [List.filter_filter]
    refine List.filter_congr fun pair _ => ?_
    by_cases own : pair.1 = name <;> simp [own, counts]
  have both := same.filter (·.1 = name)
  rw [among, among] at both
  exact both.map Prod.snd

end Form

namespace StoreQuery

open Form

/-- The pairs name the action and the key of a query, and no others. -/
structure Describes (pairs : List (String × String)) (query : StoreQuery) : Prop where
  /-- One pair names the action. -/
  action : valuesOf "action" pairs = [query.action.name]
  /-- One pair names the key if there is one, and none does if there is not. -/
  key : valuesOf "key" pairs = query.key.toList

/-- What was read of some pairs and what is still to be read describe the query. -/
theorem collect_eq_ok_iff {action : Option Action} {key : Option String}
    {pairs : List (String × String)} {query : StoreQuery} :
    collect action key pairs = .ok query ↔
      action.toList.map Action.name ++ valuesOf "action" pairs = [query.action.name] ∧
        key.toList ++ valuesOf "key" pairs = query.key.toList := by
  fun_induction collect action key pairs with
  | case1 => simp [valuesOf]
  | case2 action key =>
    obtain ⟨asked, named⟩ := query
    cases key <;> cases named <;> simp [valuesOf, Action.name_inj]
  | case3 action key value pairs known =>
    obtain ⟨action, rfl⟩ := Option.isSome_iff_exists.1 known
    simp [valuesOf_cons]
  | case4 action key value pairs unknown named found ih =>
    obtain rfl : action = none := by simpa using unknown
    rw [ih, Action.lookup_table_eq_some_iff.1 found]
    simp [valuesOf_cons]
  | case5 action key value pairs unknown found =>
    obtain rfl : action = none := by simpa using unknown
    simp only [valuesOf_cons, if_true, reduceCtorEq, false_iff, not_and]
    intro same
    obtain rfl : value = query.action.name := (List.cons.inj same).1
    rw [Action.lookup_table_eq_some_iff.2 rfl] at found
    cases found
  | case6 action key value pairs known =>
    obtain ⟨key, rfl⟩ := Option.isSome_iff_exists.1 known
    cases query.key <;> simp [valuesOf_cons]
  | case7 action key value pairs unknown _ ih =>
    obtain rfl : key = none := by simpa using unknown
    rw [ih]
    simp [valuesOf_cons]
  | case8 action key name value pairs other also ih =>
    rw [ih]
    simp [valuesOf_cons, other, also]

/-- A query is made of pairs exactly if they describe it. -/
theorem ofPairs_eq_ok_iff {pairs : List (String × String)} {query : StoreQuery} :
    ofPairs pairs = .ok query ↔ Describes pairs query := by
  rw [ofPairs, collect_eq_ok_iff]
  exact ⟨fun ⟨action, key⟩ => ⟨action, key⟩, fun ⟨action, key⟩ => ⟨action, key⟩⟩

/-- Some query is described if one pair names a known action and at most one pair a key. -/
theorem exists_describes_iff {pairs : List (String × String)} :
    (∃ query, Describes pairs query) ↔
      (valuesOf "action" pairs = ["put"] ∨ valuesOf "action" pairs = ["get"]) ∧
        (valuesOf "key" pairs).length ≤ 1 := by
  constructor
  · rintro ⟨⟨action, key⟩, asks, names⟩
    constructor
    · cases action with
      | put => exact .inl asks
      | get => exact .inr asks
    · rw [names]
      exact Option.length_toList_le
  · rintro ⟨asks, few⟩
    obtain ⟨action, asks⟩ : ∃ action : Action, valuesOf "action" pairs = [action.name] :=
      asks.elim (⟨.put, ·⟩) (⟨.get, ·⟩)
    match keys : valuesOf "key" pairs with
    | [] => exact ⟨⟨action, none⟩, asks, keys⟩
    | [key] => exact ⟨⟨action, some key⟩, asks, keys⟩
    | _ :: _ :: _ =>
      rw [keys] at few
      exact absurd few (by simp)

/-- Neither the order of the pairs nor pairs of other names count. -/
theorem Describes.perm {pairs others : List (String × String)} {query : StoreQuery}
    (same : (others.filter (·.1 ∈ ["action", "key"])).Perm
      (pairs.filter (·.1 ∈ ["action", "key"])))
    (describes : Describes pairs query) : Describes others query := by
  have actions := valuesOf_perm same (show "action" ∈ ["action", "key"] by decide)
  have keys := valuesOf_perm same (show "key" ∈ ["action", "key"] by decide)
  rw [describes.action] at actions
  rw [describes.key] at keys
  refine ⟨List.perm_singleton.1 actions, ?_⟩
  cases key : query.key with
  | none =>
    rw [key] at keys
    exact List.perm_nil.1 keys
  | some key =>
    rw [‹query.key = _›] at keys
    exact List.perm_singleton.1 keys

end StoreQuery

/-! ### Targets -/

/-- A fragment may follow a target. -/
inductive Target.Fragment : Bytes → Prop
  | absent : Fragment []
  | present (fragment : Bytes) : Fragment (0x23 :: fragment)

/-- The target of a database request whose query spells the pairs.  A target without a query spells
none. -/
inductive Target.Asks : List (String × String) → Bytes → Prop
  | query {pairs : List (String × String)} {spelling fragment : Bytes}
      (spells : Form.Spells pairs spelling) (ends : Fragment fragment) :
      Asks pairs (Utf8.encode "/database" ++ 0x3F :: (spelling ++ fragment))
  | noQuery {fragment : Bytes} (ends : Fragment fragment) :
      Asks [] (Utf8.encode "/database" ++ fragment)

namespace Target

theorem takeWhile_fragment {front fragment : Bytes} (absent : 0x23 ∉ front)
    (ends : Fragment fragment) : (front ++ fragment).takeWhile (· != 0x23) = front := by
  cases ends with
  | absent => rw [List.append_nil, (Form.takeWhile_of_not_mem absent).1]
  | present fragment => exact (Form.takeWhile_separator absent fragment).1

theorem encode_database :
    Utf8.encode "/database" = 0x2F :: Utf8.encode "database" ∧ 0x23 ∉ Utf8.encode "/database" ∧
      0x3F ∉ Utf8.encode "/database" ∧
      Route.ofPath? (Utf8.encode "/database") = some .database := by
  decide +kernel

/-- The target of a database request leads to the database, with the pairs that it spells. -/
theorem parse_of_asks {pairs : List (String × String)} {target : Bytes}
    (asks : Asks pairs target) :
    (parse target).path = Utf8.encode "/database" ∧ Form.pairs (parse target).query = pairs := by
  obtain ⟨slash, unended, unquestioned, -⟩ := encode_database
  have relative : ∀ rest, afterScheme? (Utf8.encode "/database" ++ rest) = none := by
    intro rest
    rw [slash]
    rfl
  cases asks with
  | @query _ spelling fragment spells ends =>
    have whole : 0x23 ∉ Utf8.encode "/database" ++ 0x3F :: spelling :=
      List.not_mem_append unended
        (List.not_mem_cons_of_ne_of_not_mem (by decide) (Form.not_mem_of_spells spells))
    have kept := takeWhile_fragment whole ends
    obtain ⟨before, after⟩ := Form.takeWhile_separator unquestioned spelling
    rw [List.append_assoc, List.cons_append] at kept
    rw [parse, kept, relative]
    simp only [ofLocal, before, after, List.drop_one, List.tail_cons]
    exact ⟨trivial, Form.pairs_of_spells spells⟩
  | noQuery ends =>
    have kept := takeWhile_fragment unended ends
    obtain ⟨before, after⟩ := Form.takeWhile_of_not_mem unquestioned
    rw [parse, kept, ← List.append_nil (Utf8.encode "/database"), relative, List.append_nil]
    simp only [ofLocal, before, after, List.drop_nil]
    exact ⟨trivial, rfl⟩

end Target

namespace Server

open Form StoreQuery

/-- What a server makes of the query of a database request whose target spells the pairs. -/
structure Extracts (pairs : List (String × String)) (request : ServerRequest) : Prop where
  /-- The query is accepted exactly when one pair names a known action and at most one a key. -/
  accepted : (∃ query, parse request.address.query = .ok query) ↔
    (valuesOf "action" pairs = ["put"] ∨ valuesOf "action" pairs = ["get"]) ∧
      (valuesOf "key" pairs).length ≤ 1
  /-- Its action and key are the values of these pairs. -/
  extracted : ∀ query, parse request.address.query = .ok query ↔ Describes pairs query
  /-- Another target whose pairs of these names are the same in any order, whatever its other pairs
  are and however it is spelled, gives the same query. -/
  alike : ∀ (others : List (String × String)) (other : ServerRequest),
    Target.Asks others (Utf8.encode other.target) →
    (others.filter (·.1 ∈ ["action", "key"])).Perm (pairs.filter (·.1 ∈ ["action", "key"])) →
    ∀ query, parse other.address.query = .ok query ↔ parse request.address.query = .ok query
  /-- An accepted query is acted upon, unless the body is too long. -/
  acted : ∀ query, Describes pairs query → ∀ store, ∃ answer after,
    withBody request.body (fun refusal => (refusal, store)) (access store query) = (answer, after) ∧
      serve store request = (.ofAnswer request.method answer, after)
  /-- Any other is refused, whatever the body is, and the store stays as it is. -/
  refused : (¬ ∃ query, parse request.address.query = .ok query) → ∀ store,
    (serve store request).1.status = 400 ∧ (serve store request).2 = store

variable {pairs : List (String × String)} {request : ServerRequest}

theorem route_of_asks (asks : Target.Asks pairs (Utf8.encode request.target)) :
    request.route? = some .database := by
  obtain ⟨path, -⟩ := Target.parse_of_asks asks
  rw [ServerRequest.route?, ServerRequest.address, path, Target.encode_database.2.2.2]
  rfl

theorem parse_eq_ok_iff_of_asks (asks : Target.Asks pairs (Utf8.encode request.target))
    (query : StoreQuery) : parse request.address.query = .ok query ↔ Describes pairs query := by
  obtain ⟨-, read⟩ := Target.parse_of_asks asks
  rw [parse, ServerRequest.address, read, ofPairs_eq_ok_iff]

/-- The query of a database request is made of its pairs, and decides before the body does. -/
theorem extracts_queries (asks : Target.Asks pairs (Utf8.encode request.target)) :
    Extracts pairs request := by
  have extracted := parse_eq_ok_iff_of_asks asks
  have served := serve_of_route (route_of_asks asks)
  constructor
  case accepted => simp only [extracted, exists_describes_iff]
  case extracted => exact extracted
  case alike =>
    intro others other also same query
    rw [extracted, parse_eq_ok_iff_of_asks also]
    exact ⟨.perm same.symm, .perm same⟩
  case acted =>
    intro query describes store
    refine ⟨_, _, rfl, ?_⟩
    rw [served, handle, database, (extracted query).2 describes]
    rfl
  case refused =>
    intro none store
    cases read : parse request.address.query with
    | ok query => exact absurd ⟨query, read⟩ none
    | error fault =>
      rw [served, handle, database, read]
      exact ⟨Reply.status_ofAnswer _ _, rfl⟩

/-- An escaped name, a space, an empty piece and a fragment. -/
theorem extracts_spelled_query :
    let pairs := [("action", "put"), ("key", "a b")]
    let request : ServerRequest := ⟨"POST", "/database?&%61ction=put&key=a+b#c", [], []⟩
    Target.Asks pairs (Utf8.encode request.target) ∧ Extracts pairs request ∧
      Describes pairs ⟨.put, some "a b"⟩ := by
  intro pairs request
  have escaped : Spelled reservedInName (Utf8.encode "action") (Utf8.encode "%61ction") := by
    have plain : ∀ octet ∈ Utf8.encode "ction", octet ∉ reservedInName := by decide +kernel
    exact .escape (show Ascii.hexValue? 0x36 = some 6 from rfl)
      (show Ascii.hexValue? 0x31 = some 1 from rfl) (.of_plain plain)
  have spaced : Spelled reserved (Utf8.encode "a b") (Utf8.encode "a+b") :=
    .plain (by decide) (.space (.plain (by decide) .nil))
  have put : Spelled reserved (Utf8.encode "put") (Utf8.encode "put") :=
    .of_plain (by decide +kernel)
  have key : Spelled reservedInName (Utf8.encode "key") (Utf8.encode "key") :=
    .of_plain (by decide +kernel)
  have spells := Spells.empty (.more (.whole escaped put) (.last (.whole key spaced)))
  have target : Utf8.encode request.target = Utf8.encode "/database" ++ 0x3F ::
      (0x26 :: (Utf8.encode "%61ction" ++ 0x3D :: Utf8.encode "put" ++
        0x26 :: (Utf8.encode "key" ++ 0x3D :: Utf8.encode "a+b")) ++ Utf8.encode "#c") := by
    decide +kernel
  have asks : Target.Asks pairs (Utf8.encode request.target) := by
    rw [target]
    exact .query spells (.present _)
  exact ⟨asks, extracts_queries asks, by decide +kernel, by decide +kernel⟩

end Server
end HttpExchange
