import HttpExchange.Proofs.Json.Recorded
import HttpExchange.Proofs.Server.History

/-!
# What a put stores

A body that is neither an object nor an array of at most one element is refused and leaves the store
as it was (`only_entries_are_stored`).
-/

namespace HttpExchange

open Json Json.Grammar Json.Read

/-! ### The forms of a body -/

namespace PutBody

/-- The members of an object that hold the value. -/
def holding (members : List (String × Bytes)) : List (String × Bytes) :=
  members.filter (·.1 = "value")

/-- The octets are an object that names the value at most once. -/
def Named (body : Bytes) : Prop :=
  ∃ members, ObjectText body members ∧ (holding members).length ≤ 1

/-- The octets are an array of at most one element. -/
inductive Bare : Bytes → Prop
  | intro {before octets after : Bytes} {elements : List Unit} (blank : Blanks before)
      (listed : Listed (Element Text) octets elements) (single : elements.length ≤ 1)
      (also : Blanks after) : Bare (before ++ 0x5B :: (octets ++ 0x5D :: after))

/-- The octets hold a value that is nested no deeper than the reader goes inside them, or hold none
and stand for `null`. -/
inductive Holds : Bytes → Value → Prop
  | named {body : Bytes} {members : List (String × Bytes)} {vs : List Value}
      (object : ObjectText body members)
      (held : List.Forall₂ (fun member v => Writes (maximalDepth - 1) member.2 v)
        (holding members) vs)
      (single : vs.length ≤ 1) : Holds body (vs.headD .null)
  | bare {before octets after : Bytes} {vs : List Value} (blank : Blanks before)
      (listed : Listed (Writes (maximalDepth - 1)) octets vs) (single : vs.length ≤ 1)
      (also : Blanks after) : Holds (before ++ 0x5B :: (octets ++ 0x5D :: after)) (vs.headD .null)

theorem Holds.form {body : Bytes} {v : Value} (holds : Holds body v) : Named body ∨ Bare body := by
  cases holds with
  | named object held single => exact .inl ⟨_, object, held.length_eq ▸ single⟩
  | bare blank listed single also =>
    have elements : Listed (Element Text) _ _ :=
      listed.map (fun _ => ()) fun _ _ wrote => ⟨_, wrote.form⟩
    exact .inr (.intro blank elements (by simpa using single) also)

/-! ### Reading a body -/

/-- Store a value in a record. -/
def fill (v : Value) (_ : PutBody) : PutBody :=
  ⟨v⟩

theorem applyAll_fill {vs : List Value} (single : vs.length ≤ 1) :
    applyAll fill vs ⟨.null⟩ = ⟨vs.headD .null⟩ := by
  match vs, single with
  | [], _ | [_], _ => rfl

theorem filling_fields (fuel : Nat) (members : List (String × Bytes)) :
    filling (fields fuel) members = holding members := by
  simp [filling, holding, fields]

/-- No name occurs twice if only one of the members holds the value. -/
theorem nodup_holding_iff {members : List (String × Bytes)} :
    ((holding members).map Prod.fst).Nodup ↔ (holding members).length ≤ 1 := by
  have named : ∀ name ∈ (holding members).map Prod.fst, name = "value" := by
    intro name known
    obtain ⟨member, held, rfl⟩ := List.mem_map.1 known
    exact of_decide_eq_true (List.mem_filter.1 held).2
  rw [List.eq_replicate_of_mem named, List.nodup_replicate, List.length_map]

theorem reads_fields (size : Nat) :
    Reads (fields size) fill (fun member v => Writes (maximalDepth - 1) member.2 v) size := by
  intro field member blanks raw rest record result blank text short ends
  obtain rfl := List.mem_singleton.1 member
  simp only [bind_eq_ok_iff, value_eq_ok_iff blank text short ends]
  constructor
  · rintro ⟨_, ⟨v, writes, rfl⟩, ⟨⟩⟩
    exact ⟨v, writes, rfl⟩
  · rintro ⟨v, writes, rfl⟩
    exact ⟨_, ⟨v, writes, rfl⟩, rfl⟩

theorem writes_of_read {fuel : Nat} {field : Read.Field PutBody} (member : field ∈ fields fuel)
    {record after : PutBody} {input rest : Bytes}
    (read : field.read record input = .ok (after, rest)) :
    ∃ blanks octets v, Blanks blanks ∧ Writes (maximalDepth - 1) octets v ∧
      after = fill v record ∧ input = blanks ++ (octets ++ rest) := by
  obtain rfl := List.mem_singleton.1 member
  obtain ⟨⟨v, _⟩, taken, ⟨⟩⟩ := bind_eq_ok_iff.1 read
  obtain ⟨blanks, octets, blank, writes, same⟩ := writes_of_value taken
  exact ⟨blanks, octets, v, blank, writes, rfl, same⟩

theorem inOrder_fields_eq_ok_iff {size : Nat} {final : PutBody} {input rest : Bytes}
    (short : input.length < size) :
    inOrder (fields size) true ⟨.null⟩ input = .ok (final, rest) ↔
      ∃ octets vs, Listed (Writes (maximalDepth - 1)) octets vs ∧ vs.length ≤ 1 ∧
        input = octets ++ 0x5D :: rest ∧ final = applyAll fill vs ⟨.null⟩ := by
  apply inOrder_singleton_eq_ok_iff begins_of_writes
  · exact fun read => writes_of_read (List.mem_singleton_self _) read
  · intro octets v rest record writes short ends
    exact bind_eq_ok_iff.2 ⟨_, value_of_writes writes short ends, rfl⟩
  · exact short

theorem parse_eq_ok_iff_of_object {document : Bytes} {members : List (String × Bytes)}
    (object : ObjectText document members) {entry : PutBody} :
    parse document = .ok entry ↔ (holding members).length ≤ 1 ∧
      ∃ vs, List.Forall₂ (fun member v => Writes (maximalDepth - 1) member.2 v)
        (holding members) vs ∧ entry = applyAll fill vs ⟨.null⟩ := by
  refine (whole_record_eq_ok_iff object (reads_fields _) "struct PutEntry" ⟨.null⟩).trans ?_
  rw [filling_fields, nodup_holding_iff]

/-- A body is read as the value that it holds, and not at all if it holds none. -/
theorem parse_eq_ok_iff {document : Bytes} {v : Value} :
    parse document = .ok ⟨v⟩ ↔ Holds document v := by
  constructor
  · intro read
    obtain ⟨after, also, opened⟩ := whole_eq_ok_iff.1 read
    obtain ⟨before, left, blank, ⟨rfl, taken⟩ | ⟨rfl, taken⟩⟩ := opened_of_record opened
    · have short : left.length < (before ++ 0x5B :: left).length + 1 := by
        simp only [List.length_append, List.length_cons]
        omega
      obtain ⟨octets, vs, listed, single, rfl, same⟩ := (inOrder_fields_eq_ok_iff short).1 taken
      rw [applyAll_fill single] at same
      cases same
      exact .bare blank listed single also
    · have sound : ∀ field ∈ fields ((before ++ 0x7B :: left).length + 1),
          ∀ {record input after rest}, field.read record input = .ok (after, rest) →
            ∃ blanks raw, Blanks blanks ∧ Text raw ∧ input = blanks ++ (raw ++ rest) := by
        intro field member record input after rest read
        obtain ⟨blanks, octets, v, blank, writes, -, same⟩ := writes_of_read member read
        exact ⟨blanks, octets, blank, ⟨_, writes.form⟩, same⟩
      obtain ⟨octets, members, listed, rfl⟩ := listed_of_byName sound taken
      have object := ObjectText.intro blank listed also
      obtain ⟨once, vs, held, same⟩ := (parse_eq_ok_iff_of_object object).1 read
      have single : vs.length ≤ 1 := held.length_eq ▸ once
      rw [applyAll_fill single] at same
      cases same
      exact .named object held single
  · rintro (⟨object, held, single⟩ | ⟨blank, listed, single, also⟩)
    · exact (parse_eq_ok_iff_of_object object).2
        ⟨held.length_eq ▸ single, _, held, (applyAll_fill single).symm⟩
    · refine whole_eq_ok_iff.2 ⟨_, also, ?_⟩
      rw [record_of_bracket blank, inOrder_fields_eq_ok_iff]
      · exact ⟨_, _, listed, single, rfl, (applyAll_fill single).symm⟩
      · simp only [List.length_append, List.length_cons]
        omega

/-! ### Documents that hold no value -/

/-- A value that begins like an object is one. -/
theorem object_of_writes {depth : Nat} {others : Bytes} {v : Value}
    (writes : Writes depth (0x7B :: others) v) : ∃ members, v = .object members := by
  generalize same : 0x7B :: others = octets at writes
  have unscalar : ¬ Scalar octets v := by
    rintro ⟨⟩
    case number numeral =>
      obtain ⟨wholly, fractional, scaled, -⟩ := numeral
      have figures : Figures (0x7B :: others) := same ▸ .intro _ wholly fractional scaled
      exact not_figures (by decide) others figures
    all_goals cases same
  cases depth with
  | zero => exact absurd writes unscalar
  | succ depth =>
    rcases writes with scalar | array | object
    · exact absurd scalar unscalar
    · cases same
    · exact ⟨_, rfl⟩

/-- A document that holds a value is an object, or an array of at most one element. -/
theorem Holds.kind {body : Bytes} {v w : Value} (holds : Holds body v)
    (document : Document body w) :
    (∃ members, w = .object members) ∨ ∃ elements, w = .array elements ∧ elements.length ≤ 1 := by
  cases holds with
  | named object held single =>
    obtain ⟨blank, listed, also⟩ := object
    obtain ⟨before, written, after, between, -, same, writes⟩ := document
    obtain ⟨octet, others, rfl, visible, -⟩ := begins_of_writes writes
    obtain rfl := visible_unique blank (by decide) between visible same
    exact .inl (object_of_writes writes)
  | @bare before octets after vs blank listed single also =>
    have array : Document (before ++ 0x5B :: (octets ++ 0x5D :: after)) (.array vs) :=
      ⟨before, 0x5B :: (octets ++ [0x5D]), after, blank, also, by simp, .inr (.array listed)⟩
    have read := Value.parse_eq_ok_iff.2 document
    rw [Value.parse_eq_ok_iff.2 array] at read
    cases read
    exact .inr ⟨vs, rfl, single⟩

end PutBody

/-! ### Storing -/

namespace Server

open PutBody

/-- The server refuses a put for its body, and leaves the store as it was. -/
structure Refuses (store : Store) (request : ServerRequest) : Prop where
  /-- The reply says that the body is malformed, or that it is too long. -/
  coded : (serve store request).1.status = if bodyLimit < request.body.length then 413 else 400
  /-- The store is the one that there was. -/
  kept : (serve store request).2 = store

/-- What becomes of a put. -/
structure StoresEntry (store : Store) (request : ServerRequest) : Prop where
  /-- A body that neither is an object that names the value at most once nor an array of at most
  one element is refused. -/
  refused : ¬ Named request.body → ¬ Bare request.body → Refuses store request
  /-- An object that names the value again is refused, whatever its members hold. -/
  repeated : ∀ members, ObjectText request.body members → 1 < (holding members).length →
    Refuses store request
  /-- A document is refused if it is neither an object nor an array, and if it is an array of
  several elements. -/
  documents : ∀ v, Document request.body v → (∀ members, v ≠ .object members) →
    (∀ elements, v = .array elements → 1 < elements.length) → Refuses store request
  /-- The value that a body holds is stored under the key, unless the body is too long. -/
  stored : ∀ v, Holds request.body v → request.body.length ≤ bodyLimit →
    serve store request = (.ofAnswer request.method (.ok []), store.put request.slot v)
  /-- A body that holds no value is refused. -/
  unheld : (∀ v, ¬ Holds request.body v) → Refuses store request

theorem refuses_of_unheld {request : ServerRequest} (asked : request.action? = some .put)
    (unheld : ∀ v, ¬ Holds request.body v) (store : Store) : Refuses store request := by
  have replied : serve store request = (.ofAnswer request.method
      (if bodyLimit < request.body.length then tooLarge else .failed 400), store) := by
    rw [serve_put asked]
    cases read : PutBody.parse request.body with
    | ok entry => exact absurd (PutBody.parse_eq_ok_iff.1 read) (unheld entry.value)
    | error fault => split <;> rfl
  constructor
  case coded =>
    rw [replied, Reply.status_ofAnswer]
    split <;> rfl
  case kept => rw [replied]

/-- A put stores the value that its body holds, and nothing if there is none. -/
theorem only_entries_are_stored {request : ServerRequest} (asked : request.action? = some .put)
    (store : Store) : StoresEntry store request where
  refused := by
    intro unnamed unbare
    refine refuses_of_unheld asked (fun v holds => ?_) store
    rcases holds.form with named | bare
    · exact unnamed named
    · exact unbare bare
  repeated := by
    intro members object several
    refine refuses_of_unheld asked (fun v holds => ?_) store
    obtain ⟨once, -⟩ := (parse_eq_ok_iff_of_object object).1 (PutBody.parse_eq_ok_iff.2 holds)
    exact Nat.not_lt.2 once several
  documents := by
    intro v document unnamed several
    refine refuses_of_unheld asked (fun w holds => ?_) store
    rcases holds.kind document with ⟨members, same⟩ | ⟨elements, same, single⟩
    · exact unnamed members same
    · exact Nat.not_lt.2 single (several elements same)
  stored := by
    intro v holds short
    rw [serve_put asked, if_neg (Nat.not_lt.2 short), PutBody.parse_eq_ok_iff.2 holds]
  unheld := fun unheld => refuses_of_unheld asked unheld store

/-- An array of two elements is refused. -/
theorem two_elements_are_not_stored :
    let request : ServerRequest := ⟨"POST", "/database?action=put", [], Utf8.encode "[1,2]"⟩
    request.action? = some .put ∧ StoresEntry .empty request ∧ Refuses .empty request := by
  intro request
  have asked : request.action? = some .put := by
    decide +kernel
  have document : Document request.body (.array [.natural 1, .natural 2]) :=
    Value.parse_eq_ok_iff.1 (by rfl)
  have stores := only_entries_are_stored asked .empty
  refine ⟨asked, stores, stores.documents _ document (by simp) ?_⟩
  rintro _ ⟨⟩
  decide

theorem not_named_of_array {blanks others : Bytes} (blank : Blanks blanks) :
    ¬ Named (blanks ++ 0x5B :: others) := by
  rintro ⟨members, object, -⟩
  generalize same : blanks ++ 0x5B :: others = body at object
  obtain ⟨between, -, -⟩ := object
  cases visible_unique blank (by decide) between (by decide) same

/-- An array of one element is stored; and so is what an object stands for that is not written in
UTF-8, where the fault is in a member of another name. -/
theorem array_is_stored :
    let put (body : Bytes) : ServerRequest := ⟨"POST", "/database?action=put", [], body⟩
    let array := Utf8.encode "[1]"
    let garbled : Bytes := [0x7B, 0x22, 0x78, 0x22, 0x3A, 0x22, 0xFF, 0x22, 0x7D]
    (put array).action? = some .put ∧ ¬ Named array ∧
      (serve .empty (put array)).1.status = 200 ∧
      (serve .empty (put array)).2.get? (put array).slot = some (.natural 1) ∧
      Utf8.decode? garbled = none ∧ (serve .empty (put garbled)).1.status = 200 ∧
      (serve .empty (put garbled)).2.get? (put garbled).slot = some .null := by
  intro put array garbled
  have unnamed : ¬ Named array := by
    rw [show array = [] ++ 0x5B :: [0x31, 0x5D] by decide +kernel]
    exact not_named_of_array blanks_nil
  exact ⟨by decide +kernel, unnamed, by decide +kernel, by decide +kernel, by decide +kernel,
    by decide +kernel, by decide +kernel⟩

end Server
end HttpExchange
