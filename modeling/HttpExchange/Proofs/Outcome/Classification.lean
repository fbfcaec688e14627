import HttpExchange.Outcome.Basic
import HttpExchange.Proofs.Json.Document
import HttpExchange.Proofs.Text.Ascii

/-!
# What a response means

What a transport returns is classified here by the grammar of JSON and without its reader.
-/

namespace HttpExchange

/-! ### Header fields -/

/-- The value of the first header field of a name, if there is one. -/
inductive Headers.First (name : String) : Headers → Option String → Prop where
  | absent {headers : Headers} (other : ∀ field ∈ headers, ¬ Ascii.SameButCase field.1 name) :
      First name headers none
  | found {front back : Headers} {own value : String} (same : Ascii.SameButCase own name)
      (other : ∀ field ∈ front, ¬ Ascii.SameButCase field.1 name) :
      First name (front ++ (own, value) :: back) (some value)

theorem Headers.first_value? (headers : Headers) (name : String) :
    First name headers (headers.value? name) := by
  rw [value?]
  cases found : headers.find? fun field => Ascii.sameName field.1 name with
  | none =>
    refine .absent fun field member same => ?_
    exact List.find?_eq_none.1 found field member ((Ascii.sameName_iff _ _).2 same)
  | some field =>
    obtain ⟨same, front, back, rfl, other⟩ := List.find?_eq_some_iff_append.1 found
    refine .found ((Ascii.sameName_iff _ _).1 same) fun field member matching => ?_
    have differs := other field member
    rw [(Ascii.sameName_iff _ _).2 matching] at differs
    cases differs

/-! ### Results -/

/-- The result of what a transport returned after `elapsed`.  The status is looked at before the
body, and only octets that are to be JSON are decoded. -/
inductive Classified (kind : BodyKind) (elapsed : Nat) :
    Except String RawResponse → RequestResult → Prop where
  /-- The transport failed. -/
  | transport (message : String) :
      Classified kind elapsed (.error message) (.error (.transport message))
  /-- The status is not 200, whatever the body is. -/
  | server {status : Nat} (unsuccessful : status ≠ 200) (headers : Headers) (body : Content) :
      Classified kind elapsed (.ok ⟨status, headers, body⟩) (.error (.server status))
  /-- The body was to be JSON, has octets, and is no document. -/
  | decode (json : kind = .json) (headers : Headers) {octets : Bytes} (nonempty : octets ≠ [])
      (invalid : ∀ value, ¬ Json.Grammar.Document octets value) (message : String) :
      Classified kind elapsed (.ok ⟨200, headers, .octets octets⟩) (.error (.decode message))
  /-- A value that was decoded on the way is taken as it is, whatever was asked for. -/
  | decoded (headers : Headers) (value : Json.Value) :
      Classified kind elapsed (.ok ⟨200, headers, .decoded value⟩)
        (.ok ⟨.json value, elapsed, headers⟩)
  /-- No octets at all are `null` as JSON. -/
  | empty (json : kind = .json) (headers : Headers) :
      Classified kind elapsed (.ok ⟨200, headers, .octets []⟩) (.ok ⟨.json .null, elapsed, headers⟩)
  /-- The body is a document. -/
  | document (json : kind = .json) (headers : Headers) {octets : Bytes} (nonempty : octets ≠ [])
      {value : Json.Value} (written : Json.Grammar.Document octets value) :
      Classified kind elapsed (.ok ⟨200, headers, .octets octets⟩)
        (.ok ⟨.json value, elapsed, headers⟩)
  /-- Octets were asked for. -/
  | raw (raw : kind = .raw) (headers : Headers) (octets : Bytes) :
      Classified kind elapsed (.ok ⟨200, headers, .octets octets⟩)
        (.ok ⟨.raw octets, elapsed, headers⟩)

namespace Classified

variable {kind : BodyKind} {elapsed : Nat} {returned : Except String RawResponse}
  {result : RequestResult}

theorem ofResult?_ne_none (classified : Classified kind elapsed returned result) :
    Outcome.ofResult? result ≠ none := by
  cases classified <;> simp [Outcome.ofResult?]

/-- A success keeps the header fields, and so does the outcome that it becomes. -/
theorem headers (classified : Classified kind elapsed returned result) {response : Response}
    (success : result = .ok response) : ∃ raw, returned = .ok raw ∧ raw.status = 200 ∧
      response.headers = raw.headers := by
  cases classified <;> cases success <;> exact ⟨_, rfl, rfl, rfl⟩

end Classified

/-- The classification of what a transport returns. -/
theorem classified_classify (kind : BodyKind) (elapsed : Nat)
    (returned : Except String RawResponse) :
    Classified kind elapsed returned (Response.classify kind elapsed returned) := by
  match returned with
  | .error message => exact .transport message
  | .ok ⟨status, headers, body⟩ =>
    rw [Response.classify]
    by_cases successful : status = 200
    · subst successful
      rw [if_neg (not_not_intro rfl)]
      cases body with
      | decoded value => exact .decoded headers value
      | octets octets =>
        cases kind with
        | raw => exact .raw rfl headers octets
        | json =>
          cases octets with
          | nil => exact .empty rfl headers
          | cons octet rest =>
            simp only [Payload.decode, List.isEmpty_cons, Bool.false_eq_true, if_false]
            cases read : Json.Value.parse (octet :: rest) with
            | ok value =>
              exact .document rfl headers (List.cons_ne_nil _ _)
                (Json.Value.parse_eq_ok_iff.1 read)
            | error fault =>
              refine .decode rfl headers (List.cons_ne_nil _ _) (fun value written => ?_) _
              cases read.symm.trans (Json.Value.parse_eq_ok_iff.2 written)
    · rw [if_pos successful]
      exact .server successful headers body

/-- A body cannot be decoded exactly when the status is 200, the body was to be JSON, has octets,
and is no document. -/
theorem classify_eq_decode_iff {kind : BodyKind} {elapsed : Nat}
    {returned : Except String RawResponse} :
    (∃ message, Response.classify kind elapsed returned = .error (.decode message)) ↔
      kind = .json ∧ ∃ headers octets, returned = .ok ⟨200, headers, .octets octets⟩ ∧
        octets ≠ [] ∧ ∀ value, ¬ Json.Grammar.Document octets value := by
  have classified := classified_classify kind elapsed returned
  generalize Response.classify kind elapsed returned = result at classified
  constructor
  · rintro ⟨message, rfl⟩
    cases classified with
    | decode json headers nonempty invalid => exact ⟨json, headers, _, rfl, nonempty, invalid⟩
  · rintro ⟨rfl, headers, octets, rfl, nonempty, invalid⟩
    cases classified with
    | server unsuccessful => exact absurd rfl unsuccessful
    | decode _ _ _ _ message => exact ⟨message, rfl⟩
    | empty => exact absurd rfl nonempty
    | document _ _ _ written => exact absurd written (invalid _)
    | raw raw => cases raw

end HttpExchange
