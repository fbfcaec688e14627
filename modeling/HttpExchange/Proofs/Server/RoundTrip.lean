import HttpExchange.Body
import HttpExchange.Proofs.Json.Printing
import HttpExchange.Proofs.Server.History

/-!
# What a client can read back from the server

The answers nest a document one level deeper than the client sent it.
-/

namespace HttpExchange

open Json Json.Read

/-! ### Bodies of puts -/

theorem encode_text_entry (v : Value) :
    (Body.ofJson (.object [("value", v)])).bytes =
      0x7B :: 0x22 :: (Utf8.encodeChars (escape "value".toList) ++
        0x22 :: 0x3A :: (Utf8.encodeChars v.spelling ++ [0x7D])) := by
  have opening : Utf8.encodeChar '\x7b' = [0x7B] := rfl
  have closing : Utf8.encodeChar '\x7d' = [0x7D] := rfl
  have colon : Utf8.encodeChar ':' = [0x3A] := rfl
  rw [Body.ofJson, Body.bytes, Utf8.encode, Value.text_eq, String.toList_ofList]
  simp [Value.spelling, Value.spellMembers, encodeChars_quote, opening, closing, colon]

/-- The server reads the value that a client puts. -/
theorem parse_entry {v : Value} (canonical : v.Canonical) (integral : v.Integral)
    (shallow : v.depth < maximalDepth) :
    PutBody.parse (Body.ofJson (.object [("value", v)])).bytes = .ok ⟨v⟩ := by
  rw [PutBody.parse, whole_eq_ok_iff, encode_text_entry]
  have named : ∀ rest, text (Utf8.encodeChars (escape "value".toList) ++ 0x22 :: rest) =
      .ok ("value", rest) := by
    intro rest
    rw [text_of_literal (literal_escape _), String.ofList_toList]
  generalize Utf8.encodeChars (escape "value".toList) = name at named ⊢
  obtain ⟨fuel, size⟩ : ∃ fuel, (0x7B :: 0x22 :: (name ++
      0x22 :: 0x3A :: (Utf8.encodeChars v.spelling ++ [0x7D]))).length + 1 = fuel + 2 :=
    ⟨_, rfl⟩
  have enough : (Utf8.encodeChars v.spelling).length < fuel + 2 := by
    rw [← size]
    simp only [List.length_cons, List.length_append]
    omega
  have closes : Ends [0x7D] := by
    rintro _ ⟨⟩
    decide
  have read := value_of_writes (writes_spelling canonical integral (Nat.le_sub_one_of_lt shallow))
    enough closes
  have begins : ∀ rest, nextMember true (0x22 :: rest) = .ok (true, rest) := fun _ => rfl
  have ends : nextMember false [0x7D] = .ok (false, [0x7D]) := rfl
  have stops : ∀ rest, colon (0x3A :: rest) = .ok rest := fun _ => rfl
  refine ⟨[], blanks_nil, ?_⟩
  rw [size, record, skipBlanks_cons (by decide)]
  simp [byName, begins, named, PutBody.fields, stops, read, ends, bind, Except.bind]

/-! ### Documents -/

theorem isEmpty_encode_text {v : Value} (canonical : v.Canonical) (integral : v.Integral) :
    (Utf8.encode v.text).isEmpty = false := by
  obtain ⟨octet, others, same, -⟩ :=
    begins_of_writes (writes_spelling canonical integral (Nat.le_refl _))
  rw [Utf8.encode, Value.text_eq, String.toList_ofList, same]
  rfl

/-- A client decodes the text of a value that is not nested too deep. -/
theorem decode_text {v : Value} (canonical : v.Canonical) (integral : v.Integral)
    (shallow : v.depth ≤ maximalDepth) :
    Payload.decode .json (.octets (Utf8.encode v.text)) = .ok (.json v) := by
  simp [Payload.decode, isEmpty_encode_text canonical integral,
    parse_text canonical integral shallow, Except.map]

/-- A client does not decode the text of a value that is nested too deep. -/
theorem decode_text_deep {v : Value} (canonical : v.Canonical) (integral : v.Integral)
    (deep : maximalDepth < v.depth) :
    ∃ fault, Payload.decode .json (.octets (Utf8.encode v.text)) = .error fault := by
  obtain ⟨fault, failed⟩ := parse_text_deep canonical integral deep
  refine ⟨fault, ?_⟩
  simp [Payload.decode, isEmpty_encode_text canonical integral, failed, Except.map]

/-- An object of two members in order is as good as its values, and one level deeper. -/
theorem canonical_pair {first second : String} (before : first < second) {v w : Value}
    (canonical : v.Canonical ∧ w.Canonical) :
    (Value.object [(first, v), (second, w)]).Canonical := by
  exact ⟨List.pairwise_pair.2 before, canonical.1, canonical.2, trivial⟩

theorem integral_pair {first second : String} {v w : Value}
    (integral : v.Integral ∧ w.Integral) :
    (Value.object [(first, v), (second, w)]).Integral := by
  refine .object ?_
  rintro member present
  simp only [List.mem_cons, List.not_mem_nil, or_false] at present
  rcases present with rfl | rfl
  · exact integral.1
  · exact integral.2

namespace Server

/-! ### Stored values -/

/-- The request is a put under a key, and its reply says that it succeeded. -/
def Overwrites (key : String) (request : ServerRequest) (reply : Reply) : Prop :=
  request.action? = some .put ∧ request.slot = key ∧ reply.status = 200

instance (key : String) (request : ServerRequest) (reply : Reply) :
    Decidable (Overwrites key request reply) :=
  inferInstanceAs (Decidable (_ ∧ _ ∧ _))

theorem get?_serve_of_not_overwrites {key : String} {store : Store} {request : ServerRequest}
    (other : ¬ Overwrites key request (serve store request).1) :
    (serve store request).2.get? key = store.get? key := by
  have elsewhere : (request.entry? (serve store request).1).toList.lookup key = none := by
    unfold ServerRequest.entry?
    split
    · rename_i succeeded
      have differs : (key == request.slot) = false := by
        refine beq_false_of_ne fun same => ?_
        exact other ⟨succeeded.1, same.symm, succeeded.2⟩
      cases (PutBody.parse request.body).toOption with
      | none => rfl
      | some body => simp [List.lookup_cons, differs]
    · rfl
  rw [serve_snd, get?_keep, elsewhere, Option.none_or]

/-- Requests that put nothing under a key leave its value alone. -/
theorem get?_serveAll_of_quiet {key : String} {store : Store} {requests : List ServerRequest}
    (quiet : ∀ exchange ∈ requests.zip (serveAll store requests).1,
      ¬ Overwrites key exchange.1 exchange.2) :
    (serveAll store requests).2.get? key = store.get? key := by
  induction requests generalizing store with
  | nil => rfl
  | cons request requests ih =>
    simp only [serveAll, List.zip_cons_cons] at quiet ⊢
    obtain ⟨first, others⟩ := List.forall_mem_cons.1 quiet
    rw [ih others, get?_serve_of_not_overwrites first]

/-- The replies to a request, some others and a last one. -/
theorem serveAll_cons_concat (store : Store) (first last : ServerRequest)
    (between : List ServerRequest) :
    (serveAll store (first :: (between ++ [last]))).1 =
      (serve store first).1 :: ((serveAll (serve store first).2 between).1 ++
        [(serve (serveAll (serve store first).2 between).2 last).1]) := by
  simp [serveAll, serveAll_append]

theorem body_ofAnswer {method : String} (bodily : method ≠ "HEAD" ∧ method ≠ "CONNECT")
    (answer : Answer) : (Reply.ofAnswer method answer).body = answer.body := by
  simp [Reply.ofAnswer, bodily.1, bodily.2]

/-- A get with too long a body does not succeed. -/
theorem status_of_long {request : ServerRequest} (gets : request.action? = some .get)
    (excess : bodyLimit < request.body.length) (store : Store) :
    (serve store request).1.status = 413 := by
  rw [serve_get gets, if_pos excess, Reply.status_ofAnswer, tooLarge_status]

/-- What a client puts under a key is what it gets for that key, whatever the server is asked in
between, unless something else is put there. -/
theorem value_put_is_got {v : Value} (canonical : v.Canonical) (integral : v.Integral)
    (shallow : v.depth ≤ 126) (store : Store) {put get : ServerRequest}
    (puts : put.action? = some .put)
    (body : put.body = (Body.ofJson (.object [("value", v)])).bytes)
    (fits : put.body.length ≤ bodyLimit) (gets : get.action? = some .get)
    (same : get.slot = put.slot) (bodily : get.method ≠ "HEAD" ∧ get.method ≠ "CONNECT")
    (short : get.body.length ≤ bodyLimit) {between : List ServerRequest}
    (quiet : ∀ exchange ∈ between.zip (serveAll (serve store put).2 between).1,
      ¬ Overwrites put.slot exchange.1 exchange.2) :
    ∃ stored replies found,
      (serveAll store (put :: (between ++ [get]))).1 = stored :: (replies ++ [found]) ∧
      stored.status = 200 ∧ found.status = 200 ∧
      Payload.decode .json (.octets found.body) =
        .ok (.json (.object [("result", .string "ok"), ("value", v)])) := by
  have entry : PutBody.parse put.body = .ok ⟨v⟩ := by
    rw [body]
    exact parse_entry canonical integral (Nat.lt_succ_of_le shallow)
  have succeeded : (serve store put).1.status = 200 :=
    (put_succeeds_iff puts store).2 ⟨fits, _, entry⟩
  have kept : (serveAll (serve store put).2 between).2.get? get.slot = some v := by
    rw [same, get?_serveAll_of_quiet quiet, serve_put puts, if_neg (Nat.not_lt.2 fits), entry,
      Store.get?_put]
  refine ⟨_, _, _, serveAll_cons_concat store put get between, succeeded, ?_, ?_⟩
  · rw [serve_get gets, if_neg (Nat.not_lt.2 short), kept]
    exact Reply.status_ofAnswer _ _
  · rw [serve_get gets, if_neg (Nat.not_lt.2 short), kept, body_ofAnswer bodily]
    refine decode_text (canonical_pair (by decide) ⟨trivial, canonical⟩)
      (integral_pair ⟨.string "ok", integral⟩) ?_
    simp only [Value.depth, Value.depthMembers, maximalDepth]
    omega

/-- A nested value under a key survives a request for the head alone and one for another key. -/
theorem nested_value_put_is_got :
    let v : Value := .object [("a", .array [.null, .number (.integer ⟨-1, by decide, by decide⟩)]),
      ("é", .string "\n")]
    let put : ServerRequest := ⟨"POST", "/database?action=put&key=k%201", [],
      (Body.ofJson (.object [("value", v)])).bytes⟩
    let get : ServerRequest := ⟨"GET", "/database?action=get&key=k+1", [], []⟩
    let between : List ServerRequest := [⟨"HEAD", "/database?action=get&key=k+1", [], []⟩,
      ⟨"POST", "/database?action=put", [], Utf8.encode "[2]"⟩]
    ∃ stored replies found,
      (serveAll .empty (put :: (between ++ [get]))).1 = stored :: (replies ++ [found]) ∧
      stored.status = 200 ∧ found.status = 200 ∧
      Payload.decode .json (.octets found.body) =
        .ok (.json (.object [("result", .string "ok"), ("value", v)])) := by
  intro v put get between
  have canonical : v.Canonical :=
    canonical_pair (by decide) ⟨⟨trivial, trivial, trivial⟩, trivial⟩
  have integral : v.Integral := by
    refine integral_pair ⟨.array ?_, .string _⟩
    simp [Value.Integral.null, Value.Integral.integer]
  exact value_put_is_got canonical integral (by decide) .empty (by decide +kernel) rfl
    (by decide +kernel) (by decide +kernel) (by decide +kernel) (by decide) (by decide)
    (by decide +kernel)

/-- A successful request for a tunnel gets no value, so that its client decodes none; and with too
long a body a request does not succeed. -/
theorem not_every_get_has_value :
    let put : ServerRequest := ⟨"POST", "/database?action=put&key=k", [],
      (Body.ofJson (.object [("value", .natural 1)])).bytes⟩
    let tunnel : ServerRequest := ⟨"CONNECT", "/database?action=get&key=k", [], []⟩
    let long : ServerRequest :=
      ⟨"GET", "/database?action=get&key=k", [], List.replicate (bodyLimit + 1) 0⟩
    put.action? = some .put ∧ put.body.length ≤ bodyLimit ∧
      (tunnel.action? = some .get ∧ tunnel.slot = put.slot ∧ tunnel.method ≠ "HEAD" ∧
        ∃ stored found, (serveAll .empty [put, tunnel]).1 = [stored, found] ∧
          stored.status = 200 ∧ found.status = 200 ∧
          Payload.decode .json (.octets found.body) = .ok (.json .null)) ∧
      (long.action? = some .get ∧ long.slot = put.slot ∧
        ∃ stored found, (serveAll .empty [put, long]).1 = [stored, found] ∧
          stored.status = 200 ∧ found.status = 413) := by
  intro put tunnel long
  have stores : (serve .empty put).1.status = 200 := by
    decide +kernel
  have asks : long.action? = some .get := by
    decide +kernel
  have excess : bodyLimit < long.body.length := by
    rw [List.length_replicate]
    exact Nat.lt_succ_self _
  -- The reply is not computed, as it would read all of the body.
  have refused := status_of_long asks excess (serve .empty put).2
  have replies := serveAll_cons_concat .empty put long []
  exact ⟨by decide +kernel, by decide +kernel, ⟨by decide +kernel, by decide +kernel, by decide,
    _, _, rfl, stores, by decide +kernel, by decide +kernel⟩, asks, by decide +kernel,
    _, _, replies, stores, refused⟩

/-! ### Echoed documents -/

/-- The answer to a document. -/
def echoed (d : Value) : Value :=
  .object [("data", d), ("result", .string "ok")]

theorem canonical_echoed {d : Value} (canonical : d.Canonical) : (echoed d).Canonical :=
  canonical_pair (by decide) ⟨canonical, trivial⟩

theorem integral_echoed {d : Value} (integral : d.Integral) : (echoed d).Integral :=
  integral_pair ⟨integral, .string "ok"⟩

theorem depth_echoed (d : Value) : (echoed d).depth = d.depth + 1 := by
  simp [echoed, Value.depth, Value.depthMembers]

theorem answer_ok_data (d : Value) : Answer.ok [("data", d)] = .json 200 (echoed d) := by
  simp [echoed, Answer.ok, Value.ofEntries, List.mergeSort, Value.keepLast, Value.precede]

/-- Echo requests are posted. -/
theorem bodily_of_echo {request : ServerRequest} (taken : request.route? = some .echo) :
    request.method ≠ "HEAD" ∧ request.method ≠ "CONNECT" := by
  have takes := (Option.filter_eq_some_iff.1 taken).2
  have posted : request.method = "POST" := by
    simpa [Route.takes] using takes
  rw [posted]
  decide

/-- A document that is short enough is echoed. -/
theorem serve_echo {request : ServerRequest} (taken : request.route? = some .echo)
    (fits : request.body.length ≤ bodyLimit) {d : Value}
    (decoded : Payload.decode .json (.octets request.body) = .ok (.json d)) (store : Store) :
    (serve store request).1 = .ofAnswer request.method (.json 200 (echoed d)) := by
  simp only [serve_of_route taken, handle, withBody, Nat.not_lt.2 fits, if_false, id, echo]
  rw [Payload.decode] at decoded
  cases empty : request.body.isEmpty with
  | true =>
    simp only [empty, if_true] at decoded
    cases decoded
    simp only [if_true, answer_ok_data]
  | false =>
    simp only [empty, Bool.false_eq_true, if_false] at decoded ⊢
    cases read : Value.parse request.body with
    | error fault =>
      rw [read] at decoded
      cases decoded
    | ok other =>
      rw [read] at decoded
      cases decoded
      simp only [answer_ok_data]

/-- Only documents that are short enough are echoed. -/
theorem decoded_of_echo {request : ServerRequest} (taken : request.route? = some .echo)
    {store : Store} (succeeded : (serve store request).1.status = 200) :
    request.body.length ≤ bodyLimit ∧
      ∃ d, d.Canonical ∧ Payload.decode .json (.octets request.body) = .ok (.json d) := by
  simp only [serve_of_route taken, handle, withBody, Reply.status_ofAnswer] at succeeded
  split at succeeded
  · cases succeeded
  rename_i short
  refine ⟨Nat.not_lt.1 short, ?_⟩
  simp only [echo] at succeeded
  rw [Payload.decode]
  cases empty : request.body.isEmpty with
  | true => exact ⟨.null, trivial, rfl⟩
  | false =>
    simp only [empty, Bool.false_eq_true, if_false] at succeeded ⊢
    cases read : Value.parse request.body with
    | error fault =>
      simp only [read] at succeeded
      cases succeeded
    | ok d =>
      obtain ⟨before, written, after, -, -, -, writes⟩ := Value.parse_eq_ok_iff.1 read
      exact ⟨d, writes.canonical.1, rfl⟩

/-- What the server echoes is the document that it was given, if that leaves room for one more
level; if it does not, the client cannot decode the answer. -/
theorem echo_is_read_back (store : Store) {request : ServerRequest}
    (taken : request.route? = some .echo)
    (integral : ∀ d, Payload.decode .json (.octets request.body) = .ok (.json d) → d.Integral)
    (succeeded : (serve store request).1.status = 200) :
    ∃ d, Payload.decode .json (.octets request.body) = .ok (.json d) ∧
      (d.depth ≤ 126 → Payload.decode .json (.octets (serve store request).1.body) =
        .ok (.json (.object [("data", d), ("result", .string "ok")]))) ∧
      (126 < d.depth → ∃ fault,
        Payload.decode .json (.octets (serve store request).1.body) = .error fault) := by
  obtain ⟨fits, d, canonical, decoded⟩ := decoded_of_echo taken succeeded
  have integral := integral d decoded
  have answered : (serve store request).1.body = Utf8.encode (echoed d).text := by
    rw [serve_echo taken fits decoded, body_ofAnswer (bodily_of_echo taken)]
    rfl
  refine ⟨d, decoded, fun shallow => ?_, fun deep => ?_⟩
  · rw [answered]
    refine decode_text (canonical_echoed canonical) (integral_echoed integral) ?_
    rw [depth_echoed]
    exact Nat.succ_le_succ shallow
  · rw [answered]
    refine decode_text_deep (canonical_echoed canonical) (integral_echoed integral) ?_
    rw [depth_echoed]
    exact Nat.succ_lt_succ deep

/-- A document with blanks and an escape is echoed and read back. -/
theorem escaped_echo_is_read_back :
    let request : ServerRequest := ⟨"POST", "/echo", [],
      Utf8.encode " [\"\\u0041\", -2 ]\n"⟩
    let d : Value := .array [.string "A", .number (.integer ⟨-2, by decide, by decide⟩)]
    Payload.decode .json (.octets (serve .empty request).1.body) =
      .ok (.json (.object [("data", d), ("result", .string "ok")])) := by
  intro request d
  have decoded : Payload.decode .json (.octets request.body) = .ok (.json d) := by
    decide +kernel
  have only : ∀ other, Payload.decode .json (.octets request.body) = .ok (.json other) →
      d = other :=
    fun other read => Payload.json.inj (Except.ok.inj (decoded.symm.trans read))
  have integral : d.Integral :=
    .array (List.forall_mem_cons.2 ⟨.string "A", List.forall_mem_singleton.2 (.integer _)⟩)
  obtain ⟨other, read, shallow, -⟩ := echo_is_read_back .empty
    (show request.route? = some .echo by decide +kernel)
    (fun other read => only other read ▸ integral) (by decide +kernel)
  rw [← only other read] at shallow
  exact shallow (by decide)

/-- Empty arrays inside one another. -/
def nest : Nat → Value
  | 0 => .array []
  | levels + 1 => .array [nest levels]

theorem canonical_nest (levels : Nat) : (nest levels).Canonical := by
  induction levels with
  | zero => trivial
  | succ levels ih => exact ⟨ih, trivial⟩

theorem integral_nest (levels : Nat) : (nest levels).Integral := by
  induction levels with
  | zero => exact .array (List.forall_mem_nil _)
  | succ levels ih => exact .array (List.forall_mem_singleton.2 ih)

theorem depth_nest (levels : Nat) : (nest levels).depth = levels + 1 := by
  induction levels with
  | zero => rfl
  | succ levels ih => simp [nest, Value.depth, Value.depthElements, ih]

theorem spelling_nest (levels : Nat) : (nest levels).spelling =
    List.replicate (levels + 1) '[' ++ List.replicate (levels + 1) ']' := by
  induction levels with
  | zero => rfl
  | succ levels ih =>
    have last : List.replicate (levels + 1 + 1) ']' = List.replicate (levels + 1) ']' ++ [']'] :=
      List.replicate_succ'
    rw [last, List.replicate_succ, nest, Value.spelling, Value.spellElements, ih]
    simp [Value.spellElements]

/-- A nest as deep as the reader goes is echoed, but not decoded. -/
theorem nest_is_not_read {levels : Nat} (deepest : levels + 1 = maximalDepth)
    {request : ServerRequest} (taken : request.route? = some .echo)
    (posted : request.body =
      Utf8.encodeChars (List.replicate (levels + 1) '[' ++ List.replicate (levels + 1) ']'))
    (fits : request.body.length ≤ bodyLimit) (store : Store) :
    (serve store request).1.status = 200 ∧
      Payload.decode .json (.octets request.body) = .ok (.json (nest levels)) ∧
      ∃ fault, Payload.decode .json (.octets (serve store request).1.body) = .error fault := by
  have written : request.body = Utf8.encode (nest levels).text := by
    rw [posted, Utf8.encode, Value.text_eq, String.toList_ofList, spelling_nest]
  have decoded : Payload.decode .json (.octets request.body) = .ok (.json (nest levels)) := by
    rw [written]
    refine decode_text (canonical_nest levels) (integral_nest levels) ?_
    rw [depth_nest, deepest]
  have served := serve_echo taken fits decoded store
  refine ⟨?_, decoded, ?_⟩
  · rw [served, Reply.status_ofAnswer, Answer.json]
  · rw [served, body_ofAnswer (bodily_of_echo taken)]
    refine decode_text_deep (canonical_echoed (canonical_nest levels))
      (integral_echoed (integral_nest levels)) ?_
    rw [depth_echoed, depth_nest, deepest]
    exact Nat.lt_succ_self _

/-- The deepest document that the server takes is echoed, but not decoded. -/
theorem deepest_echo_is_not_read :
    let body := Utf8.encodeChars (List.replicate 127 '[' ++ List.replicate 127 ']')
    let request : ServerRequest := ⟨"POST", "/echo", [], body⟩
    request.route? = some .echo ∧ (serve .empty request).1.status = 200 ∧
      Payload.decode .json (.octets body) = .ok (.json (nest 126)) ∧
      ∃ fault, Payload.decode .json (.octets (serve .empty request).1.body) = .error fault := by
  intro body request
  have taken : request.route? = some .echo := by
    decide +kernel
  exact ⟨taken, nest_is_not_read rfl taken rfl (by decide +kernel) .empty⟩

end Server
end HttpExchange
