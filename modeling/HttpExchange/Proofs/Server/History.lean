import HttpExchange.Server.Serve
import Mathlib.Data.List.Induction

/-!
# A store over a history of requests

Over any history of requests the store of a server is a map.
-/

namespace HttpExchange

namespace ServerRequest

variable (request : ServerRequest)

/-- The path and query of a request. -/
def address : Target :=
  Target.parse (Utf8.encode request.target)

/-- The route that a request takes. -/
def route? : Option Route :=
  (Route.ofPath? request.address.path).filter (·.takes request.method)

/-- The value of the pair named `key` in the query of a request, once it is decoded. -/
def key? : Option String :=
  (Form.pairs request.address.query).lookup "key"

/-- The key under which a request looks, or puts something. -/
def slot : String :=
  request.key?.getD StoreQuery.defaultKey

/-- The action that a database request asks for, if its query can be read. -/
def action? : Option Action :=
  match request.route? with
  | some .database => (StoreQuery.parse request.address.query).toOption.map StoreQuery.action
  | _ => none

/-- The entry of a put that got a reply of success. -/
def entry? (reply : Reply) : Option (String × Json.Value) :=
  if request.action? = some .put ∧ reply.status = 200 then
    (PutBody.parse request.body).toOption.map fun body => (request.slot, body.value)
  else none

end ServerRequest

namespace Server

/-- The requests to a server with a fresh store, each with its reply. -/
def served (requests : List ServerRequest) : List (ServerRequest × Reply) :=
  requests.zip (serveAll .empty requests).1

/-- The value that the latest successful put under a key gave it. -/
def latest? (key : String) (history : List (ServerRequest × Reply)) : Option Json.Value :=
  (history.filterMap fun (request, reply) => request.entry? reply).reverse.lookup key

end Server

/-! ### Queries -/

namespace StoreQuery

theorem key_of_collect {action : Option Action} {key : Option String}
    {pairs : List (String × String)} {query : StoreQuery}
    (read : collect action key pairs = .ok query) :
    query.key = key.or (pairs.lookup "key") := by
  fun_induction collect action key pairs with
  | case1 => cases read
  | case2 key action =>
    cases read
    simp
  | case3 | case5 | case6 => cases read
  | case4 _ _ value pairs _ _ _ ih =>
    rw [ih read]
    simp [List.lookup_cons]
  | case7 action key value pairs unknown _ ih =>
    have absent : key = none := by simpa using unknown
    rw [ih read, absent]
    simp
  | case8 action key name value pairs _ other ih =>
    have differs : ("key" == name) = false := by simpa using Ne.symm other
    rw [ih read]
    simp [List.lookup_cons, differs]

/-- The key of a query is the value of its pair of that name. -/
theorem effectiveKey_of_parse {octets : Bytes} {query : StoreQuery}
    (read : parse octets = .ok query) :
    query.effectiveKey = ((Form.pairs octets).lookup "key").getD defaultKey := by
  rw [effectiveKey, key_of_collect read, Option.none_or]

end StoreQuery

/-! ### One request -/

theorem Answer.ok_value (value : Json.Value) :
    Answer.ok [("value", value)] =
      .json 200 (.object [("result", .string "ok"), ("value", value)]) := by
  have sorted : [("result", Json.Value.string "ok"), ("value", value)].Pairwise
      fun left right => decide (left.1 ≤ right.1) = true := by
    simp
  rw [Answer.ok, Json.Value.ofEntries, List.mergeSort_of_pairwise sorted]
  rfl

@[simp]
theorem Reply.status_ofAnswer (method : String) (answer : Answer) :
    (Reply.ofAnswer method answer).status = answer.status := by
  unfold Reply.ofAnswer
  split <;> rfl

namespace Server

variable {request : ServerRequest}

theorem serve_eq (store : Store) (request : ServerRequest) :
    serve store request =
      match Route.ofPath? request.address.path with
      | none => (if request.address.hasPath then .notFound else .noPath, store)
      | some route =>
        if route.takes request.method then
          (.ofAnswer request.method (handle store route request.address.query request).1,
            (handle store route request.address.query request).2)
        else (.onlyPost, store) :=
  rfl

theorem serve_of_route {route : Route} (taken : request.route? = some route) (store : Store) :
    serve store request =
      (.ofAnswer request.method (handle store route request.address.query request).1,
        (handle store route request.address.query request).2) := by
  obtain ⟨found, takes⟩ := Option.filter_eq_some_iff.mp taken
  simp only [serve_eq, found, takes, if_true]

theorem serve_of_no_route (untaken : request.route? = none) (store : Store) :
    serve store request = ((serve .empty request).1, store) := by
  simp only [serve_eq]
  cases found : Route.ofPath? request.address.path with
  | none => rfl
  | some route =>
    have refused : ¬ route.takes request.method = true := by
      intro takes
      simp [ServerRequest.route?, found, takes] at untaken
    simp only [refused]
    rfl

theorem handle_of_ne {route : Route} (other : route ≠ .database) (store : Store) (query : Bytes) :
    handle store route query request = ((handle .empty route query request).1, store) := by
  cases route with
  | database => exact absurd rfl other
  | echo | contentType | bytes | length | status | delay => rfl

/-- A request that does not ask the database for anything passes the store by. -/
theorem serve_of_no_action (asked : request.action? = none) (store : Store) :
    serve store request = ((serve .empty request).1, store) := by
  cases taken : request.route? with
  | none => exact serve_of_no_route taken store
  | some route =>
    rw [serve_of_route taken, serve_of_route taken]
    by_cases there : route = .database
    · subst there
      cases read : StoreQuery.parse request.address.query with
      | ok query => simp [ServerRequest.action?, taken, read, Except.toOption] at asked
      | error fault => simp only [handle, database, read]
    · rw [handle_of_ne there]

theorem query_of_action {action : Action} (asked : request.action? = some action) :
    request.route? = some .database ∧
      ∃ query, StoreQuery.parse request.address.query = .ok query ∧ query.action = action ∧
        query.effectiveKey = request.slot := by
  unfold ServerRequest.action? at asked
  split at asked
  next taken =>
    cases read : StoreQuery.parse request.address.query with
    | ok query =>
      simp only [read, Except.toOption, Option.map_some, Option.some.injEq] at asked
      exact ⟨taken, query, rfl, asked, StoreQuery.effectiveKey_of_parse read⟩
    | error fault => simp [read, Except.toOption] at asked
  next => cases asked

theorem serve_put (asked : request.action? = some .put) (store : Store) :
    serve store request =
      if bodyLimit < request.body.length then (.ofAnswer request.method tooLarge, store)
      else
        match PutBody.parse request.body with
        | .ok entry => (.ofAnswer request.method (.ok []), store.put request.slot entry.value)
        | .error _ => (.ofAnswer request.method (.failed 400), store) := by
  obtain ⟨taken, query, read, action, key⟩ := query_of_action asked
  rw [serve_of_route taken]
  simp only [handle, database, read, withBody, access, action, key]
  split
  · rfl
  · cases PutBody.parse request.body <;> rfl

theorem serve_get (asked : request.action? = some .get) (store : Store) :
    serve store request =
      (.ofAnswer request.method
        (if bodyLimit < request.body.length then tooLarge
        else
          match store.get? request.slot with
          | some value => .json 200 (.object [("result", .string "ok"), ("value", value)])
          | none => .failed 404), store) := by
  obtain ⟨taken, query, read, action, key⟩ := query_of_action asked
  rw [serve_of_route taken]
  simp only [handle, database, read, withBody, access, action, key]
  split
  · rfl
  · cases store.get? request.slot with
    | none => rfl
    | some value => simp only [Answer.ok_value]

theorem tooLarge_status : tooLarge.status = 413 := rfl

/-- A put succeeds if its body can be read. -/
theorem put_succeeds_iff (asked : request.action? = some .put) (store : Store) :
    (serve store request).1.status = 200 ↔
      request.body.length ≤ bodyLimit ∧ ∃ entry, PutBody.parse request.body = .ok entry := by
  rw [serve_put asked]
  split
  next long => simp [tooLarge_status, Nat.not_le.mpr long]
  next short =>
    cases PutBody.parse request.body with
    | ok entry => simp [Answer.ok, Answer.json, Nat.not_lt.mp short]
    | error fault => simp [Answer.failed, Answer.json]

/-- Put an entry into a store, if there is one. -/
def keep (store : Store) (entry : Option (String × Json.Value)) : Store :=
  entry.elim store fun (key, value) => store.put key value

/-- A request leaves the store with its entry, if it is a put that succeeds, and as it was if
not. -/
theorem serve_snd (store : Store) (request : ServerRequest) :
    (serve store request).2 = keep store (request.entry? (serve store request).1) := by
  cases asked : request.action? with
  | none =>
    rw [serve_of_no_action asked]
    simp [ServerRequest.entry?, asked, keep]
  | some action =>
    cases action with
    | get =>
      rw [serve_get asked]
      simp [ServerRequest.entry?, asked, keep]
    | put =>
      rw [serve_put asked]
      split
      next long => simp [ServerRequest.entry?, tooLarge_status, keep]
      next short =>
        cases read : PutBody.parse request.body with
        | ok entry =>
          simp [ServerRequest.entry?, asked, keep, read, Except.toOption, Answer.ok, Answer.json]
        | error fault => simp [ServerRequest.entry?, keep, Answer.failed, Answer.json]

/-! ### A history of requests -/

theorem serveAll_append (store : Store) (first second : List ServerRequest) :
    serveAll store (first ++ second) =
      ((serveAll store first).1 ++ (serveAll (serveAll store first).2 second).1,
        (serveAll (serveAll store first).2 second).2) := by
  induction first generalizing store with
  | nil => rfl
  | cons request first ih => simp [serveAll, ih]

@[simp]
theorem length_serveAll (store : Store) (requests : List ServerRequest) :
    (serveAll store requests).1.length = requests.length := by
  induction requests generalizing store with
  | nil => rfl
  | cons request requests ih => simp [serveAll, ih]

/-- The store of a server that has served some requests. -/
def storeAfter (requests : List ServerRequest) : Store :=
  (serveAll .empty requests).2

theorem storeAfter_concat (requests : List ServerRequest) (request : ServerRequest) :
    storeAfter (requests ++ [request]) = (serve (storeAfter requests) request).2 := by
  simp [storeAfter, serveAll_append, serveAll]

theorem served_concat (requests : List ServerRequest) (request : ServerRequest) :
    served (requests ++ [request]) =
      served requests ++ [(request, (serve (storeAfter requests) request).1)] := by
  rw [served, serveAll_append, List.zip_append (by simp)]
  simp [served, storeAfter, serveAll]

/-- The reply to a request is what the store after the requests before it makes of it. -/
theorem getElem?_serveAll (earlier later : List ServerRequest) (request : ServerRequest) :
    (serveAll .empty (earlier ++ request :: later)).1[earlier.length]? =
      some (serve (storeAfter earlier) request).1 := by
  rw [serveAll_append]
  simp [storeAfter, serveAll]

theorem get?_keep (key : String) (store : Store) (entry : Option (String × Json.Value)) :
    (keep store entry).get? key = (entry.toList.lookup key).or (store.get? key) := by
  cases entry with
  | none => rfl
  | some entry =>
    obtain ⟨name, value⟩ := entry
    by_cases same : key = name
    · subst same
      simp [keep]
    · have differs : (key == name) = false := by simpa using same
      simp [keep, List.lookup_cons, differs, Store.get?_put_of_ne store value same]

theorem latest?_concat (key : String) (history : List (ServerRequest × Reply))
    (request : ServerRequest) (reply : Reply) :
    latest? key (history ++ [(request, reply)]) =
      ((request.entry? reply).toList.lookup key).or (latest? key history) := by
  cases found : request.entry? reply with
  | none => simp [latest?, found]
  | some entry =>
    obtain ⟨name, value⟩ := entry
    simp only [latest?, List.filterMap_append, List.filterMap_cons, found, List.filterMap_nil,
      List.reverse_append, List.reverse_cons, List.reverse_nil, List.nil_append,
      List.cons_append, Option.toList_some, List.lookup_cons, List.lookup_nil]
    cases key == name <;> simp

/-- The store under a key holds the value of the latest successful put under it. -/
theorem get?_storeAfter (key : String) (requests : List ServerRequest) :
    (storeAfter requests).get? key = latest? key (served requests) := by
  induction requests using List.reverseRecOn with
  | nil => rfl
  | append_singleton requests request ih =>
    rw [storeAfter_concat, serve_snd, get?_keep, ih, served_concat, latest?_concat]

theorem latest?_filter (key : String) (history : List (ServerRequest × Reply)) :
    latest? key (history.filter fun (request, _) => request.slot == key) =
      latest? key history := by
  induction history using List.reverseRecOn with
  | nil => rfl
  | append_singleton history last ih =>
    obtain ⟨request, reply⟩ := last
    rw [List.filter_append, latest?_concat]
    by_cases same : request.slot = key
    · simp only [same, List.filter_cons, List.filter_nil, BEq.rfl, if_true]
      rw [latest?_concat, ih]
    · have differs : (key == request.slot) = false := by simpa using Ne.symm same
      have elsewhere : (request.entry? reply).toList.lookup key = none := by
        unfold ServerRequest.entry?
        split
        · cases (PutBody.parse request.body).toOption with
          | none => rfl
          | some body => simp [List.lookup_cons, differs]
        · rfl
      simp [same, elsewhere, ih]

end Server

/-! ### What a server remembers -/

/-- A reply to a request of a method carries a JSON document.  A request for the head alone gets
everything but the body, and a successful request for a tunnel neither body nor length. -/
structure Reply.Carries (reply : Reply) (method : String) (status : Nat) (document : Json.Value) :
    Prop where
  /-- The reply has the status. -/
  coded : reply.status = status
  /-- The body is the document, unless the method asks for none. -/
  whole : method ≠ "HEAD" → method ≠ "CONNECT" → reply.body = Utf8.encode document.text
  /-- A request for the head gets no body. -/
  head : method = "HEAD" → reply.body = []
  /-- The header fields announce the document and its length. -/
  announced : method ≠ "CONNECT" → reply.headers =
    [("content-length", Nat.repr (Utf8.encode document.text).length),
      ("content-type", "application/json")]
  /-- A tunnel that is refused is refused with the whole document. -/
  refused : method = "CONNECT" → 300 ≤ status →
    reply.body = Utf8.encode document.text ∧ reply.headers =
      [("content-length", Nat.repr (Utf8.encode document.text).length),
        ("content-type", "application/json")]
  /-- A tunnel that is granted carries nothing of the document. -/
  granted : method = "CONNECT" → 200 ≤ status → status < 300 →
    reply.body = [] ∧ reply.headers = [("content-type", "application/json")]

theorem Reply.carries_ofAnswer (method : String) (status : Nat) (document : Json.Value) :
    (Reply.ofAnswer method (.json status document)).Carries method status document := by
  constructor
  · rw [status_ofAnswer, Answer.json]
  · intro whole here
    simp [Reply.ofAnswer, Answer.json, whole, here]
  · intro head
    simp [Reply.ofAnswer, head]
  · intro here
    simp [Reply.ofAnswer, Answer.json, here]
  · intro there beyond
    simp [Reply.ofAnswer, Answer.json, there, Nat.not_lt.mpr beyond]
  · intro there low high
    simp [Reply.ofAnswer, Answer.json, there, low, high]

namespace Server

/-- What a server with a fresh store makes of a request after some earlier ones. -/
structure Remembers (earlier : List ServerRequest) (request : ServerRequest) (reply : Reply) :
    Prop where
  /-- A get answers with the value of the latest successful put under its key. -/
  found : request.action? = some .get → request.body.length ≤ bodyLimit →
    ∀ value, latest? request.slot (served earlier) = some value →
      reply.Carries request.method 200 (.object [("result", .string "ok"), ("value", value)])
  /-- A get under a key of no successful put finds nothing. -/
  missing : request.action? = some .get → request.body.length ≤ bodyLimit →
    latest? request.slot (served earlier) = none →
      reply.Carries request.method 404 (.object [("result", .string "error")])
  /-- Requests under other keys do not count. -/
  others : latest? request.slot (served earlier) =
    latest? request.slot ((served earlier).filter fun (other, _) => other.slot == request.slot)
  /-- The key is the one that the query names. -/
  key : ∀ key, request.key? = some key → request.slot = key
  /-- A query that names no key means the default one. -/
  noKey : request.key? = none → request.slot = "default"
  /-- A put succeeds if its body is short enough and can be read. -/
  succeeds : request.action? = some .put → (reply.status = 200 ↔
    request.body.length ≤ bodyLimit ∧ ∃ entry, PutBody.parse request.body = .ok entry)
  /-- A successful put stores its value under its key, and that alone. -/
  stored : request.action? = some .put → reply.status = 200 →
    ∃ entry, PutBody.parse request.body = .ok entry ∧
      storeAfter (earlier ++ [request]) = (storeAfter earlier).put request.slot entry.value
  /-- Every other request leaves the store as it was. -/
  kept : ¬ (request.action? = some .put ∧ reply.status = 200) →
    storeAfter (earlier ++ [request]) = storeAfter earlier
  /-- The reply of any other route does not depend on the store. -/
  alone : request.route? ≠ some .database → ∀ store, (serve store request).1 = reply

theorem entry?_of_success {request : ServerRequest} {reply : Reply} {body : PutBody}
    (asked : request.action? = some .put) (succeeded : reply.status = 200)
    (read : PutBody.parse request.body = .ok body) :
    request.entry? reply = some (request.slot, body.value) := by
  simp [ServerRequest.entry?, asked, succeeded, read, Except.toOption]

/-- A server remembers the latest value under each key, and nothing else of what it was asked:
after any requests it does with the next one, whatever follows, what a map would do. -/
theorem serves_as_a_map (earlier later : List ServerRequest) (request : ServerRequest) :
    ∃ reply, (serveAll .empty (earlier ++ request :: later)).1[earlier.length]? = some reply ∧
      Remembers earlier request reply := by
  refine ⟨_, getElem?_serveAll earlier later request, ?_⟩
  constructor
  case found =>
    intro asked short value latest
    rw [serve_get asked, if_neg (Nat.not_lt.mpr short), get?_storeAfter, latest]
    apply Reply.carries_ofAnswer
  case missing =>
    intro asked short latest
    rw [serve_get asked, if_neg (Nat.not_lt.mpr short), get?_storeAfter, latest]
    apply Reply.carries_ofAnswer
  case others => exact (latest?_filter _ _).symm
  case key =>
    intro key named
    rw [ServerRequest.slot, named, Option.getD_some]
  case noKey =>
    intro unnamed
    rw [ServerRequest.slot, unnamed, Option.getD_none, StoreQuery.defaultKey]
  case succeeds => exact fun asked => put_succeeds_iff asked _
  case stored =>
    intro asked succeeded
    obtain ⟨-, entry, read⟩ := (put_succeeds_iff asked _).mp succeeded
    refine ⟨entry, read, ?_⟩
    rw [storeAfter_concat, serve_snd, entry?_of_success asked succeeded read, keep,
      Option.elim_some]
  case kept =>
    intro idle
    rw [storeAfter_concat, serve_snd, ServerRequest.entry?, if_neg idle, keep, Option.elim_none]
  case alone =>
    intro elsewhere store
    have asked : request.action? = none := by
      unfold ServerRequest.action?
      split
      next taken => exact absurd taken elsewhere
      next => rfl
    rw [serve_of_no_action asked store, serve_of_no_action asked (storeAfter earlier)]

/-- A successful request for a tunnel does not get the value that it asks for. -/
theorem tunnel_carries_no_value :
    let put : ServerRequest :=
      ⟨"POST", "/database?action=put", [], Utf8.encode "\x7b\"value\":1\x7d"⟩
    let get : ServerRequest := ⟨"CONNECT", "/database?action=get", [], []⟩
    get.action? = some .get ∧ get.body.length ≤ bodyLimit ∧
      ∃ value, latest? get.slot (served [put]) = some value ∧
        (serveAll .empty [put, get]).1[1]? =
          some ⟨200, [("content-type", "application/json")], [], 0⟩ ∧
        Utf8.encode (Json.Value.object [("result", .string "ok"), ("value", value)]).text ≠ [] := by
  refine ⟨by decide +kernel, by decide, .natural 1, by rfl, by decide +kernel, by decide +kernel⟩

end Server
end HttpExchange
