import HttpExchange.Network
import HttpExchange.Proofs.Upload.Cutting

/-!
# Connections that deliver

What is expected of the way to a server and back.
-/

namespace HttpExchange

/-! ### What a handler looks at -/

/-- The handler of a route takes the body of a request with the given query. -/
def Route.reads (query : Bytes) : Route → Bool
  | database => (StoreQuery.parse query).isOk
  | echo | contentType | bytes | length => true
  | status _ | delay _ => false

/-- Two requests are alike to every handler. -/
structure ServerRequest.Alike (left right : ServerRequest) : Prop where
  method : left.method = right.method
  target : left.target = right.target
  contentType : Server.contentType? left.headers = Server.contentType? right.headers
  body : left.body = right.body

namespace Server

/-- The body of a request is taken by the handler to which the request is routed. -/
def readsBody (method target : String) : Bool :=
  let target := Target.parse (Utf8.encode target)
  match Route.ofPath? target.path with
  | some route => route.takes method && route.reads target.query
  | none => false

/-- What is answered to requests that are alike, and the store afterwards, is the same. -/
theorem serve_eq_of_alike {left right : ServerRequest} (alike : left.Alike right) (store : Store) :
    serve store left = serve store right := by
  obtain ⟨method, target, contentType, body⟩ := alike
  have handled (route : Route) (query : Bytes) :
      handle store route query left = handle store route query right := by
    have described : describe left.headers = describe right.headers := by
      funext body
      rw [describe, describe, contentType]
    cases route <;> simp only [handle, body, described]
  simp only [serve, method, target, handled]

theorem handle_of_unread {route : Route} {query : Bytes} (unread : route.reads query = false)
    (store : Store) (request : ServerRequest) (body : Bytes) :
    handle store route query { request with body := body } = handle store route query request := by
  cases route with
  | echo | contentType | bytes | length => cases unread
  | status | delay => rfl
  | database =>
    rw [Route.reads] at unread
    rw [handle, handle, database, database]
    cases parsed : StoreQuery.parse query with
    | ok query =>
      rw [parsed] at unread
      cases unread
    | error fault => rfl

/-- A body that is not taken makes no difference. -/
theorem serve_of_unread {request : ServerRequest}
    (unread : readsBody request.method request.target = false) (store : Store) (body : Bytes) :
    serve store { request with body := body } = serve store request := by
  rw [readsBody] at unread
  rw [serve, serve]
  dsimp only at unread ⊢
  cases routed : Route.ofPath? (Target.parse (Utf8.encode request.target)).path with
  | none => rfl
  | some route =>
    rw [routed] at unread
    dsimp only at unread ⊢
    cases taken : route.takes request.method with
    | false => rfl
    | true =>
      rw [taken, Bool.true_and] at unread
      rw [handle_of_unread unread]

/-- Fields of other names do not change the content type. -/
theorem contentType?_append {added : List (String × Bytes)}
    (other : ∀ field ∈ added, Ascii.sameName field.1 "content-type" = false)
    (headers : List (String × Bytes)) : contentType? (headers ++ added) = contentType? headers := by
  have none : added.find? (fun field => Ascii.sameName field.1 "content-type") = none :=
    List.find?_eq_none.2 fun field member => by simp [other field member]
  rw [contentType?, contentType?, List.find?_append, none, Option.or_none]

end Server

/-! ### What the clock puts into responses -/

/-- Header fields without dates. -/
def Headers.undated (headers : Headers) : Headers :=
  headers.filter fun field => !Ascii.sameName field.1 "date"

/-- A response without its date. -/
def RawResponse.undated (response : RawResponse) : RawResponse :=
  { response with headers := response.headers.undated }

/-- A reply as a response. -/
def Reply.response (reply : Reply) : RawResponse :=
  ⟨reply.status, reply.headers, .octets reply.body⟩

/-- An outcome without the time it took and without a date. -/
def Outcome.timeless : Outcome → Outcome
  | success payload _ headers => success payload 0 headers.undated
  | error status => error status
  | timeout => timeout
  | decodeFailure message => decodeFailure message
  | progress tick => progress tick

/-- Responses that differ only in their dates lead to outcomes that differ only in what the clock
put in. -/
theorem Outcome.timeless_classify {left right : RawResponse} (same : left.undated = right.undated)
    (kind : BodyKind) (first second : Nat) :
    (ofResult? (Response.classify kind first (.ok left))).map timeless =
      (ofResult? (Response.classify kind second (.ok right))).map timeless := by
  obtain ⟨status, headers, body⟩ := left
  obtain ⟨_, others, _⟩ := right
  obtain ⟨rfl, undated, rfl⟩ : status = _ ∧ headers.undated = others.undated ∧ body = _ := by
    simpa [RawResponse.undated] using same
  unfold Response.classify
  dsimp only
  split
  · rfl
  · cases Payload.decode kind body with
    | error => rfl
    | ok payload => simp [ofResult?, timeless, undated]

/-! ### Faithful delivery -/

/-- A body gets to the handler as it is, and the reply comes back as it is but for its date. -/
structure Delivery.Faithful (delivery : Delivery) (body : Bytes) : Prop where
  /-- What is added does not tell the content type. -/
  added : ∀ field ∈ delivery.added, Ascii.sameName field.1 "content-type" = false
  body : delivery.body = body
  answered : ∀ reply, ∃ response, delivery.answer reply = .ok response ∧
    response.undated = reply.response.undated

/-- What is expected of a connection over which a request goes. -/
structure Connection.Delivers (connection : Connection) (chunkSize : Nat) (request : Request)
    (url : Url) : Prop where
  whole : (connection request url (.whole request.body)).Faithful request.body
  /-- What the handler gets of a streamed body is its chunks, joined. -/
  joined : (connection request url (.streamed (Upload.chunks chunkSize request.body))).Faithful
    (Upload.chunks chunkSize request.body).flatten
  /-- They are taken in order. -/
  ordered : (connection request url (.streamed (Upload.chunks chunkSize request.body))).pulled <+:
    Upload.chunks chunkSize request.body
  /-- A handler that takes the body answers only after all of it was taken. -/
  awaited : Server.readsBody request.method.name url.target = true →
    request.body.length ≤ Server.bodyLimit →
    (connection request url (.streamed (Upload.chunks chunkSize request.body))).pulled.flatten =
      (connection request url (.streamed (Upload.chunks chunkSize request.body))).body

/-- A prefix that has all octets has all chunks, if none is empty. -/
theorem eq_of_prefix_of_flatten {front chunks : List Bytes} (initial : front <+: chunks)
    (nonempty : ∀ chunk ∈ chunks, chunk ≠ []) (joined : front.flatten = chunks.flatten) :
    front = chunks := by
  obtain ⟨back, rfl⟩ := initial
  have nothing : back.flatten = [] := by simpa using joined
  have none : back = [] := List.eq_nil_iff_forall_not_mem.2 fun chunk member =>
    nonempty chunk (List.mem_append_right _ member) (List.flatten_eq_nil_iff.1 nothing chunk member)
  rw [none, List.append_nil]

namespace Connection

variable {connection : Connection} {chunkSize : Nat} {request : Request} {url : Url}

theorem Delivers.faithful (delivers : connection.Delivers chunkSize request url)
    (progress : Bool) :
    (connection request url (Network.cargo chunkSize request.body progress)).Faithful
      request.body := by
  cases progress with
  | false => exact delivers.whole
  | true =>
    have joined := delivers.joined
    rw [Upload.flatten_chunks] at joined
    exact joined

/-- All chunks of a body that is taken are taken, in order. -/
theorem Delivers.pulled (delivers : connection.Delivers chunkSize request url)
    (reads : Server.readsBody request.method.name url.target = true)
    (short : request.body.length ≤ Server.bodyLimit) :
    (connection request url (.streamed (Upload.chunks chunkSize request.body))).pulled =
      Upload.chunks chunkSize request.body :=
  eq_of_prefix_of_flatten delivers.ordered (Upload.chunked_chunks chunkSize request.body).nonempty
    ((delivers.awaited reads short).trans delivers.joined.body)

theorem faithful_framed {framing : List (String × String)}
    (plain : ∀ field ∈ framing, Ascii.sameName field.1 "content-type" = false) (url : Url)
    (body : Bytes) (pulled : List Bytes) (date : String) :
    Delivery.Faithful ⟨framed url framing, body, pulled, dated date⟩ body := by
  have accept : Ascii.sameName "accept" "content-type" = false := by decide +kernel
  have host : Ascii.sameName "host" "content-type" = false := by decide +kernel
  refine ⟨fun field member => ?_, rfl, fun reply => ⟨_, rfl, ?_⟩⟩
  · obtain ⟨field, listed, rfl⟩ := List.mem_map.1 member
    rcases List.mem_append.1 listed with first | framing
    · rcases List.mem_pair.1 first with rfl | rfl
      · exact accept
      · exact host
    · exact plain field framing
  · simp [RawResponse.undated, Reply.response, Headers.undated]

theorem faithful_http1_whole (date : String) (request : Request) (url : Url) (octets : Bytes) :
    (http1 date request url (.whole octets)).Faithful octets := by
  have length : Ascii.sameName "content-length" "content-type" = false := by decide +kernel
  exact faithful_framed (List.forall_mem_singleton.2 length) url octets [] date

theorem http1_streamed_of_mem (bodiless : request.method.name ∈ Connection.bodiless)
    (date : String) (url : Url) (chunks : List Bytes) :
    http1 date request url (.streamed chunks) = ⟨framed url [], [], [], dated date⟩ :=
  if_pos (by simpa using bodiless)

theorem http1_streamed_of_not_mem (bodied : request.method.name ∉ bodiless) (date : String)
    (url : Url) (chunks : List Bytes) :
    http1 date request url (.streamed chunks) =
      ⟨framed url [("transfer-encoding", "chunked")], chunks.flatten, chunks, dated date⟩ :=
  if_neg (by simpa using bodied)

theorem delivers_http1_of_not_mem (bodied : request.method.name ∉ bodiless) (date : String) :
    (http1 date).Delivers chunkSize request url := by
  have encoding : Ascii.sameName "transfer-encoding" "content-type" = false := by decide +kernel
  refine ⟨faithful_http1_whole date request url request.body, ?_, ?_, fun _ _ => ?_⟩
  · rw [http1_streamed_of_not_mem bodied]
    exact faithful_framed (List.forall_mem_singleton.2 encoding) url _ _ date
  · rw [http1_streamed_of_not_mem bodied]
  · rw [http1_streamed_of_not_mem bodied]

theorem delivers_http1_of_empty (bodiless : request.method.name ∈ Connection.bodiless)
    (empty : request.body = []) (date : String) :
    (http1 date).Delivers chunkSize request url := by
  have none : Upload.chunks chunkSize request.body = [] := by
    simp [empty, Upload.chunks, Upload.chunksOfSucc]
  refine ⟨faithful_http1_whole date request url request.body, ?_, ?_, fun _ _ => ?_⟩
  · rw [http1_streamed_of_mem bodiless, none]
    exact faithful_framed (List.forall_mem_nil _) url [] [] date
  · rw [http1_streamed_of_mem bodiless]
    exact List.nil_prefix
  · rw [http1_streamed_of_mem bodiless]
    rfl

/-- Over HTTP/1.1 a request is delivered, unless its body is streamed and its method is not expected
to have one. -/
theorem delivers_http1_iff (date : String) :
    (http1 date).Delivers chunkSize request url ↔
      request.method.name ∉ bodiless ∨ request.body = [] := by
  by_cases bodiless : request.method.name ∈ Connection.bodiless
  · constructor
    · intro delivers
      have joined := delivers.joined.body
      rw [http1_streamed_of_mem bodiless, Upload.flatten_chunks] at joined
      exact .inr joined.symm
    · rintro (bodied | empty)
      · exact absurd bodiless bodied
      · exact delivers_http1_of_empty bodiless empty date
  · exact iff_of_true (delivers_http1_of_not_mem bodiless date) (.inl bodiless)

end Connection

/-! ### Requests that are served -/

namespace Network

/-- The request as it would get to the server if nothing were added to it. -/
def sending (request : Request) (url : Url) : ServerRequest :=
  incoming request url [] request.body

/-- A request is served: the server gets it as it was sent, and what the transport returns and the
store afterwards are what the server makes of it. -/
structure Serves (store : Store) (sent : ServerRequest) (transmission : Transmission) : Prop where
  received : ∃ got, transmission.received = some got ∧ got.Alike sent
  answered : ∃ response, transmission.result = .ok response ∧
    response.undated = (Server.serve store sent).1.response.undated
  store : transmission.store = (Server.serve store sent).2

section

variable {link : Link} {connection : Connection} {chunkSize : Nat} {request : Request} {url : Url}

theorem alike_of_delivers (delivers : connection.Delivers chunkSize request url)
    (progress : Bool) :
    (incoming request url (connection request url (cargo chunkSize request.body progress)).added
      (connection request url (cargo chunkSize request.body progress)).body).Alike
        (sending request url) := by
  obtain ⟨added, body, -⟩ := delivers.faithful progress
  refine ⟨rfl, rfl, ?_, body⟩
  rw [sending, incoming, incoming, List.append_nil, Server.contentType?_append added]

/-- What is done with a request that is delivered, is done with what was sent. -/
theorem transmit_of_delivers (routed : route link request = .ok (url, connection))
    (delivers : connection.Delivers chunkSize request url) (store : Store) (progress : Bool) :
    transmit link chunkSize store request progress =
      let delivery := connection request url (cargo chunkSize request.body progress)
      let served := Server.serve store (sending request url)
      { received := some (incoming request url delivery.added delivery.body)
        progress :=
          if progress then Upload.progressFrom request.body.length 0 delivery.pulled else []
        delay := served.1.elapsed
        result := delivery.answer served.1
        store := served.2 } := by
  dsimp only
  rw [transmit, routed, ← Server.serve_eq_of_alike (alike_of_delivers delivers progress)]

/-- A request that is delivered is served, however its body is sent. -/
theorem serves_of_delivers (routed : route link request = .ok (url, connection))
    (delivers : connection.Delivers chunkSize request url) (store : Store) (progress : Bool) :
    Serves store (sending request url) (transmit link chunkSize store request progress) := by
  rw [transmit_of_delivers routed delivers]
  exact ⟨⟨_, rfl, alike_of_delivers delivers progress⟩,
    (delivers.faithful progress).answered _, rfl⟩

/-- What is reported of a body that is taken. -/
theorem progress_of_delivers (routed : route link request = .ok (url, connection))
    (delivers : connection.Delivers chunkSize request url)
    (reads : Server.readsBody request.method.name url.target = true)
    (short : request.body.length ≤ Server.bodyLimit) (store : Store) (progress : Bool) :
    (transmit link chunkSize store request progress).progress =
      if progress then Upload.progress chunkSize request.body else [] := by
  rw [transmit_of_delivers routed delivers]
  cases progress with
  | false => rfl
  | true =>
    have pulled := delivers.pulled reads short
    simp only [cargo, if_true, pulled, Upload.progress]

/-- Over HTTP/1.1 nothing is sent of a streamed body, and nothing reported, if the method is not
expected to have one. -/
theorem dropped_of_bodiless {date : String}
    (routed : route link request = .ok (url, .http1 date))
    (bodiless : request.method.name ∈ Connection.bodiless) (store : Store) :
    (transmit link chunkSize store request true).progress = [] ∧
      ∃ got, (transmit link chunkSize store request true).received = some got ∧ got.body = [] := by
  rw [transmit, routed]
  simp only [cargo, if_true, Connection.http1_streamed_of_mem bodiless]
  exact ⟨rfl, _, rfl, rfl⟩

end

end Network
end HttpExchange
