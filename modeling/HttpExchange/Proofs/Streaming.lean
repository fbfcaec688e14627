import HttpExchange.Proofs.Agreement
import HttpExchange.Proofs.Connection
import HttpExchange.Proofs.Exchange.Uploading
import HttpExchange.Proofs.Progress
import HttpExchange.Proofs.Schedule.Beginning
import HttpExchange.Proofs.Transport

/-!
# Streamed and plain uploads

A streamed body differs from one that is sent in one piece only in the progress that is received
before the terminal outcome.
-/

namespace HttpExchange

open View Exchange Effect

/-! ### What is reported in a run -/

/-- The answers to aborts report nothing. -/
theorem View.Told.reports {effects : List Effect} {moments : List Moment}
    (told : Told effects moments) :
    moments.filterMap Moment.report? = (Effect.moments effects).filterMap Moment.report? :=
  told.filterMap_eq fun _ => rfl

section

variable {before after : Record} {moments : List Moment} {now : Nat}

/-- Moments at which nothing is reported change nothing. -/
theorem reports_of_unreported
    (history : after.history = before.history ++ moments.map fun moment => (now, moment))
    (quiet : ∀ moment ∈ moments, moment.report? = none) : after.reports = before.reports := by
  by_cases ended : ∃ moment ∈ before.moments, moment.isEnd = true
  · exact reports_extend_of_ended ended history
  · have none : (moments.takeWhile (!·.isEnd)).filterMap Moment.report? = [] :=
      List.filterMap_eq_nil_iff.2 fun moment member =>
        quiet moment ((List.takeWhile_prefix _).subset member)
    rw [reports_extend ended history, none, List.map_nil, List.append_nil]

/-- A run that reports progress before it may end. -/
theorem reports_ran {ledger : Ledger} (accounts : Ledger.Accounts ledger before)
    (present : before.exchange.isOver = false) {own later : List Effect} {front : List Progress}
    (reports : Reports front own) (mute : Mute later) (told : Told (own ++ later) moments)
    (history : after.history = before.history ++ moments.map fun moment => (now, moment)) :
    after.reports.map Prod.snd = before.reports.map Prod.snd ++ front := by
  obtain ⟨first, last, rfl, earlier, rest⟩ := told.split
  have going : ∀ moment ∈ first, (!moment.isEnd) = true :=
    earlier.forall (fun moment member => by rw [reports.unended moment member]; rfl) fun _ => rfl
  have silent : (last.takeWhile (!·.isEnd)).filterMap Moment.report? = [] :=
    List.filterMap_eq_nil_iff.2 fun moment member =>
      report?_told rest mute.moments moment ((List.takeWhile_prefix _).subset member)
  rw [reports_extend (fun ended => Bool.false_ne_true (present.symm.trans
    (accounts.over_iff.2 ended))) history, List.takeWhile_append_of_pos going,
    List.filterMap_append, silent, List.append_nil, earlier.reports, reports.reports]
  simp [Function.comp_def]

end

/-! ### Progress that is still to be reported -/

namespace View

/-- How far an upload got. -/
structure Uploading (result : Except String RawResponse) (ticks : List Progress) (view : View)
    (record : Record) : Prop where
  late : view.late = 0
  fresh : record.exchange.phase = .fresh → record.exchange.status = .idle ∧ record.reports = []
  /-- While it waits, what was reported and what is to be reported are the ticks in order. -/
  waiting : ∀ transport deadline, record.exchange.phase = .waiting transport deadline →
    transport.sink = true ∧ ∃ back delay, Carries result back delay transport.script ∧
      ticks = record.reports.map Prod.snd ++ back
  /-- All were reported when its transport returned. -/
  ended : record.exchange.phase = .ended → record.exchange.status = statusOf result →
    record.reports.map Prod.snd = ticks

namespace Uploading

variable {result : Except String RawResponse} {ticks : List Progress} {number : Nat}

/-- What happens between two runs. -/
theorem extend {before after : View} {left right : Record}
    (uploading : Uploading result ticks before left) (kin : Kin left.exchange right.exchange)
    (late : after.late = before.late) (moments : List Moment) (now : Nat)
    (history : right.history = left.history ++ moments.map fun moment => (now, moment))
    (quiet : ∀ moment ∈ moments, moment.report? = none) : Uploading result ticks after right := by
  have same := reports_of_unreported history quiet
  constructor
  · exact late.trans uploading.late
  · rw [kin.phase, kin.status, same]
    exact uploading.fresh
  · rw [kin.phase, same]
    exact uploading.waiting
  · rw [kin.phase, kin.status, same]
    exact uploading.ended

/-- What a run leads to. -/
theorem ran {view : View} {record : Record} (uploading : Uploading result ticks view record)
    {ledger : Ledger} (accounts : Ledger.Accounts ledger record) {delay : Nat}
    (wanted : record.exchange.plan.wantsProgress = true)
    (carries : Carries result ticks delay record.exchange.plan.script)
    (present : record.exchange.isOver = false) {moments : List Moment} {jobs : List Job}
    (queue : view.jobs = .exchange number :: jobs)
    (told : Told (record.exchange.run number view.now).effects moments) :
    Uploading result ticks
      ({ view with jobs := jobs }.ran number (record.exchange.run number view.now) moments)
      ⟨(record.exchange.run number view.now).exchange,
        record.history ++ moments.map fun moment => (view.now, moment)⟩ := by
  obtain ⟨front, back, split, uploads⟩ : ∃ front back,
      ticks = record.reports.map Prod.snd ++ (front ++ back) ∧
        Uploads result front back (record.exchange.run number view.now) := by
    cases phase : record.exchange.phase with
    | ended => simp [isOver, phase] at present
    | fresh =>
      obtain ⟨idle, none⟩ := uploading.fresh phase
      obtain ⟨front, back, split, uploads⟩ :=
        uploads_run_of_fresh phase idle wanted carries number view.now
      exact ⟨front, back, by rw [none, split]; rfl, uploads⟩
    | waiting transport deadline =>
      obtain ⟨sink, ahead, left, carries, whole⟩ := uploading.waiting transport deadline phase
      obtain ⟨front, back, rfl, uploads⟩ :=
        uploads_run_of_waiting phase sink carries number view.now
      exact ⟨front, back, whole, uploads⟩
  obtain ⟨⟨own, later, effects, reports, mute⟩, waiting, ended⟩ := uploads
  have reported := @reports_ran record ⟨(record.exchange.run number view.now).exchange,
    record.history ++ moments.map fun moment => (view.now, moment)⟩ moments view.now ledger accounts
      present own later front reports mute (effects ▸ told) rfl
  have begun := phase_run_ne_fresh record.exchange number view.now
  constructor
  · have late := (ran_rest number { view with jobs := jobs }
      (record.exchange.run number view.now) moments).2.1
    rw [effects, lateTicks_append, reports.lateTicks, mute.lateTicks, late_of_ran queue,
      uploading.late] at late
    exact late
  · exact fun fresh => absurd fresh begun
  · intro transport deadline phase
    obtain ⟨sink, left, carries⟩ := waiting transport deadline phase
    refine ⟨sink, back, left, carries, ?_⟩
    rw [reported, split, List.append_assoc]
  · intro phase status
    rw [reported, split, ended phase status, List.append_nil]

end Uploading

theorem uploading {view : View} {number : Nat} (reached : view.Reachable number) {record : Record}
    (found : view.record = some record) (wanted : record.exchange.plan.wantsProgress = true)
    {result : Except String RawResponse} {ticks : List Progress} {delay : Nat}
    (carries : Carries result ticks delay record.exchange.plan.script) :
    Uploading result ticks view record := by
  -- What the request wants and what its script carries depend on its plan, which no step changes:
  -- the motive takes both as hypotheses, so that they are known of the record before each step.
  refine reached.acts_induction (motive := fun view record =>
    record.exchange.plan.wantsProgress = true →
      Carries result ticks delay record.exchange.plan.script →
        Uploading result ticks view record) ?_ ?_ found wanted carries
  · intro view plan tidy absent _ _
    obtain ⟨jobs, -, timers⟩ := tidy absent
    exact ⟨by simp [late, jobs, timers], fun _ => ⟨rfl, rfl⟩, nofun, nofun⟩
  · intro before left after right earlier there _ acts ih wanted carries
    cases acts with
    | interrupt =>
      have kin := left.exchange.alike_interrupt.kin
      have previous := ih (by rwa [← kin.plan]) (by rwa [← kin.plan])
      exact previous.extend kin (stir_rest number before _).2.1 [_] _ rfl
        (List.forall_mem_singleton.2 rfl)
    | callBack =>
      have kin := left.exchange.alike_wake.kin
      have previous := ih (by rwa [← kin.plan]) (by rwa [← kin.plan])
      exact previous.extend kin (stir_rest number before _).2.1 [] 0
        (List.append_nil _).symm (List.forall_mem_nil _)
    | @run jobs moments queue told =>
      have plan := left.exchange.run_plan number before.now
      rw [plan] at wanted carries
      have previous := ih wanted carries
      obtain ⟨ledger, accounts⟩ := Ledger.exists_accounts earlier there
      cases closed : left.exchange.isOver with
      | false => exact previous.ran accounts wanted carries closed queue told
      | true =>
        have idle := run_of_over closed number before.now
        have late := (ran_rest number { before with jobs := jobs }
          (left.exchange.run number before.now) moments).2.1
        rw [late_of_ran queue] at late
        refine previous.extend ?_ ?_ moments before.now rfl ?_
        · rw [idle]
          exact ⟨rfl, rfl, rfl⟩
        · rw [late, idle]
          rfl
        · rw [idle] at told
          cases told
          exact List.forall_mem_nil _
    | postpone queue =>
      have previous := ih wanted carries
      exact previous.extend (.refl _) (late_postponed queue) [] 0
        (List.append_nil _).symm (List.forall_mem_nil _)
    | @reportLate progress jobs delay queue =>
      have kin := (left.exchange.kin_report progress).trans (kin_release _)
      have previous := ih (by rwa [← kin.plan]) (by rwa [← kin.plan])
      -- A script that carries an upload leaves no tick to be reported late.
      cases previous.late.symm.trans (late_of_reported queue)
    | elapse =>
      have previous := ih wanted carries
      exact ⟨previous.late, previous.fresh, previous.waiting, previous.ended⟩
    | @ring front back timers =>
      have kin := left.exchange.alike_wake.kin
      have previous := ih (by rwa [← kin.plan]) (by rwa [← kin.plan])
      have late := (stir_rest number { before with timers := front ++ back } Exchange.wake).2.1
      exact previous.extend kin (late.trans (late_withoutRing timers)) [] 0
        (List.append_nil _).symm (List.forall_mem_nil _)
    | fall timers first =>
      exact (ih wanted carries).extend (.refl _) (late_fallen timers) [] 0
        (List.append_nil _).symm (List.forall_mem_nil _)

end View

/-- Nothing is reported to a request that wants no progress. -/
theorem reports_of_unwanted {view : View} {number : Nat} (reached : view.Reachable number)
    {record : Record} (found : view.record = some record)
    (unwanted : record.exchange.plan.wantsProgress = false) : record.reports = [] := by
  have silent := (unreported reached found unwanted).history
  refine List.filterMap_eq_nil_iff.2 fun entry member => ?_
  have present := (List.takeWhile_prefix _).subset member
  rw [silent entry.2 (List.mem_map_of_mem present)]
  rfl

/-! ### How an upload ends -/

section

variable {schedule : Schedule} {number : Nat} {record : Record}

/-- A request without a deadline that nobody interrupts ends with the outcome of what its script
carries, after all the progress that was reported. -/
theorem outcomes_of_carries (reached : schedule.Reachable)
    (found : schedule.records[number]? = some record)
    (attended : record.exchange.plan.mode.Attended)
    (addressed : record.exchange.plan.destination ≠ "")
    (untimed : record.exchange.plan.timeout = 0) (calm : .interrupted true ∉ record.moments)
    {result : Except String RawResponse} {ticks : List Progress} {delay start : Nat}
    (carries : Carries result ticks delay record.exchange.plan.script)
    (began : record.start? = some start) (past : start + delay < schedule.now) :
    record.exchange.phase = .ended ∧ record.exchange.status = statusOf result ∧
      ∃ final, Outcome.ofResult?
          (Response.classify record.exchange.plan.options.kind delay result) = some final ∧
        record.outcomes = record.reports.map (fun report => .progress report.2) ++ [final] := by
  have there := reached.view number
  obtain ⟨ledger, accounts⟩ := Ledger.exists_accounts there found
  obtain ⟨yields, course⟩ := carries.course?
  have fate := (Plan.fate?_of_addressed addressed).trans
    (Plan.ending?_of_returns course (.inl untimed))
  have meets := meets_fate reached found (fun tied => absurd untimed tied.2.1) calm began
  rw [fate] at meets
  have closed : record.exchange.isOver = true := by
    by_contra running
    exact Nat.not_lt.2 (meets.running (eq_false_of_ne_true running)) past
  obtain ⟨-, status, -⟩ := meets.closed closed
  obtain ⟨final, terminal, outcomes⟩ := accounts.outcomes_of_over attended closed calm
  obtain ⟨own, member, same⟩ := accounts.result_of_outcome (by simp [outcomes]) terminal
  obtain ⟨⟨instant, _⟩, present, rfl⟩ := List.mem_map.1 member
  obtain ⟨-, rfl⟩ := meets.only instant own present
  refine ⟨?_, status, final, same, ?_⟩
  · unfold isOver at closed
    split at closed
    · assumption
    · cases closed
    · cases closed
  · rw [outcomes, (keepsProgress there found attended).ended closed calm]

end

/-! ### Sends over a network -/

namespace Network

theorem contentType?_json :
    Server.contentType? [("Content-type", Utf8.encode "application/json")] =
      some "application/json" := by
  have own : Ascii.sameName "Content-type" "content-type" = true := by
    simp [Ascii.sameName, Ascii.lower, ← String.toList_inj]
  have plain : ∀ octet ∈ Utf8.encode "application/json", Ascii.isFieldOctet octet = true := by
    decide +kernel
  simpa [Server.contentType?, own, Utf8.decode?_encode] using plain

section

variable {link : Link} {connection : Connection} {request : Request} {url : Url}

theorem resolve_empty : (resolve "").toOption = none := by decide +kernel

/-- No request without a destination gets over the network. -/
theorem addressed_of_route (routed : route link request = .ok (url, connection)) :
    request.url ≠ "" := by
  intro nowhere
  have unresolved := resolve_empty
  rw [route, nowhere] at routed
  cases resolved : resolve "" with
  | ok url =>
    rw [resolved] at unresolved
    cases unresolved
  | error fault =>
    rw [resolved] at routed
    split at routed <;> cases routed

theorem Transmission.carries (transmission : Transmission) :
    Carries transmission.result transmission.progress transmission.delay transmission.script := by
  obtain ⟨received, ticks, delay, result, store⟩ := transmission
  induction ticks with
  | nil =>
    cases result with
    | ok response => exact .sleep delay (.responds response)
    | error message => exact .sleep delay (.fails message)
  | cons tick ticks ih => exact .tick tick ih

end

/-- The transport of a send does what the network does, with whatever waits in between, and by `now`
it returned: nothing interrupted it, and it had no deadline. -/
structure Sent (link : Link) (chunkSize : Nat) (store : Store) (now : Nat) (record : Record) :
    Prop where
  attended : record.exchange.plan.mode.Attended
  untimed : record.exchange.plan.timeout = 0
  calm : .interrupted true ∉ record.moments
  carried : ∃ delay start,
    Carries (transmit link chunkSize store record.exchange.plan.request
        record.exchange.plan.wantsProgress).result
      (transmit link chunkSize store record.exchange.plan.request
        record.exchange.plan.wantsProgress).progress delay record.exchange.plan.script ∧
    record.start? = some start ∧ start + delay < now

section

variable (link : Link) (chunkSize patience : Nat) (store : Store) (plan : Plan)

/-- The plan with the script of its transmission. -/
def scripted : Plan :=
  { plan with script := (transmit link chunkSize store plan.request plan.wantsProgress).script }

theorem leads_exchange : (Schedule.initial.start (scripted link chunkSize store plan)).Leads
    (exchange link chunkSize patience store plan).1 :=
  Schedule.leads_sleep _ patience

theorem reachable_start : (Schedule.initial.start plan).Reachable :=
  .single (.start Schedule.initial plan)

theorem reachable_exchange : (exchange link chunkSize patience store plan).1.Reachable :=
  (reachable_start _).leads (leads_exchange link chunkSize patience store plan)

variable {link chunkSize patience store plan} {record : Record}
  (found : (exchange link chunkSize patience store plan).1.records[0]? = some record)

include found

theorem plan_of_exchange : record.exchange.plan = scripted link chunkSize store plan := by
  have steps := (leads_exchange link chunkSize patience store plan).views (reachable_start _).view 0
  obtain ⟨later, -, present, same, -⟩ := steps.history rfl
  cases found.symm.trans present
  exact same

/-- A request that is started on a clock of its own is a send over the network, if it has no
deadline, is not interrupted and gets the time that it takes. -/
theorem sent_exchange (attended : plan.mode.Attended) (untimed : plan.timeout = 0)
    (patient : (transmit link chunkSize store plan.request plan.wantsProgress).delay < patience)
    (calm : record.exchange.interrupted = false) :
    Sent link chunkSize store (exchange link chunkSize patience store plan).1.now record := by
  have passes : patience ≠ 0 := Nat.ne_of_gt (Nat.zero_lt_of_lt patient)
  have same := plan_of_exchange found
  have began := Schedule.start?_of_leads .refl (leads_exchange link chunkSize patience store plan)
    found (Schedule.begun_of_sleep (reachable_start _) passes found)
  have now : (exchange link chunkSize patience store plan).1.now = patience := by
    simp only [exchange]
    rw [Schedule.sleep, if_neg passes]
    exact Nat.zero_add patience
  have carries := Transmission.carries
    (transmit link chunkSize store plan.request plan.wantsProgress)
  constructor
  case attended => rwa [same]
  case untimed => rwa [same]
  case calm =>
    exact not_interrupted (reachable_exchange link chunkSize patience store plan) found calm
  case carried =>
    refine ⟨(transmit link chunkSize store plan.request plan.wantsProgress).delay, 0, ?_, began, ?_⟩
    · rw [same]
      exact carries
    · rwa [now, Nat.zero_add]

end

/-- Two plans send the same request, and only the first wants progress. -/
structure Twins (streamed plain : Plan) : Prop where
  request : plain.request = streamed.request
  kind : plain.options.kind = streamed.options.kind
  wanted : streamed.options.progress = true
  unwanted : plain.options.progress = false

/-- A streamed upload to a URL and a plain one agree. -/
structure Agree (link : Link) (chunkSize : Nat) (store : Store) (url : Url)
    (streamed plain : Record) : Prop where
  /-- The server gets, answers and stores the same, and that is what it makes of the request as it
  was sent. -/
  served : Serves store (sending streamed.exchange.plan.request url)
      (transmit link chunkSize store streamed.exchange.plan.request true) ∧
    Serves store (sending streamed.exchange.plan.request url)
      (transmit link chunkSize store plain.exchange.plan.request false)
  /-- It was sent with the body of the sender. -/
  body : (sending streamed.exchange.plan.request url).body = streamed.exchange.plan.body.bytes
  /-- It was sent with the content type of every request. -/
  labelled : Server.contentType? (sending streamed.exchange.plan.request url).headers =
    some "application/json"
  /-- There is one tick for each chunk. -/
  ticks : Upload.Ticks chunkSize streamed.exchange.plan.body.bytes
    (Upload.progress chunkSize streamed.exchange.plan.body.bytes)
  /-- Both requests got their response and are over. -/
  answered : streamed.exchange.isOver = true ∧ streamed.exchange.status = .responded ∧
    plain.exchange.isOver = true ∧ plain.exchange.status = .responded
  /-- The callback of the first received the ticks and then a terminal outcome, that of the second a
  terminal outcome alone.  But for time and date both are the outcome of the server's reply. -/
  outcomes : ∃ final last reply, final.isTerminal = true ∧ last.isTerminal = true ∧
    Outcome.ofResult? (Response.classify streamed.exchange.plan.options.kind 0
      (.ok (Server.serve store (sending streamed.exchange.plan.request url)).1.response)) =
        some reply ∧
    final.timeless = reply.timeless ∧ last.timeless = reply.timeless ∧
    streamed.outcomes =
      (Upload.progress chunkSize streamed.exchange.plan.body.bytes).map .progress ++ [final] ∧
    plain.outcomes = [last]

/-- What a send that wants progress, or wants none, comes to if it is served. -/
theorem Sent.outcomes {schedule : Schedule} (reached : schedule.Reachable) {number : Nat}
    {record : Record} (found : schedule.records[number]? = some record) {link : Link}
    {chunkSize : Nat} {store : Store} (sent : Sent link chunkSize store schedule.now record)
    {request : ServerRequest} (addressed : record.exchange.plan.destination ≠ "")
    (serves : Serves store request (transmit link chunkSize store record.exchange.plan.request
      record.exchange.plan.wantsProgress))
    (quiet : record.exchange.plan.wantsProgress = false →
      (transmit link chunkSize store record.exchange.plan.request false).progress = []) :
    record.exchange.isOver = true ∧ record.exchange.status = .responded ∧
      ∃ final reply, final.isTerminal = true ∧
        Outcome.ofResult? (Response.classify record.exchange.plan.options.kind 0
          (.ok (Server.serve store request).1.response)) = some reply ∧
        final.timeless = reply.timeless ∧
        record.outcomes = (transmit link chunkSize store record.exchange.plan.request
          record.exchange.plan.wantsProgress).progress.map .progress ++ [final] := by
  obtain ⟨attended, untimed, calm, delay, start, carries, began, past⟩ := sent
  obtain ⟨response, result, alike⟩ := serves.answered
  obtain ⟨ended, status, final, same, outcomes⟩ := outcomes_of_carries reached found attended
    addressed untimed calm carries began past
  have reports : record.reports.map Prod.snd = (transmit link chunkSize store
      record.exchange.plan.request record.exchange.plan.wantsProgress).progress := by
    cases wanted : record.exchange.plan.wantsProgress with
    | true =>
      rw [wanted] at carries status
      exact (View.uploading (reached.view number) found wanted carries).ended ended status
    | false =>
      rw [reports_of_unwanted (reached.view number) found wanted, quiet wanted]
      rfl
  have timeless := Outcome.timeless_classify alike record.exchange.plan.options.kind delay 0
  rw [← result, same] at timeless
  obtain ⟨reply, known, equal⟩ := Option.map_eq_some_iff.1 timeless.symm
  refine ⟨by simp [isOver, ended], by rw [status, result]; rfl, final, reply,
    Outcome.isTerminal_of_ofResult? same, known, equal.symm, ?_⟩
  rw [outcomes, ← reports, List.map_map]
  rfl

theorem wantsProgress_of_attended {plan : Plan} (attended : plan.mode.Attended) :
    plan.wantsProgress = plan.options.progress := by
  rw [Plan.wantsProgress]
  split
  · rfl
  · rename_i fetch
    rw [fetch] at attended
    exact attended.elim

/-- Two sends of one request over a connection that delivers it to a handler which takes its body,
one of them streamed with its progress reported, agree: the server gets, answers and stores the
same, and the callbacks receive the same but for the progress. -/
theorem streamed_and_plain_uploads_agree {left right : Schedule} (reached : left.Reachable)
    (there : right.Reachable) {first second : Nat} {streamed plain : Record}
    (found : left.records[first]? = some streamed) (present : right.records[second]? = some plain)
    (twins : Twins streamed.exchange.plan plain.exchange.plan) {link : Link} {chunkSize : Nat}
    {store : Store} (streams : Sent link chunkSize store left.now streamed)
    (sends : Sent link chunkSize store right.now plain) {url : Url} {connection : Connection}
    (routed : route link streamed.exchange.plan.request = .ok (url, connection))
    (delivers : connection.Delivers chunkSize streamed.exchange.plan.request url)
    (reads : Server.readsBody streamed.exchange.plan.request.method.name url.target = true)
    (short : streamed.exchange.plan.request.body.length ≤ Server.bodyLimit) :
    Agree link chunkSize store url streamed plain := by
  obtain ⟨request, kind, wanted, unwanted⟩ := twins
  have streaming := (wantsProgress_of_attended streams.attended).trans wanted
  have whole := (wantsProgress_of_attended sends.attended).trans unwanted
  have addressed := addressed_of_route routed
  have serves := serves_of_delivers routed delivers store
  have progress := progress_of_delivers routed delivers reads short store
  obtain ⟨ended, responded, final, reply, terminal, known, same, outcomes⟩ :=
    streams.outcomes reached found addressed (serves _) (fun _ => progress false)
  obtain ⟨closed, answered, last, _, ends, also, alike, ending⟩ :=
    sends.outcomes there present (by rw [← request] at addressed; exact addressed)
      (by rw [request]; exact serves _) (fun _ => by rw [request]; exact progress false)
  rw [kind] at also
  cases known.symm.trans also
  rw [streaming, progress] at outcomes
  rw [whole, request, progress] at ending
  constructor
  case served =>
    rw [request]
    exact ⟨serves true, serves false⟩
  case body => rfl
  case labelled =>
    rw [sending, incoming, List.append_nil]
    exact contentType?_json
  case ticks => exact Upload.ticks_progress _ _
  case answered => exact ⟨ended, responded, closed, answered⟩
  case outcomes => exact ⟨final, last, reply, terminal, ends, known, same, alike, outcomes, ending⟩

/-- A body of three octets is sent to the route that reports the length of what it gets. -/
def measured (progress : Bool) : Plan :=
  ⟨.send (.present none), "http://127.0.0.1/length", .octets [1, 2, 3], 0,
    ⟨.json, .post, progress⟩, []⟩

/-- Its request. -/
def measuring : Request :=
  ⟨.post, "http://127.0.0.1/length", [("Content-type", "application/json")], [1, 2, 3]⟩

/-- Its destination. -/
def measure : Url :=
  ⟨"http", "", none, some "127.0.0.1", none, "/length", none, none⟩

/-- The network over which it goes. -/
def nearby : Link :=
  .serving 80 (.http1 "Thu, 01 Jan 1970 00:00:00 GMT")

/-- The answer of that route. -/
def threeOctets : RawResponse :=
  ⟨200, [("content-length", "12"), ("content-type", "application/json"),
      ("date", "Thu, 01 Jan 1970 00:00:00 GMT")],
    .octets (Utf8.encode "\x7b\"length\":3\x7d")⟩

theorem route_measuring :
    route nearby measuring = .ok (measure, .http1 "Thu, 01 Jan 1970 00:00:00 GMT") := by
  have token : Method.isToken .post = true := by decide +kernel
  have found : (resolve measuring.url).toOption = some measure := by decide +kernel
  have connected : nearby.connect measure = .ok (.http1 "Thu, 01 Jan 1970 00:00:00 GMT") := rfl
  cases resolved : resolve measuring.url with
  | ok url =>
    rw [resolved] at found
    cases found
    simp only [route, resolved, bind, Except.bind, connected]
    rfl
  | error fault =>
    rw [resolved] at found
    cases found

theorem delivers_measuring (chunkSize : Nat) (date : String) :
    (Connection.http1 date).Delivers chunkSize measuring measure :=
  (Connection.delivers_http1_iff date).2 (.inl (by decide))

theorem transmit_measuring (progress : Bool) :
    (transmit nearby 2 .empty measuring progress).progress =
        (if progress then [⟨2, some 3⟩, ⟨3, some 3⟩] else []) ∧
      (transmit nearby 2 .empty measuring progress).delay = 0 ∧
      (transmit nearby 2 .empty measuring progress).result = .ok threeOctets := by
  have delivers := delivers_measuring 2 "Thu, 01 Jan 1970 00:00:00 GMT"
  have reads : Server.readsBody measuring.method.name measure.target = true := by decide +kernel
  have ticks : Upload.progress 2 measuring.body = [⟨2, some 3⟩, ⟨3, some 3⟩] := by
    simp [measuring, Upload.progress, Upload.chunks, Upload.effectiveSize, Upload.chunksOfSucc,
      Upload.progressFrom]
  have reply : (Server.serve .empty (sending measuring measure)).1 =
      ⟨200, [("content-length", "12"), ("content-type", "application/json")],
        Utf8.encode "\x7b\"length\":3\x7d", 0⟩ := by
    decide +kernel
  refine ⟨?_, ?_, ?_⟩
  · rw [progress_of_delivers route_measuring delivers reads (by decide), ticks]
  · rw [transmit_of_delivers route_measuring delivers]
    dsimp only
    rw [reply]
  · rw [transmit_of_delivers route_measuring delivers]
    dsimp only
    rw [reply]
    cases progress <;> rfl

theorem scripted_measured (progress : Bool) : scripted nearby 2 .empty (measured progress) =
    { measured progress with
      script := (if progress then [.tick ⟨2, some 3⟩, .tick ⟨3, some 3⟩] else []) ++
        [.sleep 0, .respond threeOctets] } := by
  have wants : (measured progress).wantsProgress = progress := rfl
  have request : (measured progress).request = measuring := rfl
  obtain ⟨ticks, delay, result⟩ := transmit_measuring progress
  rw [scripted, wants, request, Transmission.script, ticks, delay, result]
  cases progress <;> rfl

theorem receipts_measured (progress : Bool) : ∃ record,
    (exchange nearby 2 9 .empty (measured progress)).1.records[0]? = some record ∧
      record.exchange.interrupted = false ∧
      record.receipts = if progress then [(0, ⟨2, some 3⟩), (0, ⟨3, some 3⟩)] else [] := by
  have runs : (exchange nearby 2 9 .empty (measured progress)).1 =
      (Schedule.initial.start (scripted nearby 2 .empty (measured progress))).sleep 9 := rfl
  rw [runs, scripted_measured]
  cases progress with
  | true => exact ⟨_, rfl, rfl, rfl⟩
  | false => exact ⟨_, rfl, rfl, rfl⟩

theorem streams_in_two_chunks : ∃ streamed plain,
    (exchange nearby 2 9 .empty (measured true)).1.records[0]? = some streamed ∧
      (exchange nearby 2 9 .empty (measured false)).1.records[0]? = some plain ∧
      Agree nearby 2 .empty measure streamed plain ∧
      streamed.receipts = [(0, ⟨2, some 3⟩), (0, ⟨3, some 3⟩)] ∧ plain.receipts = [] := by
  obtain ⟨streamed, found, calm, receipts⟩ := receipts_measured true
  obtain ⟨plain, present, still, none⟩ := receipts_measured false
  have soon (progress : Bool) : (transmit nearby 2 .empty (measured progress).request
      (measured progress).wantsProgress).delay < 9 :=
    Nat.lt_of_le_of_lt (Nat.le_of_eq (transmit_measuring progress).2.1) (by decide)
  have streams := sent_exchange found trivial rfl (soon true) calm
  have sends := sent_exchange present trivial rfl (soon false) still
  have first := plan_of_exchange found
  have second := plan_of_exchange present
  have request : streamed.exchange.plan.request = measuring := by rw [first]; rfl
  refine ⟨streamed, plain, found, present,
    streamed_and_plain_uploads_agree (reachable_exchange ..) (reachable_exchange ..) found present
      ⟨by rw [first, second]; rfl, by rw [first, second]; rfl, by rw [first]; rfl,
        by rw [second]; rfl⟩ streams sends (request ▸ route_measuring)
      (request ▸ delivers_measuring 2 _) (by rw [request]; decide +kernel)
      (by rw [request]; decide), receipts, none⟩

end Network
end HttpExchange
