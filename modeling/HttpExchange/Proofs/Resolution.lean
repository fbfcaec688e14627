import HttpExchange.Proofs.Completion
import HttpExchange.Proofs.Exchange.Resolving
import HttpExchange.Proofs.Transport

/-!
# What a request results in

A request that is not interrupted results in the classification of what its transport returned,
unless it has no destination or meets its deadline.
-/

namespace HttpExchange

open View Exchange

/-! ### Between two runs -/

/-- What is known between two runs of how a request ends. -/
structure Record.Resolved (record : Record) : Prop where
  fresh : record.exchange.phase = .fresh → record.exchange.status = .idle
  ahead : ∀ transport deadline, record.exchange.phase = .waiting transport deadline →
    record.exchange.plan.Ahead transport deadline
  /-- A request that is over and was not interrupted has a result, which was handed over. -/
  settled : record.exchange.isOver = true → .interrupted true ∉ record.moments →
    ∃ result, record.exchange.plan.Settles record.exchange.status result ∧
      HandsOver record.exchange.plan.mode result (· ∈ record.moments)

namespace Record.Resolved

variable {left right : Record}

/-- What is done to an exchange between two runs does not decide how it ends. -/
theorem extend (resolved : left.Resolved) (kin : Kin left.exchange right.exchange)
    {more : List Moment} (history : right.moments = left.moments ++ more) : right.Resolved := by
  obtain ⟨fresh, ahead, settled⟩ := resolved
  refine ⟨fun phase => ?_, fun transport deadline phase => ?_, fun closed calm => ?_⟩
  · rw [kin.status]
    exact fresh (kin.phase.symm.trans phase)
  · rw [kin.plan]
    exact ahead transport deadline (kin.phase.symm.trans phase)
  · rw [history, List.mem_append, not_or] at calm
    rw [kin.isOver] at closed
    obtain ⟨result, settles, hands⟩ := settled closed calm.1
    rw [kin.plan, kin.status, history]
    exact ⟨result, settles, hands.imp fun _ => List.mem_append_left _⟩

/-- A run leads to what its exchange resolves. -/
theorem ran (resolved : left.Resolved) {ledger : Ledger} {number now : Nat}
    {moments : List Moment} (told : Told (left.exchange.run number now).effects moments)
    (same : right.exchange = (left.exchange.run number now).exchange)
    (history : right.moments = left.moments ++ moments)
    (accounts : Ledger.Accounts ledger right) : right.Resolved := by
  cases closed : left.exchange.isOver with
  | true =>
    rw [run_of_over closed] at same
    refine resolved.extend ?_ history
    rw [same]
    exact ⟨rfl, rfl, rfl⟩
  | false =>
    have plan := left.exchange.run_plan number now
    have resolves := resolves_run number now resolved.fresh resolved.ahead closed
    rw [← same] at plan
    cases resolves with
    | @waits transport deadline waiting ahead =>
      rw [← same] at waiting
      refine ⟨fun phase => ?_, fun other due phase => ?_, fun closing => ?_⟩
      · cases phase.symm.trans waiting
      · cases phase.symm.trans waiting
        rwa [plan]
      · simp [isOver, waiting] at closing
    | ends ended settles =>
      rw [← same] at ended settles
      refine ⟨fun phase => ?_, fun other due phase => ?_, fun _ calm => ?_⟩
      · cases phase.symm.trans ended
      · cases phase.symm.trans ended
      · rw [← accounts.interrupted_iff] at calm
        obtain ⟨result, settled, hands⟩ := settles (eq_false_of_ne_true calm)
        rw [plan, history]
        exact ⟨result, settled, hands.imp fun _ member =>
          List.mem_append_right _ (told.mem member)⟩

end Record.Resolved

theorem exists_resolved {view : View} {number : Nat} (reached : view.Reachable number)
    {record : Record} (found : view.record = some record) : record.Resolved := by
  refine (reached.record_induction (motive := fun record =>
    (∃ ledger, Ledger.Accounts ledger record) ∧ record.Resolved) (fun plan => ?_) ?_ found).2
  · exact ⟨⟨_, Ledger.accounts_start plan⟩, fun _ => rfl, nofun, nofun⟩
  rintro now before after change ⟨⟨ledger, accounts⟩, resolved⟩
  obtain ⟨-, later, -, accounted, -⟩ := accounts.change change
  refine ⟨⟨later, accounted⟩, ?_⟩
  have history (more : List Moment) {exchange : Exchange} :
      (Record.mk exchange (before.history ++ more.map fun moment => (now, moment))).moments =
        before.moments ++ more := by
    simp [Record.moments, Function.comp_def]
  cases change with
  | none => exact resolved
  | wake => exact resolved.extend (alike_wake _).kin (List.append_nil _).symm
  | interrupt => exact resolved.extend (alike_interrupt _).kin (history [_])
  | report _ progress =>
    exact resolved.extend ((kin_report _ _).trans (kin_release _)) (history [_])
  | @run _ moments told => exact resolved.ran told rfl (history moments) accounted

/-! ### Classified -/

/-- What a request results in. -/
structure Record.IsClassified (number : Nat) (record : Record) : Prop where
  /-- A transport that returns in a run ends the request there, unless that was interrupted, with
  the classification of what it returned. -/
  yields : ∀ now returned, record.exchange.returned? number now = some returned →
    (record.exchange.run number now).exchange.interrupted = false →
      ∃ elapsed result, Classified record.exchange.plan.options.kind elapsed returned result ∧
        HandsOver record.exchange.plan.mode result fun moment =>
          .moment moment ∈ (record.exchange.run number now).effects
  /-- A request that is over and was not interrupted has a result: the classification of what its
  script returns, if it has a destination and was not given up at its deadline. -/
  settled : record.exchange.isOver = true → .interrupted true ∉ record.moments →
    ∃ result, record.exchange.plan.Settles record.exchange.status result ∧
      HandsOver record.exchange.plan.mode result (· ∈ record.moments)
  /-- No other result is ever known. -/
  only : ∀ result, .resolved result ∈ record.moments →
    record.exchange.isOver = true ∧ .interrupted true ∉ record.moments ∧
      record.exchange.plan.Settles record.exchange.status result
  /-- A terminal outcome is made of the result. -/
  received : ∀ outcome ∈ record.outcomes, outcome.isTerminal = true →
    ∃ result, .resolved result ∈ record.moments ∧ Outcome.ofResult? result = some outcome
  /-- So is what a fetch hands over. -/
  fetched : ∀ result, .event (.finished result) ∈ record.moments →
    .resolved result ∈ record.moments
  /-- A response has the header fields that the transport returned, and it and its outcome look a
  field up by its name up to ASCII case, the first one counting. -/
  headers : ∀ response, .resolved (.ok response) ∈ record.moments →
    ∃ raw, Course.result? record.exchange.plan.script = some (.ok raw) ∧
      response.headers = raw.headers ∧
      ∀ name, Headers.First name raw.headers (response.header? name) ∧
        ∀ outcome, Outcome.ofResult? (.ok response) = some outcome →
          Headers.First name raw.headers (outcome.header? name)

namespace Ledger.Accounts

variable {ledger : Ledger} {record : Record}

/-- A request with a result was not interrupted. -/
theorem calm_of_resolved (accounts : Accounts ledger record) {result : RequestResult}
    (member : .resolved result ∈ record.moments) : .interrupted true ∉ record.moments := by
  intro interrupted
  obtain ⟨first, present, resolved⟩ := List.mem_map.1 member
  obtain ⟨second, also, stopped⟩ := List.mem_map.1 interrupted
  have same := accounts.decides_unique present also (by rw [resolved]; rfl) (by rw [stopped]; rfl)
  cases resolved.symm.trans ((congrArg Prod.snd same).trans stopped)

/-- A request has one result. -/
theorem resolved_unique (accounts : Accounts ledger record) {first second : RequestResult}
    (member : .resolved first ∈ record.moments) (also : .resolved second ∈ record.moments) :
    first = second := by
  obtain ⟨left, present, resolved⟩ := List.mem_map.1 member
  obtain ⟨right, there, known⟩ := List.mem_map.1 also
  have same := accounts.decides_unique present there (by rw [resolved]; rfl) (by rw [known]; rfl)
  cases resolved.symm.trans ((congrArg Prod.snd same).trans known)
  rfl

/-- What a fetch hands over is its result. -/
theorem resolved_of_finished (accounts : Accounts ledger record) {result : RequestResult}
    (member : .event (.finished result) ∈ record.moments) : .resolved result ∈ record.moments := by
  obtain ⟨front, back, split⟩ := List.append_of_mem member
  have follows := accounts.follows
  rw [split] at follows ⊢
  obtain ⟨between, earlier, later⟩ := follows.split
  cases later with
  | cons first rest =>
    cases first with
    | finished => exact List.mem_append_left _ (earlier.mem_of_result nofun rfl)

end Ledger.Accounts

namespace Record.Resolved

variable {record : Record} {ledger : Ledger}

theorem only (resolved : record.Resolved) (accounts : Ledger.Accounts ledger record)
    {result : RequestResult} (member : .resolved result ∈ record.moments) :
    record.exchange.isOver = true ∧ .interrupted true ∉ record.moments ∧
      record.exchange.plan.Settles record.exchange.status result := by
  have calm := accounts.calm_of_resolved member
  obtain ⟨⟨instant, _⟩, present, rfl⟩ := List.mem_map.1 member
  have closed := accounts.over_of_resolved present
  -- The result that was handed over is the one that is known, as there is but one.
  obtain ⟨own, settles, hands⟩ := resolved.settled closed calm
  obtain rfl := accounts.resolved_unique hands.resolved member
  exact ⟨closed, calm, settles⟩

/-- A response comes from a response of the transport. -/
theorem headers (resolved : record.Resolved) (accounts : Ledger.Accounts ledger record)
    {response : Response} (member : .resolved (.ok response) ∈ record.moments) :
    ∃ raw, Course.result? record.exchange.plan.script = some (.ok raw) ∧
      response.headers = raw.headers := by
  obtain ⟨-, -, settles⟩ := resolved.only accounts member
  generalize record.exchange.status = status at settles
  cases settles with
  | returned addressed returns classified =>
    obtain ⟨raw, rfl, -, same⟩ := classified.headers rfl
    exact ⟨raw, returns, same⟩

end Record.Resolved

/-- Every request of every schedule results in the classification of what its transport returned. -/
theorem results_are_classified {schedule : Schedule} (reached : schedule.Reachable) {number : Nat}
    {record : Record} (found : schedule.records[number]? = some record) :
    record.IsClassified number := by
  have there := reached.view number
  obtain ⟨ledger, accounts⟩ := Ledger.exists_accounts there found
  have resolved := exists_resolved there found
  constructor
  case yields => exact fun now returned => handsOver_run_of_returned
  case settled => exact resolved.settled
  case only => exact fun result => resolved.only accounts
  case received => exact fun outcome => accounts.result_of_outcome
  case fetched => exact fun result => accounts.resolved_of_finished
  case headers =>
    intro response member
    obtain ⟨raw, returns, same⟩ := resolved.headers accounts member
    refine ⟨raw, returns, same, fun name => ?_⟩
    rw [Response.header?, same]
    refine ⟨raw.headers.first_value? name, ?_⟩
    rintro _ ⟨⟩
    rw [Outcome.header?, same]
    exact raw.headers.first_value? name

/-- Header fields of which two have one name. -/
def tags : Headers :=
  [("Content-Type", "text/plain"), ("X-Tag", "a"), ("x-tag", "b")]

/-- A value that was decoded on the way answers a request for octets. -/
def decodedOnTheWay : List Command :=
  [.start ⟨.send (.present none), "http://localhost/", .empty, 5, ⟨.raw, .post, true⟩,
    [.tick ⟨1, none⟩, .sleep 3, .respond ⟨200, tags, .decoded (.bool true)⟩]⟩, .sleep 9]

theorem takes_decoded_value_as_it_is : ∃ record,
    (Schedule.initial.after decodedOnTheWay).records[0]? = some record ∧ record.IsClassified 0 ∧
      record.outcomes = [.progress ⟨1, none⟩, .success (.json (.bool true)) 3 tags] ∧
      (Outcome.success (.json (.bool true)) 3 tags).header? "X-TAG" = some "a" :=
  ⟨_, rfl, @results_are_classified _ (Schedule.reachable_after decodedOnTheWay) 0 _ rfl, rfl,
    by simp [Outcome.header?, Headers.value?, tags, Ascii.sameName, Ascii.lower,
      ← String.toList_inj]⟩

end HttpExchange
