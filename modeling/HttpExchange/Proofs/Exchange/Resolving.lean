import HttpExchange.Proofs.Exchange.Ending
import HttpExchange.Proofs.Exchange.Poll
import HttpExchange.Proofs.Outcome.Classification

/-!
# Where a result comes from

What a script returns does not depend on the runs in which it is played.
-/

namespace HttpExchange

/-- What a script returns, unless it hangs. -/
def Course.result? (script : List Step) : Option (Except String RawResponse) :=
  (of? script).map result

/-- What a transport returns that waits so before the rest of its script, unless it hangs. -/
def Wait.result? (script : List Step) : Wait → Option (Except String RawResponse)
  | clock _ | turn => Course.result? script
  | forever => none

/-- What a transport returns that got so far, unless it hangs. -/
def Stop.result? : Stop → Option (Except String RawResponse)
  | waits script wait _ => wait.result? script
  | returns result => some result

/-- What becomes of the transport of a request that ends without an interruption, and the result of
the request. -/
inductive Plan.Settles (plan : Plan) : TransportStatus → RequestResult → Prop where
  /-- There is no destination, and the transport is not called. -/
  | unaddressed (nowhere : plan.destination = "") :
      Settles plan .idle (.error (.transport "destination is empty"))
  /-- The transport returned. -/
  | returned (addressed : plan.destination ≠ "") {returned : Except String RawResponse}
      (returns : Course.result? plan.script = some returned) {elapsed : Nat}
      {result : RequestResult}
      (classified : Classified plan.options.kind elapsed returned result) :
      Settles plan (Exchange.statusOf returned) result
  /-- The transport was dropped at the deadline. -/
  | expired (addressed : plan.destination ≠ "") (timed : plan.timeout ≠ 0) :
      Settles plan .dropped (.error .timeout)

/-- What a transport that waits, and its deadline, have to do with the plan. -/
structure Plan.Ahead (plan : Plan) (transport : Transport) (deadline : Option Deadline) :
    Prop where
  addressed : plan.destination ≠ ""
  /-- What it will return is what the whole script returns. -/
  result? : transport.wait.result? transport.script = Course.result? plan.script
  timed : deadline.isSome = true → plan.timeout ≠ 0

/-- What a run leads to. -/
inductive Plan.Resolves (plan : Plan) (turn : Exchange.Turn) : Prop where
  /-- The transport is waited for. -/
  | waits {transport : Transport} {deadline : Option Deadline}
      (waiting : turn.exchange.phase = .waiting transport deadline)
      (ahead : plan.Ahead transport deadline)
  /-- It is over, and unless it was interrupted a result is handed over. -/
  | ends (closed : turn.exchange.phase = .ended)
      (settles : turn.exchange.interrupted = false → ∃ result,
        plan.Settles turn.exchange.status result ∧
          HandsOver plan.mode result fun moment => .moment moment ∈ turn.effects)

theorem Plan.Resolves.after {plan : Plan} {turn : Exchange.Turn} (resolves : plan.Resolves turn)
    (earlier : List Effect) : plan.Resolves (turn.after earlier) := by
  cases resolves with
  | waits waiting ahead => exact .waits waiting ahead
  | ends closed settles =>
    refine .ends closed fun calm => ?_
    obtain ⟨result, settled, hands⟩ := settles calm
    exact ⟨result, settled, hands.imp fun _ => List.mem_append_right earlier⟩

namespace Exchange

/-! ### Polling -/

/-- To play a script does not change what it returns. -/
theorem result?_play (self now allowance : Nat) (script : List Step) (sink : Bool)
    (exchange : Exchange) :
    (play self now allowance script sink exchange).stop.result? = Course.result? script := by
  induction script generalizing allowance sink exchange with
  | nil => rfl
  | cons step script ih =>
    cases step with
    | tick progress | lateTick delay progress | abort request =>
      rw [play]
      split
      · exact ih _ _ _
      · exact ih _ _ _
    | dropSink => exact ih _ _ _
    | sleep duration =>
      have delayed : Course.result? (.sleep duration :: script) = Course.result? script :=
        Option.map_map ..
      rw [play, delayed]
      split
      · exact delayed
      · split
        · exact ih _ _ _
        · rfl
    | yield =>
      have yielded : Course.result? (.yield :: script) = Course.result? script :=
        Option.map_map ..
      exact yielded.symm
    | hang | respond response | fail message => rfl

theorem result?_poll (exchange : Exchange) (self now allowance : Nat) (transport : Transport) :
    (exchange.poll self now allowance transport).stop.result? =
      transport.wait.result? transport.script := by
  have play (allowance : Nat) := result?_play self now allowance transport.script transport.sink
    exchange
  unfold poll
  dsimp only
  split
  · rename_i turn
    rw [play, turn]
    rfl
  · rfl
  · rename_i instant clock
    rw [clock]
    split
    · rfl
    · split
      · exact play _
      · rfl

/-! ### Ending -/

section

variable {exchange : Exchange} {plan : Plan}

/-- A result that settles a request is handed over. -/
theorem resolves_complete (own : exchange.plan = plan) {status : TransportStatus}
    {result : RequestResult} (proper : Outcome.ofResult? result ≠ none)
    (settles : plan.Settles status result) :
    plan.Resolves (complete { exchange with status := status } result) := by
  subst own
  refine .ends (complete_phase _ _) fun calm => ⟨result, ?_, handsOver_complete _ proper calm⟩
  rw [(complete_kept _ _).2]
  exact settles

theorem resolves_await (own : exchange.plan = plan) {now allowance : Nat} {transport : Transport}
    {deadline : Option Deadline} (ahead : plan.Ahead transport deadline) :
    plan.Resolves (exchange.await now allowance transport deadline) := by
  have waits (isSet : Deadline → Deadline) (effects : List Effect) : plan.Resolves
      ⟨{ exchange with phase := .waiting transport (deadline.map isSet) }, effects⟩ :=
    .waits rfl ⟨ahead.addressed, ahead.result?, by simpa using ahead.timed⟩
  simp only [await]
  split
  · exact waits id _
  · split
    · exact waits id _
    · split
      · have proper : Outcome.ofResult? (.error .timeout) ≠ none := by simp [Outcome.ofResult?]
        exact resolves_complete own proper (.expired ahead.addressed (ahead.timed rfl))
      · exact waits ({ · with isSet := true }) _

/-- An exchange ends with what its transport returns, or waits on for it. -/
theorem resolves_proceed (own : exchange.plan = plan) {now allowance since : Nat}
    {deadline : Option Deadline} {stop : Stop} (addressed : plan.destination ≠ "")
    (result? : stop.result? = Course.result? plan.script)
    (timed : deadline.isSome = true → plan.timeout ≠ 0) :
    plan.Resolves (exchange.proceed now allowance since deadline stop) := by
  cases stop with
  | returns result =>
    have classified := classified_classify exchange.plan.options.kind (now - since) result
    subst own
    exact resolves_complete rfl classified.ofResult?_ne_none
      (.returned addressed result?.symm classified)
  | waits script wait sink => exact resolves_await own ⟨addressed, result?, timed⟩

/-! ### Runs -/

theorem resolves_goOn (own : exchange.plan = plan) (self now allowance : Nat)
    {transport : Transport} {deadline : Option Deadline} (ahead : plan.Ahead transport deadline) :
    plan.Resolves (exchange.goOn self now allowance transport deadline) := by
  have polled := (exchange.kin_lookOut allowance).trans
    ((exchange.lookOut allowance).1.kin_poll self now (exchange.lookOut allowance).2 transport)
  have result? := (result?_poll (exchange.lookOut allowance).1 self now
    (exchange.lookOut allowance).2 transport).trans ahead.result?
  exact (resolves_proceed (polled.plan.trans own) ahead.addressed result? ahead.timed).after _

theorem timed_of_deadline? {now : Nat} (timed : (plan.deadline? now).isSome = true) :
    plan.timeout ≠ 0 := by
  intro untimed
  rw [Plan.deadline?, if_pos untimed] at timed
  cases timed

theorem resolves_firstRun (own : exchange.plan = plan) (self now : Nat)
    (idle : exchange.status = .idle) : plan.Resolves (exchange.firstRun self now) := by
  rw [firstRun]
  split
  · rename_i interrupted
    refine .ends rfl fun calm => ?_
    cases interrupted.symm.trans calm
  · split
    · rename_i nowhere
      have proper : Outcome.ofResult? (.error (.transport "destination is empty")) ≠ none := by
        simp [Outcome.ofResult?]
      have ended := resolves_complete own proper
        (.unaddressed (by rwa [String.isEmpty_iff, own] at nowhere))
      rwa [← idle] at ended
    · rename_i somewhere
      have ahead : plan.Ahead (exchange.called now) (exchange.plan.deadline? now) := by
        subst own
        exact ⟨by simpa using somewhere, rfl, timed_of_deadline?⟩
      have running : { exchange with status := .running }.plan = plan := own
      exact (resolves_goOn running self now fullAllowance ahead).after _

theorem resolves_laterRun (own : exchange.plan = plan) (self now : Nat) {transport : Transport}
    {deadline : Option Deadline} (waiting : exchange.phase = .waiting transport deadline)
    (ahead : plan.Ahead transport deadline) :
    plan.Resolves (exchange.laterRun self now transport deadline) := by
  have alike := alike_deliverTicks fullAllowance exchange.ticks exchange
  rw [laterRun]
  generalize deliverTicks fullAllowance exchange.ticks exchange = delivery at *
  dsimp only
  split
  · exact .waits (alike.phase.trans waiting) ahead
  · split
    · rename_i interrupted
      refine .ends rfl fun calm => ?_
      cases interrupted.symm.trans calm
    · exact (resolves_goOn (alike.plan.trans own) self now _ ahead).after _

/-- A run of an exchange whose transport is still to be called, or is on the way. -/
theorem resolves_run (self now : Nat)
    (fresh : exchange.phase = .fresh → exchange.status = .idle)
    (ahead : ∀ transport deadline, exchange.phase = .waiting transport deadline →
      exchange.plan.Ahead transport deadline)
    (present : exchange.isOver = false) : exchange.plan.Resolves (exchange.run self now) := by
  cases phase : exchange.phase with
  | fresh =>
    rw [run_of_fresh phase]
    have own : { exchange with woken := false }.plan = exchange.plan := rfl
    exact (resolves_firstRun own self now (fresh phase)).after _
  | waiting transport deadline =>
    rw [run_of_waiting phase]
    have own : { exchange with woken := false }.plan = exchange.plan := rfl
    exact (resolves_laterRun own self now phase (ahead transport deadline phase)).after _
  | ended => simp [isOver, phase] at present

theorem plan_of_poll? {poll : Poll} {now : Nat} (polls : exchange.poll? now = some poll) :
    poll.exchange.plan = exchange.plan := by
  cases phase : exchange.phase with
  | ended => simp [poll?, phase] at polls
  | fresh =>
    rw [poll?_of_fresh phase] at polls
    split at polls
    · cases polls
      exact (kin_lookOut _ _).plan
    · cases polls
  | waiting transport deadline =>
    rw [poll?_of_waiting phase] at polls
    dsimp only at polls
    split at polls
    · cases polls
    · cases polls
      exact (kin_lookOut _ _).plan.trans (alike_deliverTicks _ _ _).plan

/-- A transport that returns in a run ends the exchange with the classification of what it returned,
which is handed over if there was no interruption. -/
theorem handsOver_run_of_returned {self now : Nat} {returned : Except String RawResponse}
    (returns : exchange.returned? self now = some returned)
    (calm : (exchange.run self now).exchange.interrupted = false) :
    ∃ elapsed result, Classified exchange.plan.options.kind elapsed returned result ∧
      HandsOver exchange.plan.mode result
        fun moment => .moment moment ∈ (exchange.run self now).effects := by
  obtain ⟨poll, polls, returned⟩ := Option.bind_eq_some_iff.1 returns
  have plan : (poll.played self now).exchange.plan = exchange.plan :=
    (kin_poll _ _ _ _ _).plan.trans (plan_of_poll? polls)
  rw [run_eq, polls] at calm ⊢
  simp only [Option.elim_some, Poll.turn] at calm ⊢
  simp only [Poll.returned?] at returned
  split at returned
  · rename_i result stop
    obtain rfl := Option.some.inj returned
    rw [stop] at calm ⊢
    have classified := classified_classify exchange.plan.options.kind
      (now - poll.transport.since) result
    refine ⟨_, _, classified, ?_⟩
    rw [← plan] at classified ⊢
    exact (handsOver_complete _ classified.ofResult?_ne_none calm).imp
      fun _ => List.mem_append_right _
  · cases returned

end

end Exchange
end HttpExchange
