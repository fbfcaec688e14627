import HttpExchange.Proofs.Exchange.Ending
import HttpExchange.Proofs.Exchange.Poll

/-!
# Requests whose transport does not return at the deadline

Where the transport does not return in the instant of the deadline, every run keeps to the fate of
the plan (`fares_run_of_fresh`, `fares_run_of_waiting`).
-/

namespace HttpExchange

/-- How long a course takes, and what it leads to. -/
def Course.span (course : Course) : Nat × Except String RawResponse :=
  (course.delay, course.result)

namespace Plan

/-- The transport returns in the instant of the deadline. -/
def Tied (plan : Plan) : Prop :=
  plan.destination ≠ "" ∧ plan.timeout ≠ 0 ∧
    ∃ course, Course.of? plan.script = some course ∧ course.delay = plan.timeout

/-- The ending of a request that has no destination. -/
def rejecting : Ending :=
  ⟨0, .error (.transport "destination is empty"), .idle⟩

/-- How a request ends, if it does, that nobody interrupts. -/
def fate? (plan : Plan) : Option Ending :=
  if plan.destination.isEmpty then some rejecting else plan.ending?

theorem fate?_of_addressed {plan : Plan} (addressed : plan.destination ≠ "") :
    plan.fate? = plan.ending? :=
  if_neg (by simpa using addressed)

section

variable {plan : Plan} (addressed : plan.destination ≠ "") (untied : ¬ plan.Tied)

include addressed untied

/-- A transport that returns by the deadline is in time, as it does not return then. -/
theorem fate?_of_returns {course : Course} (returns : Course.of? plan.script = some course)
    (soon : plan.timeout ≠ 0 → course.delay ≤ plan.timeout) :
    plan.fate? = some (plan.returning course) := by
  rw [fate?_of_addressed addressed]
  refine ending?_of_returns returns ?_
  by_cases timed : plan.timeout = 0
  · exact .inl timed
  · have other : course.delay ≠ plan.timeout := fun same =>
      untied ⟨addressed, timed, course, returns, same⟩
    exact .inr (.inl (Nat.lt_of_le_of_ne (soon timed) other))

/-- A transport that does not return before the deadline is late, as it does not return then. -/
theorem fate?_of_expires (timed : plan.timeout ≠ 0)
    (late : ∀ course, Course.of? plan.script = some course → plan.timeout ≤ course.delay) :
    plan.fate? = some plan.expiring := by
  rw [fate?_of_addressed addressed]
  refine ending?_of_expires timed fun course returns inTime => ?_
  have least := late course returns
  rcases inTime with none | early | there
  · exact timed none
  · exact Nat.not_lt_of_le least early
  · exact untied ⟨addressed, timed, course, returns, there.1⟩

end

end Plan

/-- A transport got as far as `stop` at `now`, and what is ahead takes as long as a course. -/
def Stop.Spans (now : Nat) (course : Option Course) : Stop → Prop
  | .returns result => course.map Course.span = some (0, result)
  | .waits script wait _ => ∀ since sink,
      (Transport.course? now ⟨script, wait, since, sink⟩).map Course.span =
        course.map Course.span

theorem Course.span_map_yielded (course : Option Course) :
    (course.map Course.yielded).map Course.span = course.map Course.span := by
  rw [Option.map_map]
  rfl

theorem Course.map_delayed_zero (course : Option Course) :
    course.map (Course.delayed 0) = course := by
  rw [show Course.delayed 0 = id from funext Course.delayed_zero]
  exact Option.map_id'

namespace Exchange

theorem spans_play (self now allowance : Nat) (script : List Step) (sink : Bool)
    (exchange : Exchange) :
    (play self now allowance script sink exchange).stop.Spans now (Course.of? script) := by
  fun_induction play self now allowance script sink exchange with
  | case1 | case14 | case15 => rfl
  | case2 | case3 | case4 | case5 | case6 | case12 | case13 =>
    rename_i ih
    exact ih
  | case7 => exact fun _ _ => Course.span_map_yielded _
  | case8 allowance script sink exchange spent ih =>
    have same : Course.of? (.sleep 0 :: script) = Course.of? script :=
      Course.map_delayed_zero _
    rw [same]
    exact ih
  | case9 allowance duration script sink exchange =>
    intro since given
    have rest : now + duration - now = duration := Nat.add_sub_cancel_left now duration
    simp only [Transport.course?, Course.of?, rest]
  | case10 => exact fun _ _ => rfl
  | case11 => exact fun _ _ => rfl

theorem spans_poll (exchange : Exchange) (self now allowance : Nat) {transport : Transport}
    (ahead : ∀ instant, transport.wait = .clock instant → now ≤ instant) :
    (exchange.poll self now allowance transport).stop.Spans now (transport.course? now) := by
  have still : Stop.Spans now (transport.course? now)
      (.waits transport.script transport.wait transport.sink) := fun _ _ => rfl
  have played {course : Option Course} (allowance : Nat)
      (same : course.map Course.span = (Course.of? transport.script).map Course.span) :
      Stop.Spans now course
        (play self now allowance transport.script transport.sink exchange).stop := by
    have spans := spans_play self now allowance transport.script transport.sink exchange
    cases stop : (play self now allowance transport.script transport.sink exchange).stop with
    | returns result =>
      rw [stop] at spans
      exact same.trans spans
    | waits script wait sink =>
      rw [stop] at spans
      exact fun since given => (spans since given).trans same.symm
  unfold poll
  dsimp only
  split
  · rename_i turn
    refine played allowance ?_
    rw [← Course.span_map_yielded (Course.of? transport.script)]
    simp only [Transport.course?, turn]
  · exact still
  · rename_i instant clock
    split
    · exact still
    · split
      · rename_i due
        obtain rfl : instant = now := Nat.le_antisymm due (ahead instant clock)
        refine played (allowance - 1) ?_
        simp only [Transport.course?, clock, Nat.sub_self, Course.map_delayed_zero]
      · exact still

end Exchange

/-- A transport that was called at `start` waits at `now`, and the time it takes adds up. -/
structure OnTime (plan : Plan) (start now : Nat) (transport : Transport) : Prop where
  since : transport.since = start
  later : start ≤ now
  span : ((transport.course? now).map (Course.delayed (now - start))).map Course.span =
    (Course.of? plan.script).map Course.span

namespace OnTime

variable {plan : Plan} {start now : Nat} {transport : Transport}

/-- A transport that still waits takes longer than it has. -/
theorem le_delay (onTime : OnTime plan start now transport) {course : Course}
    (returns : Course.of? plan.script = some course) : now - start ≤ course.delay := by
  have span := onTime.span
  rw [returns] at span
  obtain ⟨delayed, same, told⟩ := Option.map_eq_some_iff.1 span
  obtain ⟨rest, -, rfl⟩ := Option.map_eq_some_iff.1 same
  rw [← show (rest.delayed (now - start)).delay = course.delay from congrArg Prod.fst told]
  exact Nat.le_add_right _ _

theorem returns (onTime : OnTime plan start now transport) {result : Except String RawResponse}
    (spans : (Stop.returns result).Spans now (transport.course? now)) :
    ∃ course, Course.of? plan.script = some course ∧ course.delay = now - start ∧
      course.result = result := by
  obtain ⟨rest, here, told⟩ := Option.map_eq_some_iff.1 spans
  have span := onTime.span
  rw [here] at span
  obtain ⟨course, same, whole⟩ := Option.map_eq_some_iff.1 span.symm
  refine ⟨course, same, ?_, ?_⟩
  · rw [show course.delay = now - start + rest.delay from congrArg Prod.fst whole,
      show rest.delay = 0 from congrArg Prod.fst told]
    rfl
  · rw [show course.result = rest.result from congrArg Prod.snd whole]
    exact congrArg Prod.snd told

theorem called {plan : Plan} (now : Nat) {transport : Transport} (since : transport.since = now)
    (script : transport.script = plan.script) (turn : transport.wait = .turn) :
    OnTime plan now now transport := by
  refine ⟨since, Nat.le_refl now, ?_⟩
  rw [Nat.sub_self, Course.map_delayed_zero, ← Course.span_map_yielded (Course.of? plan.script)]
  simp only [Transport.course?, turn, script]

theorem waits (onTime : OnTime plan start now transport) {script : List Step} {wait : Wait}
    {sink : Bool} (spans : (Stop.waits script wait sink).Spans now (transport.course? now)) :
    OnTime plan start now ⟨script, wait, start, sink⟩ := by
  refine ⟨rfl, onTime.later, ?_⟩
  have same := spans start sink
  have delayed (course : Option Course) : (course.map (Course.delayed (now - start))).map
      Course.span = (course.map Course.span).map fun span => (now - start + span.1, span.2) := by
    rw [Option.map_map, Option.map_map]
    rfl
  rw [← onTime.span, delayed, delayed, same]

/-- The clock moves while the transport waits for it. -/
theorem elapse (onTime : OnTime plan start now transport) {limit : Nat} (later : now ≤ limit)
    (moves : transport.wait ≠ .turn)
    (ahead : ∀ instant, transport.wait = .clock instant → limit ≤ instant) :
    OnTime plan start limit transport := by
  refine ⟨onTime.since, Nat.le_trans onTime.later later, ?_⟩
  have began := onTime.later
  rw [← onTime.span]
  simp only [Transport.course?]
  split
  · rename_i turn
    exact absurd turn moves
  · rename_i instant clock
    have soon := ahead instant clock
    simp only [Option.map_map, Function.comp_def, Course.delayed_delayed]
    rw [show limit - start + (instant - limit) = now - start + (instant - now) by omega]
  · rfl

end OnTime

/-- What a run at `now` of an exchange that began at `start` leads to. -/
inductive Fares (plan : Plan) (start now : Nat) (turn : Exchange.Turn) : Prop where
  /-- It waits on. -/
  | waits {transport : Transport} {isSet : Bool} (addressed : plan.destination ≠ "")
      (waiting : turn.exchange.phase = .waiting transport (plan.deadlineFrom start isSet))
      (onTime : OnTime plan start now transport)
  /-- It ends as its plan tells. -/
  | ends {ending : Ending} (same : plan.fate? = some ending)
      (closed : turn.exchange.phase = .ended) (due : now = start + ending.delay)
      (status : turn.exchange.status = ending.status)
      (hands : HandsOver plan.mode ending.result fun moment => .moment moment ∈ turn.effects)

theorem Fares.after {plan : Plan} {start now : Nat} {turn : Exchange.Turn}
    (fares : Fares plan start now turn) (earlier : List Effect) :
    Fares plan start now (turn.after earlier) := by
  cases fares with
  | waits addressed waiting onTime => exact .waits addressed waiting onTime
  | ends same closed due status hands =>
    exact .ends same closed due status (hands.imp fun _ => List.mem_append_right earlier)

namespace Exchange

section

variable {exchange : Exchange} {plan : Plan} {start now allowance : Nat} {transport : Transport}

theorem fares_complete (own : exchange.plan = plan) {ending : Ending}
    (same : plan.fate? = some ending) (due : now = start + ending.delay)
    (proper : Outcome.ofResult? ending.result ≠ none)
    (calm : (complete { exchange with status := ending.status }
      ending.result).exchange.interrupted = false) :
    Fares plan start now (complete { exchange with status := ending.status } ending.result) := by
  subst own
  exact .ends same (complete_phase _ _) due (complete_kept _ _).2 (handsOver_complete _ proper calm)

/-- An exchange that waits at its deadline is given up, unless it gives way. -/
theorem fares_await (own : exchange.plan = plan) (addressed : plan.destination ≠ "")
    (untied : ¬ plan.Tied) (onTime : OnTime plan start now transport)
    (within : plan.timeout ≠ 0 → now ≤ start + plan.timeout) {isSet : Bool}
    (calm : (exchange.await now allowance transport
      (plan.deadlineFrom start isSet)).exchange.interrupted = false) :
    Fares plan start now
      (exchange.await now allowance transport (plan.deadlineFrom start isSet)) := by
  by_cases timed : plan.timeout = 0
  · have untimed : ∀ isSet, plan.deadlineFrom start isSet = none := fun _ => if_pos timed
    have waiting : (exchange.await now allowance transport
        (plan.deadlineFrom start isSet)).exchange.phase =
          .waiting transport (plan.deadlineFrom start isSet) := by
      rw [untimed]
      rfl
    exact .waits addressed waiting onTime
  · have deadline : ∀ isSet, plan.deadlineFrom start isSet = some ⟨start + plan.timeout, isSet⟩ :=
      fun _ => if_neg timed
    simp only [deadline, await] at calm ⊢
    split at calm
    · rename_i spent
      rw [if_pos spent]
      exact .waits addressed (by rw [deadline isSet]) onTime
    · rename_i left
      rw [if_neg left]
      split at calm
      · rename_i due
        rw [if_pos due]
        have here : now = start + plan.timeout := Nat.le_antisymm (within timed) due
        have late : ∀ course, Course.of? plan.script = some course →
            plan.timeout ≤ course.delay := fun course returns => by
          have least := onTime.le_delay returns
          omega
        have fate := Plan.fate?_of_expires addressed untied timed late
        have proper : Outcome.ofResult? (.error .timeout) ≠ none := by simp [Outcome.ofResult?]
        exact fares_complete own fate here proper calm
      · rename_i early
        rw [if_neg early]
        exact .waits addressed (by rw [deadline true]) onTime

/-- An exchange goes on with its transport. -/
theorem fares_proceed (own : exchange.plan = plan) (addressed : plan.destination ≠ "")
    (untied : ¬ plan.Tied) (onTime : OnTime plan start now transport) {stop : Stop}
    (spans : stop.Spans now (transport.course? now))
    (within : plan.timeout ≠ 0 → now ≤ start + plan.timeout) {isSet : Bool}
    (calm : (exchange.proceed now allowance start
      (plan.deadlineFrom start isSet) stop).exchange.interrupted = false) :
    Fares plan start now
      (exchange.proceed now allowance start (plan.deadlineFrom start isSet) stop) := by
  cases stop with
  | returns result =>
    obtain ⟨course, returns, delay, rfl⟩ := onTime.returns spans
    have later := onTime.later
    have soon (timed : plan.timeout ≠ 0) : course.delay ≤ plan.timeout := by
      have early := within timed
      omega
    have fate := Plan.fate?_of_returns addressed untied returns soon
    have due : now = start + (plan.returning course).delay := by
      change now = start + course.delay
      omega
    have result : exchange.proceed now allowance start (plan.deadlineFrom start isSet)
        (.returns course.result) =
          complete { exchange with status := (plan.returning course).status }
            (plan.returning course).result := by
      rw [proceed, Plan.returning, own, delay]
    rw [result] at calm ⊢
    exact fares_complete own fate due
      (Outcome.ofResult?_ne_none (returned_classify _ _ _)) calm
  | waits script wait sink =>
    exact fares_await own addressed untied (onTime.waits spans) within calm

end

section

variable {exchange : Exchange} {plan : Plan} {poll : Poll} {start now : Nat}

/-- A run that polls. -/
theorem Poll.fares (own : poll.exchange.plan = plan) (addressed : plan.destination ≠ "")
    (untied : ¬ plan.Tied) (onTime : OnTime plan start now poll.transport)
    (ahead : ∀ instant, poll.transport.wait = .clock instant → now ≤ instant)
    (within : plan.timeout ≠ 0 → now ≤ start + plan.timeout) {isSet : Bool}
    (deadline : poll.deadline = plan.deadlineFrom start isSet) (self : Nat)
    (calm : (poll.turn self now).exchange.interrupted = false) :
    Fares plan start now (poll.turn self now) := by
  have spans := poll.exchange.spans_poll self now poll.allowance ahead
  have polled := (poll.exchange.kin_poll self now poll.allowance poll.transport).plan.trans own
  rw [Poll.turn] at calm ⊢
  rw [deadline, onTime.since] at calm ⊢
  exact (fares_proceed polled addressed untied onTime spans within calm).after _

/-- The first run of an exchange that is not interrupted. -/
theorem fares_run_of_fresh (fresh : exchange.phase = .fresh) (idle : exchange.status = .idle)
    (untied : ¬ exchange.plan.Tied) (self : Nat)
    (calm : (exchange.run self now).exchange.interrupted = false) :
    Fares exchange.plan now now (exchange.run self now) := by
  rw [run_eq, poll?_of_fresh fresh] at calm ⊢
  have called : exchange.calls =
      (!exchange.interrupted && !exchange.plan.destination.isEmpty) := by
    simp only [calls, fresh]
  cases calls : exchange.calls with
  | true =>
    rw [calls] at called calm
    have addressed : exchange.plan.destination ≠ "" := by
      intro empty
      simp [empty] at called
    have own := (kin_lookOut { exchange with woken := false, status := .running }
      fullAllowance).plan
    have deadline : exchange.plan.deadline? now = exchange.plan.deadlineFrom now false := rfl
    exact Poll.fares own addressed untied (OnTime.called now rfl rfl rfl)
      (by simp [Exchange.called]) (fun _ => Nat.le_add_right _ _) deadline self calm
  | false =>
    rw [calls] at called calm
    change exchange.pass.exchange.interrupted = false at calm
    change Fares exchange.plan now now exchange.pass
    rw [pass_of_fresh fresh] at calm ⊢
    split at calm
    · rename_i interrupted
      cases interrupted.symm.trans calm
    · rename_i going
      rw [if_neg going]
      have unaddressed : exchange.plan.destination.isEmpty = true := by simpa [going] using called
      have fate : exchange.plan.fate? = some Plan.rejecting := if_pos unaddressed
      have ready : { exchange with woken := false, status := Plan.rejecting.status } =
          { exchange with woken := false } := by
        rw [← show exchange.status = Plan.rejecting.status from idle]
      have proper : Outcome.ofResult? Plan.rejecting.result ≠ none := by
        simp [Plan.rejecting, Outcome.ofResult?]
      have fares := @fares_complete { exchange with woken := false } exchange.plan now now rfl _
        fate rfl proper
      rw [ready] at fares
      exact (fares calm).after _

/-- Any other run. -/
theorem fares_run_of_waiting {transport : Transport} {isSet : Bool}
    (waiting : exchange.phase = .waiting transport (exchange.plan.deadlineFrom start isSet))
    (addressed : exchange.plan.destination ≠ "") (untied : ¬ exchange.plan.Tied)
    (onTime : OnTime exchange.plan start now transport)
    (ahead : ∀ instant, transport.wait = .clock instant → now ≤ instant)
    (within : exchange.plan.timeout ≠ 0 → now ≤ start + exchange.plan.timeout) (self : Nat)
    (calm : (exchange.run self now).exchange.interrupted = false) :
    Fares exchange.plan start now (exchange.run self now) := by
  have alike := alike_deliverTicks fullAllowance exchange.ticks { exchange with woken := false }
  rw [run_eq, poll?_of_waiting waiting, pass_of_waiting waiting] at calm ⊢
  generalize deliverTicks fullAllowance exchange.ticks { exchange with woken := false } =
    delivery at *
  dsimp only at calm ⊢
  split at calm
  · rename_i stops
    rw [if_pos stops]
    rw [Option.elim_none] at calm ⊢
    split at calm
    · rename_i spent
      rw [if_pos spent]
      exact .waits addressed (alike.phase.trans waiting) onTime
    · rename_i left
      cases (stops.resolve_left left).symm.trans calm
  · rename_i polls
    rw [if_neg polls]
    have own := (alike.kin.trans (kin_lookOut delivery.exchange delivery.allowance)).plan
    exact Poll.fares own addressed untied onTime ahead within rfl self calm

end

end Exchange
end HttpExchange
