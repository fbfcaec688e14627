import HttpExchange.Proofs.Exchange.Course
import HttpExchange.Proofs.Ledger.Run

/-!
# How a request ends

How a request ends can be read off its plan, and every run keeps to that (`comes_run_of_fresh`,
`comes_run_of_waiting`).
-/

namespace HttpExchange

/-- How a request ends. -/
structure Ending where
  /-- How long after its first run. -/
  delay : Nat
  /-- With which result. -/
  result : RequestResult
  /-- What becomes of its transport. -/
  status : TransportStatus

namespace Plan

/-- A script that returns after `delay` returns in time: before the deadline, or in its instant
without yielding there. -/
def InTime (plan : Plan) (course : Course) : Prop :=
  plan.timeout = 0 ∨ course.delay < plan.timeout ∨
    course.delay = plan.timeout ∧ course.yields = false

instance (plan : Plan) (course : Course) : Decidable (plan.InTime course) :=
  inferInstanceAs (Decidable (_ ∨ _))

/-- The ending with the result of the transport. -/
def returning (plan : Plan) (course : Course) : Ending :=
  ⟨course.delay, Response.classify plan.options.kind course.delay course.result,
    Exchange.statusOf course.result⟩

/-- The ending at the deadline. -/
def expiring (plan : Plan) : Ending :=
  ⟨plan.timeout, .error .timeout, .dropped⟩

/-- How a request ends that is not interrupted, if it ends. -/
def ending? (plan : Plan) : Option Ending :=
  match (Course.of? plan.script).filter (plan.InTime ·) with
  | some course => some (plan.returning course)
  | none => if plan.timeout = 0 then none else some plan.expiring

/-- The deadline of a plan that was carried out from `start` on. -/
def deadlineFrom (plan : Plan) (start : Nat) (isSet : Bool) : Option Deadline :=
  if plan.timeout = 0 then none else some ⟨start + plan.timeout, isSet⟩

theorem ending?_of_returns {plan : Plan} {course : Course}
    (returns : Course.of? plan.script = some course) (inTime : plan.InTime course) :
    plan.ending? = some (plan.returning course) := by
  simp [ending?, returns, Option.filter, inTime]

theorem ending?_of_expires {plan : Plan} (timed : plan.timeout ≠ 0)
    (late : ∀ course, Course.of? plan.script = some course → ¬ plan.InTime course) :
    plan.ending? = some plan.expiring := by
  have none : (Course.of? plan.script).filter (plan.InTime ·) = none :=
    Option.filter_eq_none_iff.2 fun course same => by simpa using late course same
  simp [ending?, none, timed]

/-- A request ends with what its transport returns in time, or else at its deadline. -/
theorem of_ending? {plan : Plan} {ending : Ending} (same : plan.ending? = some ending) :
    (∃ course, Course.of? plan.script = some course ∧ plan.InTime course ∧
        ending = plan.returning course) ∨
      plan.timeout ≠ 0 ∧ ending = plan.expiring := by
  rw [ending?] at same
  split at same
  · rename_i course kept
    obtain ⟨returns, inTime⟩ := Option.filter_eq_some_iff.1 kept
    exact .inl ⟨course, returns, by simpa using inTime, (Option.some.inj same).symm⟩
  · split at same
    · cases same
    · rename_i timed
      exact .inr ⟨timed, (Option.some.inj same).symm⟩

end Plan

/-- A transport that was called at `start` waits at `now`, and its course adds up. -/
structure OnCourse (plan : Plan) (start now : Nat) (transport : Transport) : Prop where
  since : transport.since = start
  later : start ≤ now
  lasting : Lasting transport.script
  course : (transport.course? now).map (Course.delayed (now - start)) = Course.of? plan.script

/-- What is known of a transport that was polled at `now`, having waited for its turn or not. -/
structure Plays (plan : Plan) (start now allowance : Nat) (wait : Wait) (played : Exchange.Played) :
    Prop where
  /-- It returns when its course ends, and yielded there only if it waited for its turn. -/
  returns : ∀ result, played.stop = .returns result → ∃ yields,
    Course.of? plan.script = some ⟨now - start, yields, result⟩ ∧ (yields = true → wait = .turn)
  waits : ∀ script next sink, played.stop = .waits script next sink →
    OnCourse plan start now ⟨script, next, start, sink⟩ ∧
      ∀ instant, next = .clock instant → now < instant ∨ allowance = 0
  allowance : allowance ≤ played.allowance + 1

namespace OnCourse

variable {plan : Plan} {start now : Nat} {transport : Transport}

theorem plays (onCourse : OnCourse plan start now transport)
    (ahead : ∀ instant, transport.wait = .clock instant → now ≤ instant) (exchange : Exchange)
    (self allowance : Nat) :
    Plays plan start now allowance transport.wait
      (exchange.poll self now allowance transport) := by
  have polls := exchange.polls_poll self now allowance onCourse.lasting ahead
  refine ⟨fun result stop => ?_, fun script wait sink stop => ?_, polls.allowance⟩
  · obtain ⟨yields, course, turn⟩ := polls.returns result stop
    refine ⟨yields, ?_, turn⟩
    rw [← onCourse.course, course]
    simp [Course.delayed]
  · obtain ⟨lasting, later, course⟩ := polls.waits script wait sink stop
    refine ⟨⟨rfl, onCourse.later, lasting, ?_⟩, later⟩
    rw [course, onCourse.course]

/-- A transport that still waits at its deadline does not return in time. -/
theorem late (onCourse : OnCourse plan start now transport)
    (ahead : ∀ instant, transport.wait = .clock instant → now < instant)
    (timed : plan.timeout ≠ 0) (due : now = start + plan.timeout) :
    ∀ course, Course.of? plan.script = some course → ¬ plan.InTime course := by
  intro course returns
  rw [← onCourse.course, ← Exchange.yielded_course? ahead] at returns
  obtain ⟨yielded, same, rfl⟩ := Option.map_eq_some_iff.1 returns
  obtain ⟨rest, -, rfl⟩ := Option.map_eq_some_iff.1 same
  rw [Plan.InTime]
  simp only [Course.delayed, Course.yielded, Bool.or_eq_false_iff, beq_eq_false_iff_ne, due]
  omega

/-- A transport on its course does not return before it waited. -/
theorem le_of_returns (onCourse : OnCourse plan start now transport) {course : Course}
    (returns : Course.of? plan.script = some course) : now ≤ start + course.delay := by
  have later := onCourse.later
  rw [← onCourse.course] at returns
  obtain ⟨rest, -, rfl⟩ := Option.map_eq_some_iff.1 returns
  simp only [Course.delayed]
  omega

/-- The clock moves while the transport waits for it. -/
theorem elapse (onCourse : OnCourse plan start now transport) {limit : Nat} (later : now ≤ limit)
    (moves : transport.wait ≠ .turn)
    (ahead : ∀ instant, transport.wait = .clock instant → limit ≤ instant) :
    OnCourse plan start limit transport := by
  refine ⟨onCourse.since, Nat.le_trans onCourse.later later, onCourse.lasting, ?_⟩
  have began := onCourse.later
  rw [← onCourse.course]
  simp only [Transport.course?]
  split
  · rename_i turn
    exact absurd turn moves
  · rename_i instant clock
    have soon := ahead instant clock
    simp only [Option.map_map, Function.comp_def, Course.delayed_delayed]
    rw [show limit - start + (instant - limit) = now - start + (instant - now) by omega]
  · rfl

end OnCourse
/-- The result of a request is handed over, and its last run ends, as far as `noted` tells. -/
structure HandsOver (mode : Mode) (result : RequestResult) (noted : Moment → Prop) : Prop where
  resolved : noted (.resolved result)
  fetched : mode = .fetch → noted (.event (.finished result))
  received : mode.Attended → ∃ pending outcome answer,
    Outcome.ofResult? result = some outcome ∧ noted (.event (.delivered pending outcome answer))
  ended : noted .ended

theorem HandsOver.imp {mode : Mode} {result : RequestResult} {noted told : Moment → Prop}
    (hands : HandsOver mode result noted) (imp : ∀ moment, noted moment → told moment) :
    HandsOver mode result told := by
  refine ⟨imp _ hands.resolved, fun fetch => imp _ (hands.fetched fetch), fun attended => ?_,
    imp _ hands.ended⟩
  obtain ⟨pending, outcome, answer, same, there⟩ := hands.received attended
  exact ⟨pending, outcome, answer, same, imp _ there⟩

/-- What a run at `now` of an exchange that began at `start` leads to. -/
inductive Comes (plan : Plan) (start now : Nat) (turn : Exchange.Turn) : Prop where
  /-- It waits on, and its deadline is ahead. -/
  | waits {transport : Transport}
      (waiting : turn.exchange.phase = .waiting transport (plan.deadlineFrom start true))
      (onCourse : OnCourse plan start now transport)
      (early : plan.timeout ≠ 0 → now < start + plan.timeout)
  /-- It ends as its plan tells. -/
  | ends {ending : Ending} (same : plan.ending? = some ending)
      (closed : turn.exchange.phase = .ended) (due : now = start + ending.delay)
      (status : turn.exchange.status = ending.status)
      (hands : HandsOver plan.mode ending.result fun moment => .moment moment ∈ turn.effects)

theorem Comes.after {plan : Plan} {start now : Nat} {turn : Exchange.Turn}
    (comes : Comes plan start now turn) (earlier : List Effect) :
    Comes plan start now (turn.after earlier) := by
  cases comes with
  | waits waiting onCourse early => exact .waits waiting onCourse early
  | ends same closed due status hands =>
    exact .ends same closed due status (hands.imp fun _ => List.mem_append_right earlier)

namespace Exchange

/-- The callback receives the outcome of a result. -/
theorem delivered_mem_conclude (exchange : Exchange) {result : RequestResult} {outcome : Outcome}
    (attended : exchange.plan.mode.Attended) (same : Outcome.ofResult? result = some outcome) :
    ∃ pending answer, .moment (.event (.delivered pending outcome answer)) ∈
      (exchange.conclude result).effects := by
  cases mode : exchange.plan.mode with
  | fetch => exact (show False by rwa [mode] at attended).elim
  | send listener =>
    cases listener with
    | absent => exact (show False by rwa [mode] at attended).elim
    | attentive aborts =>
      simp only [conclude, mode, same, deliver]
      exact ⟨_, _, List.mem_cons_self⟩

/-- A result that is not called off is handed over. -/
theorem handsOver_complete (exchange : Exchange) {result : RequestResult}
    (proper : Outcome.ofResult? result ≠ none)
    (calm : (exchange.complete result).exchange.interrupted = false) :
    HandsOver exchange.plan.mode result
      fun moment => .moment moment ∈ (exchange.complete result).effects := by
  rw [complete] at calm ⊢
  split at calm
  · rename_i interrupted
    cases interrupted.symm.trans calm
  · rename_i going
    rw [if_neg going]
    have plan : (deliverTicks exchange.ticks.length exchange.ticks
        { exchange with pending := false }).exchange.plan = exchange.plan :=
      (alike_deliverTicks _ _ _).plan
    dsimp only
    generalize deliverTicks _ _ _ = progress at plan ⊢
    have handed : ∀ moment, .moment moment ∈ (progress.exchange.conclude result).effects →
        .moment moment ∈ (.moment (.resolved result) :: (progress.effects ++
          (progress.exchange.conclude result).effects) : List Effect) ++ [.moment .ended] := by
      intro moment member
      simp [member]
    refine ⟨List.mem_cons_self, fun fetch => handed _ ?_, fun attended => ?_, ?_⟩
    · simp [conclude, plan, fetch]
    · obtain ⟨outcome, same⟩ := Option.ne_none_iff_exists'.1 proper
      rw [← plan] at attended
      obtain ⟨pending, answer, member⟩ := progress.exchange.delivered_mem_conclude attended same
      exact ⟨pending, outcome, answer, same, handed _ member⟩
    · simp [Turn.after, finish]

section

variable {exchange : Exchange} {plan : Plan} {start now allowance : Nat} {transport : Transport}

theorem comes_complete (own : exchange.plan = plan) {ending : Ending}
    (same : plan.ending? = some ending) (due : now = start + ending.delay)
    (proper : Outcome.ofResult? ending.result ≠ none)
    (calm : (complete { exchange with status := ending.status }
      ending.result).exchange.interrupted = false) :
    Comes plan start now (complete { exchange with status := ending.status } ending.result) := by
  subst own
  exact .ends same (complete_phase _ _) due (complete_kept _ _).2 (handsOver_complete _ proper calm)

/-- An exchange waits on before its deadline and ends at it. -/
theorem comes_await (own : exchange.plan = plan) (onCourse : OnCourse plan start now transport)
    (room : plan.timeout ≠ 0 → now < start + plan.timeout ∨
      now = start + plan.timeout ∧ allowance ≠ 0 ∧
        ∀ instant, transport.wait = .clock instant → now < instant)
    {isSet : Bool} (set : allowance = 0 → isSet = true)
    (calm : (exchange.await now allowance transport
      (plan.deadlineFrom start isSet)).exchange.interrupted = false) :
    Comes plan start now
      (exchange.await now allowance transport (plan.deadlineFrom start isSet)) := by
  by_cases timed : plan.timeout = 0
  · rw [show plan.deadlineFrom start isSet = none from if_pos timed]
    refine .waits ?_ onCourse (absurd timed)
    rw [show plan.deadlineFrom start true = none from if_pos timed]
    rfl
  · have deadline : ∀ isSet, plan.deadlineFrom start isSet = some ⟨start + plan.timeout, isSet⟩ :=
      fun _ => if_neg timed
    simp only [deadline, await] at calm ⊢
    split at calm
    · rename_i spent
      rw [if_pos spent]
      refine .waits ?_ onCourse fun _ => (room timed).resolve_right fun there => there.2.1 spent.1
      rw [deadline, set spent.1]
    · rename_i left
      rw [if_neg left]
      split at calm
      · rename_i due
        rw [if_pos due]
        obtain ⟨there, -, ahead⟩ := (room timed).resolve_left (Nat.not_lt.2 due)
        have late := onCourse.late ahead timed there
        have proper : Outcome.ofResult? (.error .timeout) ≠ none := by simp [Outcome.ofResult?]
        exact comes_complete own (Plan.ending?_of_expires timed late) there proper calm
      · rename_i early
        rw [if_neg early]
        refine .waits ?_ onCourse fun _ => Nat.lt_of_not_le early
        rw [deadline]

/-- An exchange ends with the result of its transport if that returns in time. -/
theorem comes_proceed (own : exchange.plan = plan) (later : start ≤ now) {wait : Wait}
    {earlier : Nat} {played : Played} (plays : Plays plan start now earlier wait played)
    (room : plan.timeout ≠ 0 → now < start + plan.timeout ∨
      now = start + plan.timeout ∧ wait ≠ .turn ∧ 2 ≤ earlier)
    {isSet : Bool} (set : earlier ≤ 1 → isSet = true)
    (calm : (exchange.proceed now played.allowance start (plan.deadlineFrom start isSet)
      played.stop).exchange.interrupted = false) :
    Comes plan start now (exchange.proceed now played.allowance start
      (plan.deadlineFrom start isSet) played.stop) := by
  obtain ⟨returns, waits, kept⟩ := plays
  cases stop : played.stop with
  | returns result =>
    obtain ⟨yields, course, turn⟩ := returns result stop
    have inTime : plan.InTime ⟨now - start, yields, result⟩ := by
      by_cases timed : plan.timeout = 0
      · exact .inl timed
      · rcases room timed with early | ⟨due, moves, -⟩
        · exact .inr (.inl (by dsimp only; omega))
        · have unyielding : yields = false := eq_false_of_ne_true fun yields => moves (turn yields)
          exact .inr (.inr ⟨by dsimp only; omega, unyielding⟩)
    rw [stop] at calm
    subst own
    exact comes_complete rfl (Plan.ending?_of_returns course inTime)
      (by simp only [Plan.returning]; omega) (Outcome.ofResult?_ne_none (returned_classify _ _ _))
      calm
  | waits script next sink =>
    obtain ⟨onCourse, ahead⟩ := waits script next sink stop
    rw [stop] at calm
    refine comes_await own onCourse (fun timed => (room timed).imp_right ?_)
      (fun spent => set (by omega)) calm
    rintro ⟨due, moves, left⟩
    exact ⟨due, by omega, fun instant clock => (ahead instant clock).resolve_right (by omega)⟩

/-- Looking out for progress uses at most one unit of the allowance. -/
theorem allowance_lookOut (exchange : Exchange) (allowance : Nat) :
    allowance ≤ (exchange.lookOut allowance).2 + 1 := by
  rw [lookOut]
  split
  · exact Nat.le_succ _
  · split
    · omega
    · exact Nat.le_succ _

theorem comes_goOn (own : exchange.plan = plan) (later : start ≤ now) (self : Nat)
    (plays : ∀ (exchange : Exchange) (allowance : Nat),
      Plays plan start now allowance transport.wait (exchange.poll self now allowance transport))
    (since : transport.since = start)
    (room : plan.timeout ≠ 0 → now < start + plan.timeout ∨
      now = start + plan.timeout ∧ transport.wait ≠ .turn ∧ 3 ≤ allowance)
    {isSet : Bool} (set : allowance ≤ 2 → isSet = true)
    (calm : (exchange.goOn self now allowance transport
      (plan.deadlineFrom start isSet)).exchange.interrupted = false) :
    Comes plan start now
      (exchange.goOn self now allowance transport (plan.deadlineFrom start isSet)) := by
  have looked := exchange.allowance_lookOut allowance
  have polled := (exchange.kin_lookOut allowance).trans
    ((exchange.lookOut allowance).1.kin_poll self now (exchange.lookOut allowance).2 transport)
  rw [goOn] at calm ⊢
  dsimp only at calm ⊢
  rw [since] at calm ⊢
  refine (comes_proceed (polled.plan.trans own) later (plays _ _) (fun timed =>
    (room timed).imp_right ?_) (fun spent => set (by omega)) calm).after _
  rintro ⟨due, moves, left⟩
  exact ⟨due, moves, by omega⟩

/-- The transport of a first run goes the course of the whole script. -/
theorem plays_called (lasting : Lasting plan.script) (self now : Nat) {transport : Transport}
    (script : transport.script = plan.script) (turn : transport.wait = .turn) (exchange : Exchange)
    (allowance : Nat) : Plays plan now now allowance transport.wait
      (exchange.poll self now allowance transport) := by
  obtain ⟨keeps, kept⟩ := keeps_play lasting self now allowance transport.sink exchange
  unfold poll
  simp only [turn, script]
  refine ⟨fun result stop => ?_, fun rest next sink stop => ?_, by omega⟩
  · rw [stop] at keeps
    refine ⟨false, ?_, nofun⟩
    rw [Nat.sub_self]
    exact keeps
  · rw [stop] at keeps
    obtain ⟨lasting, later, course⟩ := keeps
    refine ⟨⟨rfl, Nat.le_refl _, lasting, ?_⟩, fun instant clock => .inl (later instant clock)⟩
    rw [course, Nat.sub_self, show Course.delayed 0 = id from funext Course.delayed_zero]
    exact Option.map_id'

theorem comes_firstRun (own : exchange.plan = plan) (addressed : plan.destination ≠ "")
    (lasting : Lasting plan.script) (self : Nat)
    (calm : (exchange.firstRun self now).exchange.interrupted = false) :
    Comes plan now now (exchange.firstRun self now) := by
  subst own
  rw [firstRun] at calm ⊢
  split at calm
  · rename_i interrupted
    cases interrupted.symm.trans calm
  · rename_i going
    rw [if_neg going]
    rw [if_neg (by simpa using addressed)] at calm ⊢
    have own : { exchange with status := .running }.plan = exchange.plan := rfl
    have since : (exchange.called now).since = now := rfl
    have unset : fullAllowance ≤ 2 → false = true := fun low => absurd low (by decide)
    exact (comes_goOn own (Nat.le_refl _) self (plays_called lasting self now rfl rfl) since
      (fun timed => .inl (by omega)) unset calm).after _

theorem comes_laterRun (own : exchange.plan = plan)
    (waiting : exchange.phase = .waiting transport (plan.deadlineFrom start true))
    (onCourse : OnCourse plan start now transport)
    (ahead : ∀ instant, transport.wait = .clock instant → now ≤ instant)
    (room : plan.timeout ≠ 0 → now < start + plan.timeout ∨
      now = start + plan.timeout ∧ transport.wait ≠ .turn ∧ exchange.ticks = []) (self : Nat)
    (calm : (exchange.laterRun self now transport
      (plan.deadlineFrom start true)).exchange.interrupted = false) :
    Comes plan start now
      (exchange.laterRun self now transport (plan.deadlineFrom start true)) := by
  have alike := alike_deliverTicks fullAllowance exchange.ticks exchange
  have whole : exchange.ticks = [] →
      (deliverTicks fullAllowance exchange.ticks exchange).allowance = fullAllowance := by
    intro none
    rw [none]
    rfl
  rw [laterRun] at calm ⊢
  generalize deliverTicks fullAllowance exchange.ticks exchange = delivery at *
  dsimp only at calm ⊢
  split at calm
  · rename_i spent
    rw [if_pos spent]
    refine .waits (alike.phase.trans waiting) onCourse fun timed =>
      (room timed).resolve_right fun there => ?_
    cases (whole there.2.2).symm.trans spent
  · rename_i left
    rw [if_neg left]
    split at calm
    · rename_i interrupted
      cases interrupted.symm.trans calm
    · rename_i going
      rw [if_neg going]
      refine (comes_goOn (alike.plan.trans own) onCourse.later self (onCourse.plays ahead · self ·)
        onCourse.since (fun timed => (room timed).imp_right ?_) (fun _ => rfl) calm).after _
      rintro ⟨due, moves, none⟩
      exact ⟨due, moves, by rw [whole none]; decide⟩

/-- The first run of an exchange that is not interrupted. -/
theorem comes_run_of_fresh (fresh : exchange.phase = .fresh)
    (addressed : exchange.plan.destination ≠ "") (lasting : Lasting exchange.plan.script)
    (self : Nat)
    (calm : (exchange.run self now).exchange.interrupted = false) :
    Comes exchange.plan now now (exchange.run self now) := by
  rw [run_of_fresh fresh] at calm ⊢
  have own : { exchange with woken := false }.plan = exchange.plan := rfl
  exact (comes_firstRun own addressed lasting self calm).after _

/-- Any other run.  At the deadline its queue must be empty, and its transport must not wait for its
turn. -/
theorem comes_run_of_waiting
    (waiting : exchange.phase = .waiting transport (exchange.plan.deadlineFrom start true))
    (onCourse : OnCourse exchange.plan start now transport)
    (ahead : ∀ instant, transport.wait = .clock instant → now ≤ instant)
    (room : exchange.plan.timeout ≠ 0 → now < start + exchange.plan.timeout ∨
      now = start + exchange.plan.timeout ∧ transport.wait ≠ .turn ∧ exchange.ticks = [])
    (self : Nat) (calm : (exchange.run self now).exchange.interrupted = false) :
    Comes exchange.plan start now (exchange.run self now) := by
  rw [run_of_waiting waiting] at calm ⊢
  have own : { exchange with woken := false }.plan = exchange.plan := rfl
  exact (comes_laterRun own waiting onCourse ahead room self calm).after _

end

end Exchange
end HttpExchange
