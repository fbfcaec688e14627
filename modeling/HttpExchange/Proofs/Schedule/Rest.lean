import HttpExchange.Proofs.Exchange.Rest
import HttpExchange.Proofs.Schedule.Projection

/-!
# Nothing is missed

The clock moves only when all progress that was reported has been received (`Watched.drained`).
-/

namespace HttpExchange

/-- A late tick. -/
def Job.isLate : Job → Bool
  | exchange _ => false
  | lateTick .. => true

@[simp] theorem Job.isLate_exchange (number : Nat) : (exchange number).isLate = false := rfl

@[simp] theorem Job.isLate_lateTick (number : Nat) (progress : Progress) (delay : Option Nat) :
    (lateTick number progress delay).isLate = true := rfl

/-- The instant at which a timer wakes an exchange. -/
def Timer.ring? (timer : Timer) : Option Nat :=
  if timer.job.isLate then none else some timer.instant

namespace View

open Effect

/-- The number of late ticks that are on their way. -/
def late (view : View) : Nat :=
  view.jobs.countP Job.isLate + view.timers.countP fun timer => timer.job.isLate

/-- The instants at which timers wake the exchange. -/
def rings (view : View) : List Nat :=
  view.timers.filterMap Timer.ring?

/-- What a view knows of an exchange that is not over. -/
structure Watched (number : Nat) (view : View) (exchange : Exchange) : Prop where
  steady : exchange.Steady view.now view.late view.rings
  /-- Once woken it is in the queue. -/
  queued : exchange.woken = true → .exchange number ∈ view.jobs
  /-- It was woken, or gave way, or rests. -/
  rests : exchange.woken = true ∨ view.aside = true ∨ exchange.Rests view.rings

section

variable {number : Nat} {view : View} {record : Record}

theorem stir_jobs (found : view.record = some record) (change : Exchange → Exchange) :
    (view.stir number change).jobs =
      if (change record.exchange).woken && !record.exchange.woken then
        view.jobs ++ [.exchange number]
      else view.jobs := by
  simp only [stir, found]

theorem stir_rest (number : Nat) (view : View) (change : Exchange → Exchange) :
    (view.stir number change).now = view.now ∧ (view.stir number change).late = view.late ∧
      (view.stir number change).rings = view.rings ∧
        (view.stir number change).aside = view.aside := by
  rw [stir]
  split
  · exact ⟨rfl, rfl, rfl, rfl⟩
  · refine ⟨rfl, ?_, rfl, rfl⟩
    unfold late
    dsimp only
    split
    · simp
    · rfl

/-- What is done to an exchange is watched, if it leaves the exchange steady. -/
theorem watched_stir (view : View) (found : view.record = some record)
    {change : Exchange → Exchange}
    (queued : record.exchange.woken = true → .exchange number ∈ view.jobs)
    (steady : (change record.exchange).Steady view.now view.late view.rings)
    (rests : (change record.exchange).woken = true ∨ view.aside = true ∨
      (change record.exchange).Rests view.rings) :
    (view.stir number change).Watched number (change record.exchange) := by
  obtain ⟨now, late, rings, aside⟩ := stir_rest number view change
  refine ⟨?_, fun woken => ?_, ?_⟩
  · rw [now, late, rings]
    exact steady
  · rw [stir_jobs found]
    cases already : record.exchange.woken with
    | true =>
      have member := queued already
      split
      · exact List.mem_append_left _ member
      · exact member
    | false => simp [woken]
  · rw [aside, rings]
    exact rests

end

/-! ### Late ticks -/

theorem late_withoutRing {number : Nat} {view : View} {front back : List Timer}
    (timers : view.timers = front ++ ⟨view.now, .exchange number⟩ :: back) :
    { view with timers := front ++ back }.late = view.late := by
  simp [late, timers]

theorem late_postponed {number : Nat} {view : View} {progress : Progress} {delay : Nat}
    {jobs : List Job} (queue : view.jobs = .lateTick number progress (some delay) :: jobs) :
    View.late { view with
      jobs := jobs
      timers := view.timers ++ [⟨view.now + delay, .lateTick number progress none⟩] } =
        view.late := by
  simp only [late, queue, List.countP_append, List.countP_cons, List.countP_nil,
    Job.isLate_lateTick, if_true]
  omega

theorem late_fallen {number : Nat} {view : View} {front back : List Timer} {progress : Progress}
    {delay : Option Nat}
    (timers : view.timers = front ++ ⟨view.now, .lateTick number progress delay⟩ :: back) :
    View.late { view with
      timers := front ++ back
      jobs := view.jobs ++ [.lateTick number progress delay] } = view.late := by
  simp only [late, timers, List.countP_append, List.countP_cons, List.countP_nil,
    Job.isLate_lateTick, if_true]
  omega

theorem late_of_reported {number : Nat} {view : View} {progress : Progress} {delay : Option Nat}
    {jobs : List Job} (queue : view.jobs = .lateTick number progress delay :: jobs) :
    view.late = { view with jobs := jobs }.late + 1 := by
  simp only [late, queue, List.countP_cons, Job.isLate_lateTick, if_true]
  omega

theorem late_of_ran {number : Nat} {view : View} {jobs : List Job}
    (queue : view.jobs = .exchange number :: jobs) :
    { view with jobs := jobs }.late = view.late := by
  simp [late, queue]

/-! ### Single steps -/

theorem watched_start {number : Nat} {view : View} (plan : Plan) (tidy : view.Tidy)
    (absent : view.record = none) :
    Watched number { view with
      record := some ⟨.start plan, []⟩
      jobs := view.jobs ++ [.exchange number] } (.start plan) := by
  obtain ⟨jobs, -, timers⟩ := tidy absent
  refine ⟨⟨⟨rfl, ?_, ?_, ?_⟩, ?_, nofun, nofun⟩, fun _ => by simp, .inl rfl⟩
  · simp [late, Exchange.start, Exchange.held, jobs, timers]
    cases plan.wantsProgress <;> rfl
  · simp [late, Exchange.start, Exchange.held, jobs, timers]
  · exact fun _ => rfl
  · exact fun _ => ⟨by simp [late, jobs, timers], rfl⟩

theorem Watched.wake {number : Nat} {view : View} {record : Record}
    (watched : view.Watched number record.exchange) (found : view.record = some record) :
    (view.stir number Exchange.wake).Watched number record.exchange.wake := by
  obtain ⟨woken, steady⟩ := watched.steady.wake
  exact watched_stir view found watched.queued steady (.inl woken)

theorem Watched.interrupt {number : Nat} {view : View} {record : Record}
    (watched : view.Watched number record.exchange) (found : view.record = some record) :
    (view.stir number (·.interrupt.1)).Watched number record.exchange.interrupt.1 := by
  have steady := watched.steady
  refine watched_stir view found watched.queued (steady.kin (Exchange.alike_interrupt _).kin
    steady.attends.interrupt ?_) ?_
  · rw [Exchange.interrupt_ticks]
    exact steady.fresh
  · rw [Exchange.interrupt]
    split
    · have stopped :
          { record.exchange with pending := false, interrupted := true }.isOver = false :=
        steady.attends.present
      exact .inl (by rw [Exchange.wake_of_present stopped])
    · exact watched.rests

theorem countP_lateJobs (number : Nat) (ticks : List (Nat × Progress)) :
    (lateJobs number ticks).countP Job.isLate = ticks.length := by
  simp [lateJobs, List.countP_map, Function.comp_def]

theorem countP_alarms (number : Nat) (instants : List Nat) :
    (View.alarms number instants).countP (fun timer => timer.job.isLate) = 0 := by
  simp [View.alarms]

theorem ring_alarms (number : Nat) (instants : List Nat) :
    (View.alarms number instants).filterMap Timer.ring? = instants := by
  simp [View.alarms, List.filterMap_map, Function.comp_def, Timer.ring?]

/-- What a run leads to apart from the exchange. -/
theorem ran_rest (number : Nat) (view : View) (turn : Exchange.Turn) (moments : List Moment) :
    (view.ran number turn moments).now = view.now ∧
      (view.ran number turn moments).late = view.late + (lateTicks turn.effects).length ∧
      (view.ran number turn moments).rings = view.rings ++ instants turn.effects ∧
      (view.ran number turn moments).aside = (view.aside || givesWay turn.effects) := by
  have late : (view.carryOut number turn.effects moments).late =
      view.late + (lateTicks turn.effects).length := by
    simp only [View.late, carryOut, List.countP_append, countP_lateJobs, countP_alarms]
    omega
  have rings : (view.carryOut number turn.effects moments).rings =
      view.rings ++ instants turn.effects := by
    simp only [View.rings, carryOut, List.filterMap_append, ring_alarms]
  unfold View.ran
  dsimp only
  split
  · refine ⟨rfl, ?_, rings, rfl⟩
    rw [← late]
    simp [View.late, carryOut]
  · exact ⟨rfl, late, rings, rfl⟩

theorem Watched.ran {number : Nat} {view : View} {exchange : Exchange} {jobs : List Job}
    (watched : view.Watched number exchange) (queue : view.jobs = .exchange number :: jobs)
    (present : (exchange.run number view.now).exchange.isOver = false) (moments : List Moment) :
    ({ view with jobs := jobs }.ran number (exchange.run number view.now) moments).Watched number
      (exchange.run number view.now).exchange := by
  obtain ⟨steady, rests⟩ := Exchange.leaves_run number watched.steady present
  generalize exchange.run number view.now = turn at *
  obtain ⟨now, late, rings, aside⟩ := ran_rest number { view with jobs := jobs } turn moments
  refine ⟨?_, fun woken => ?_, ?_⟩
  · rw [now, late, rings, late_of_ran queue]
    exact steady
  · simp [View.ran, woken]
  · rw [aside, rings]
    rcases rests with woken | gives | rests
    · exact .inl woken
    · exact .inr (.inl (by simp [gives]))
    · exact .inr (.inr rests)

theorem Watched.reportLate {number : Nat} {view : View} {record : Record} {progress : Progress}
    {delay : Option Nat} {jobs : List Job} (watched : view.Watched number record.exchange)
    (found : view.record = some record)
    (queue : view.jobs = .lateTick number progress delay :: jobs) :
    ({ view with jobs := jobs }.reportLate number progress).Watched number
      (record.exchange.report progress).release := by
  have steady := watched.steady
  have fewer := late_of_reported queue
  have attends : record.exchange.Attends
      ({ view with jobs := jobs }.late + record.exchange.held + 1) := by
    have counted := steady.attends
    rw [fewer, Nat.add_right_comm] at counted
    exact counted
  have queued : record.exchange.woken = true → .exchange number ∈ jobs := by
    intro woken
    simpa [queue] using watched.queued woken
  have kin := (record.exchange.kin_report progress).trans (Exchange.kin_release _)
  have alert : record.exchange.woken = true ∨ view.aside = true ∨
      record.exchange.attention = .listening := by
    rcases watched.rests with woken | gave | rests
    · exact .inl woken
    · exact .inr (.inl gave)
    · refine .inr (.inr ?_)
      cases attention : record.exchange.attention with
      | listening => rfl
      | away => exact absurd attention rests.attentive
      | gone => exact absurd attention attends.not_gone
  have noted : ({ view with jobs := jobs }.note (.event (.reported progress))).record =
      some ⟨record.exchange, record.history ++ [(view.now, .event (.reported progress))]⟩ := by
    simp [note, found]
  refine watched_stir _ noted queued (steady.kin kin (attends.report progress).release
    fun fresh => ?_) ?_
  · cases fewer.symm.trans (steady.fresh fresh).1
  · rcases alert with woken | gave | listening
    · exact .inl (Exchange.woken_release (Exchange.woken_report woken progress))
    · exact .inr (.inl gave)
    · exact .inl (Exchange.woken_release (Exchange.woken_report_of_listening attends.present
        listening progress))

theorem Watched.ring {number : Nat} {view : View} {record : Record} {front back : List Timer}
    (watched : view.Watched number record.exchange) (found : view.record = some record)
    (timers : view.timers = front ++ ⟨view.now, .exchange number⟩ :: back) :
    ({ view with timers := front ++ back }.stir number Exchange.wake).Watched number
      record.exchange.wake := by
  have rings : view.rings =
      front.filterMap Timer.ring? ++ view.now :: back.filterMap Timer.ring? := by
    simp [View.rings, timers, Timer.ring?]
  have steady := watched.steady
  rw [← late_withoutRing timers, rings] at steady
  obtain ⟨woken, steady⟩ := steady.ring.wake
  rw [← List.filterMap_append] at steady
  exact watched_stir { view with timers := front ++ back } found watched.queued steady (.inl woken)

theorem Watched.postpone {number : Nat} {view : View} {exchange : Exchange} {progress : Progress}
    {delay : Nat} {jobs : List Job} (watched : view.Watched number exchange)
    (queue : view.jobs = .lateTick number progress (some delay) :: jobs) :
    Watched number { view with
      jobs := jobs
      timers := view.timers ++ [⟨view.now + delay, .lateTick number progress none⟩] } exchange := by
  have rings : View.rings { view with
      jobs := jobs
      timers := view.timers ++ [⟨view.now + delay, .lateTick number progress none⟩] } =
        view.rings := by
    simp [View.rings, Timer.ring?]
  refine ⟨?_, fun woken => ?_, ?_⟩
  · rw [late_postponed queue, rings]
    exact watched.steady
  · simpa [queue] using watched.queued woken
  · rw [rings]
    exact watched.rests

theorem Watched.fall {number : Nat} {view : View} {exchange : Exchange} {front back : List Timer}
    {progress : Progress} {delay : Option Nat} (watched : view.Watched number exchange)
    (timers : view.timers = front ++ ⟨view.now, .lateTick number progress delay⟩ :: back) :
    Watched number { view with
      timers := front ++ back
      jobs := view.jobs ++ [.lateTick number progress delay] } exchange := by
  have rings : View.rings { view with
      timers := front ++ back
      jobs := view.jobs ++ [.lateTick number progress delay] } = view.rings := by
    simp [View.rings, Timer.ring?, timers]
  refine ⟨?_, fun woken => List.mem_append_left _ (watched.queued woken), ?_⟩
  · rw [late_fallen timers, rings]
    exact watched.steady
  · rw [rings]
    exact watched.rests

/-- When nothing can run, an exchange that is not over rests. -/
theorem Watched.resting {number : Nat} {view : View} {exchange : Exchange}
    (watched : view.Watched number exchange) (jobs : view.jobs = []) (aside : view.aside = false) :
    exchange.Rests view.rings := by
  rcases watched.rests with woken | gave | rests
  · have queued := watched.queued woken
    simp [jobs] at queued
  · cases aside.symm.trans gave
  · exact rests

theorem le_of_mem_rings {view : View} {limit : Nat}
    (silent : ∀ timer ∈ view.timers, limit ≤ timer.instant) :
    ∀ instant ∈ view.rings, limit ≤ instant := by
  intro instant member
  obtain ⟨timer, present, rings⟩ := List.mem_filterMap.1 member
  rw [Timer.ring?] at rings
  split at rings
  · cases rings
  · cases rings
    exact silent timer present

/-- The clock does not pass an instant that is waited for. -/
theorem Watched.elapse {number limit : Nat} {view : View} {exchange : Exchange}
    (watched : view.Watched number exchange) (jobs : view.jobs = []) (aside : view.aside = false)
    (silent : ∀ timer ∈ view.timers, limit ≤ timer.instant) :
    { view with now := limit }.Watched number exchange := by
  have later := le_of_mem_rings silent
  obtain ⟨attends, fresh, timed, deadline⟩ := watched.steady
  obtain ⟨calm, attentive, transport, set, waiting, moves, clocks, sets⟩ :=
    watched.resting jobs aside
  refine ⟨⟨attends, fresh, ?_, ?_⟩, watched.queued, watched.rests⟩
  · intro other last same instant clock
    cases waiting.symm.trans same
    have member := clocks instant clock
    exact ⟨later instant member, .inl member⟩
  · intro other last same
    cases waiting.symm.trans same
    have member := sets last rfl
    exact ⟨later last.instant member, fun _ => ⟨later last.instant member, .inl member⟩⟩

/-- Progress is received in the instant in which it is reported. -/
theorem Watched.drained {number : Nat} {view : View} {exchange : Exchange}
    (watched : view.Watched number exchange) (jobs : view.jobs = []) (aside : view.aside = false) :
    exchange.ticks = [] :=
  watched.steady.attends.ticks (watched.resting jobs aside).attentive

/-- The clock moves only when nothing can run. -/
theorem Step.clock {number : Nat} {before after : View} (step : Step number before after) :
    after.now = before.now ∨ after.jobs = [] ∧ after.aside = false := by
  cases step with
  | start => exact .inl rfl
  | interrupt => exact .inl (stir_rest number before _).1
  | callBack => exact .inl (stir_rest number before _).1
  | @run record jobs found queue moments told =>
    exact .inl (ran_rest number { before with jobs := jobs } _ moments).1
  | postpone => exact .inl rfl
  | @reportLate progress delay jobs queue due =>
    rw [View.reportLate]
    exact .inl (stir_rest number _ _).1
  | elapse jobs aside => exact .inr ⟨jobs, aside⟩
  | @ring front back timers first =>
    exact .inl (stir_rest number { before with timers := front ++ back } _).1
  | fall => exact .inl rfl

/-- In a reachable view an exchange that is not over is watched. -/
theorem Reachable.watched {number : Nat} {view : View} (reached : view.Reachable number)
    {record : Record} (found : view.record = some record)
    (present : record.exchange.isOver = false) : view.Watched number record.exchange := by
  refine reached.acts_induction (motive := fun view record => record.exchange.isOver = false →
    view.Watched number record.exchange) ?_ ?_ found present
  · intro view plan tidy absent _
    exact watched_start plan tidy absent
  · intro before left after right _ found _ acts ih present
    cases acts with
    | interrupt =>
      have going := (Exchange.alike_interrupt left.exchange).kin.isOver.symm.trans present
      have watched := (ih going).interrupt found
      exact ⟨watched.steady, watched.queued, watched.rests⟩
    | callBack =>
      have going := (Exchange.alike_wake left.exchange).kin.isOver.symm.trans present
      have watched := (ih going).wake found
      exact ⟨watched.steady, watched.queued, .inl (ih going).steady.wake.1⟩
    | @run jobs moments queue told =>
      have going : left.exchange.isOver = false := Exchange.present_of_run present
      exact (ih going).ran queue present moments
    | postpone queue => exact (ih present).postpone queue
    | @reportLate progress delay jobs queue =>
      have kin := (left.exchange.kin_report progress).trans (Exchange.kin_release _)
      exact (ih (kin.isOver.symm.trans present)).reportLate found queue
    | elapse jobs aside later silent => exact (ih present).elapse jobs aside silent
    | ring timers =>
      have going := (Exchange.alike_wake left.exchange).kin.isOver.symm.trans present
      exact (ih going).ring found timers
    | fall timers first => exact (ih present).fall timers

end View
end HttpExchange
