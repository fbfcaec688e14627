import HttpExchange.Proofs.Delivery
import HttpExchange.Proofs.Exchange.Ending
import HttpExchange.Proofs.Schedule.Deadline

/-!
# When a request ends

A request that is not interrupted ends with the result of its transport, or at its deadline,
whichever comes first; in one instant the transport wins, unless it yields there.
-/

namespace HttpExchange

/-- A run begins at a moment. -/
def Moment.isBegan : Moment → Bool
  | .began => true
  | .event _ | .interrupted _ | .resolved _ | .ended => false

/-- The instant of the first run. -/
def Record.start? (record : Record) : Option Nat :=
  (record.history.find? fun entry => entry.2.isBegan).map Prod.fst

theorem Record.start?_extend {left right : Record} {more : List (Nat × Moment)}
    (history : right.history = left.history ++ more)
    (unbegun : ∀ entry ∈ more, entry.2.isBegan = false) : right.start? = left.start? := by
  have none : more.find? (fun entry => entry.2.isBegan) = none :=
    List.find?_eq_none.2 fun entry member => by simp [unbegun entry member]
  rw [start?, start?, history, List.find?_append, none, Option.or_none]

/-- The first run is the first. -/
theorem Record.start?_of_some {left right : Record} {more : List (Nat × Moment)} {start : Nat}
    (history : right.history = left.history ++ more) (began : left.start? = some start) :
    right.start? = some start := by
  obtain ⟨entry, found, rfl⟩ := Option.map_eq_some_iff.1 began
  rw [start?, history, List.find?_append, found]
  rfl

namespace View

theorem Told.mem {effects : List Effect} {moments : List Moment} (told : Told effects moments)
    {moment : Moment} (member : .moment moment ∈ effects) : moment ∈ moments := by
  induction told with
  | nil => cases member
  | cons effect answer told ih =>
    rcases List.mem_cons.1 member with rfl | member
    · exact List.mem_append_left _ List.mem_cons_self
    · exact List.mem_append_right _ (ih member)

/-- How far a request got by `now` that is not interrupted. -/
structure Timely (number : Nat) (view : View) (record : Record) : Prop where
  fresh : record.exchange.phase = .fresh → record.start? = none
  /-- While it waits, its transport is on its course and its deadline is heeded. -/
  waiting : ∀ transport deadline, record.exchange.phase = .waiting transport deadline →
    ∃ start, record.start? = some start ∧
      deadline = record.exchange.plan.deadlineFrom start true ∧
      OnCourse record.exchange.plan start view.now transport ∧
      (record.exchange.plan.timeout ≠ 0 →
        Heeds number (start + record.exchange.plan.timeout) view record.exchange transport.wait)
  /-- When it has ended, it ended as its plan tells. -/
  ended : record.exchange.phase = .ended → ∃ start ending, record.start? = some start ∧
    record.exchange.plan.ending? = some ending ∧ record.exchange.status = ending.status ∧
    HandsOver record.exchange.plan.mode ending.result fun moment =>
      (start + ending.delay, moment) ∈ record.history

/-- What happens between two runs of an exchange. -/
theorem Timely.extend {number : Nat} {before after : View} {left right : Record}
    (timely : Timely number before left) (kin : Exchange.Kin left.exchange right.exchange)
    (now : after.now = before.now) (more : List (Nat × Moment))
    (history : right.history = left.history ++ more)
    (unbegun : ∀ entry ∈ more, entry.2.isBegan = false)
    (heeds : left.exchange.isOver = false → ∀ deadline wait,
      Heeds number deadline before left.exchange wait →
        Heeds number deadline after right.exchange wait) : Timely number after right := by
  have began := Record.start?_extend history unbegun
  obtain ⟨fresh, waiting, ended⟩ := timely
  refine ⟨fun phase => ?_, fun transport deadline phase => ?_, fun phase => ?_⟩
  · rw [began]
    exact fresh (kin.phase.symm.trans phase)
  · obtain ⟨start, there, same, onCourse, heeded⟩ := waiting transport deadline
      (kin.phase.symm.trans phase)
    have present : left.exchange.isOver = false := by
      simp [Exchange.isOver, kin.phase.symm.trans phase]
    rw [began, kin.plan, now]
    exact ⟨start, there, same, onCourse, fun timed => heeds present _ _ (heeded timed)⟩
  · obtain ⟨start, ending, there, same, status, hands⟩ := ended (kin.phase.symm.trans phase)
    rw [began, kin.plan, kin.status, history]
    exact ⟨start, ending, there, same, status, hands.imp fun _ => List.mem_append_left _⟩

/-- After a run, of which some moments are remembered, a request got as far as it should. -/
def RunsTimely (number : Nat) (view : View) (record : Record) (jobs : List Job)
    (moments : List Moment) : Prop :=
  Timely number
    ({ view with jobs := jobs }.ran number (record.exchange.run number view.now) moments)
    ⟨(record.exchange.run number view.now).exchange,
      record.history ++ moments.map fun moment => (view.now, moment)⟩

theorem timely_ran {number start : Nat} {view : View} {record : Record} {moments : List Moment}
    {jobs : List Job} (told : Told (record.exchange.run number view.now).effects moments)
    (comes : Comes record.exchange.plan start view.now (record.exchange.run number view.now))
    (began : Record.start? ⟨(record.exchange.run number view.now).exchange,
      record.history ++ moments.map fun moment => (view.now, moment)⟩ = some start)
    (first : ∀ transport, (record.exchange.run number view.now).exchange.phase =
        .waiting transport (record.exchange.plan.deadlineFrom start true) →
      record.exchange.plan.timeout ≠ 0 → view.now < start + record.exchange.plan.timeout →
      WakesFirst (start + record.exchange.plan.timeout) (view.timers ++
        View.alarms number (Effect.instants (record.exchange.run number view.now).effects))) :
    RunsTimely number view record jobs moments := by
  have plan := record.exchange.run_plan number view.now
  rw [RunsTimely]
  generalize record.exchange.run number view.now = turn at *
  cases comes with
  | waits waiting onCourse early =>
    refine ⟨fun phase => ?_, fun transport deadline phase => ?_, fun phase => ?_⟩
    · cases waiting.symm.trans phase
    · cases waiting.symm.trans phase
      refine ⟨start, began, by rw [plan], ?_, fun timed => .inl ?_⟩
      · rw [ran_now, plan]
        exact onCourse
      · rw [ran_now, ran_timers]
        rw [plan] at timed ⊢
        exact ⟨early timed, first _ waiting timed (early timed)⟩
    · cases waiting.symm.trans phase
  | ends same closed due status hands =>
    refine ⟨fun phase => ?_, fun transport deadline phase => ?_, fun _ => ?_⟩
    · cases closed.symm.trans phase
    · cases closed.symm.trans phase
    · rw [plan]
      refine ⟨start, _, began, same, status, hands.imp fun moment member => ?_⟩
      rw [← due]
      exact List.mem_append_right _ (List.mem_map_of_mem (told.mem member))

/-- The first run of an exchange is when it began. -/
theorem start?_of_first {number now : Nat} {record : Record} {moments : List Moment}
    (fresh : record.exchange.phase = .fresh) (unbegun : record.start? = none)
    (told : Told (record.exchange.run number now).effects moments) :
    Record.start? ⟨(record.exchange.run number now).exchange,
      record.history ++ moments.map fun moment => (now, moment)⟩ = some now := by
  have begins : (record.exchange.run number now).effects = .moment .began ::
      ({ record.exchange with woken := false }.firstRun number now).effects := by
    rw [Exchange.run_of_fresh fresh]
    rfl
  rw [begins] at told
  cases told with
  | cons _ answer rest =>
    rw [Record.start?, Option.map_eq_none_iff] at unbegun
    rw [Record.start?, List.find?_append, unbegun]
    rfl

theorem timely_firstRun {number : Nat} {view : View} {record : Record} {moments : List Moment}
    {jobs : List Job} (queue : view.jobs = .exchange number :: jobs)
    (told : Told (record.exchange.run number view.now).effects moments)
    (watched : view.Watched number record.exchange) (fresh : record.exchange.phase = .fresh)
    (unbegun : record.start? = none) (addressed : record.exchange.plan.destination ≠ "")
    (lasting : Lasting record.exchange.plan.script)
    (calm : (record.exchange.run number view.now).exchange.interrupted = false) :
    RunsTimely number view record jobs moments := by
  have comes := Exchange.comes_run_of_fresh fresh addressed lasting number calm
  refine timely_ran told comes ?_ ?_
  · exact start?_of_first fresh unbegun told
  · intro transport waiting timed early
    rw [Plan.deadlineFrom, if_neg timed] at waiting
    have present : (record.exchange.run number view.now).exchange.isOver = false := by
      simp [Exchange.isOver, waiting]
    have after := watched.ran queue present moments
    -- A late tick could go off at the deadline before its timer, but none was on its way.
    have none : ∀ timer ∈ view.timers, timer.job.isLate = false := by
      have late := (watched.steady.fresh fresh).1
      intro timer member
      have counted := List.countP_eq_zero.1 (Nat.eq_zero_of_add_eq_zero_left late) timer member
      simpa using counted
    have first := after.wakesFirst waiting (by rw [ran_now]; exact early) (by
      rw [ran_timers, List.forall_mem_append]
      refine ⟨none, fun timer member => ?_⟩
      obtain ⟨instant, -, rfl⟩ := List.mem_map.1 member
      rfl)
    rwa [ran_timers] at first

theorem timely_laterRun {number : Nat} {view : View} {record : Record} {moments : List Moment}
    {jobs : List Job} (told : Told (record.exchange.run number view.now).effects moments)
    (watched : view.Watched number record.exchange) {transport : Transport}
    {deadline : Option Deadline} (waiting : record.exchange.phase = .waiting transport deadline)
    (timely : Timely number view record)
    (calm : (record.exchange.run number view.now).exchange.interrupted = false) :
    RunsTimely number view record jobs moments := by
  obtain ⟨start, began, rfl, onCourse, heeded⟩ := timely.waiting transport deadline waiting
  have ahead : ∀ instant, transport.wait = .clock instant → view.now ≤ instant :=
    fun instant clock => (watched.steady.timed transport _ waiting instant clock).1
  have comes := Exchange.comes_run_of_waiting waiting onCourse ahead (fun timed =>
    (heeded timed).imp And.left fun ⟨there, drained, moves, _⟩ => ⟨there, moves, drained⟩)
    number calm
  refine timely_ran told comes (Record.start?_of_some rfl began) fun _ _ timed early => ?_
  rcases heeded timed with ⟨-, first⟩ | ⟨there, -⟩
  · exact first.append _
  · exact absurd there (Nat.ne_of_lt early)

/-- The clock moves no further than the transport and the deadline let it. -/
theorem Timely.elapse {number limit : Nat} {view : View} {record : Record}
    (timely : Timely number view record)
    (watched : record.exchange.isOver = false → view.Watched number record.exchange)
    (jobs : view.jobs = []) (aside : view.aside = false) (later : view.now ≤ limit)
    (silent : ∀ timer ∈ view.timers, limit ≤ timer.instant) :
    Timely number { view with now := limit } record := by
  refine ⟨timely.fresh, fun transport deadline waiting => ?_, timely.ended⟩
  obtain ⟨start, began, same, onCourse, heeded⟩ := timely.waiting transport deadline waiting
  have watched := watched (by simp [Exchange.isOver, waiting])
  obtain ⟨-, -, other, set, there, moves, clocks, -⟩ := watched.resting jobs aside
  cases there.symm.trans waiting
  refine ⟨start, began, same, ?_, fun timed => ?_⟩
  · exact onCourse.elapse later moves fun instant clock =>
      le_of_mem_rings silent instant (clocks instant clock)
  · exact (heeded timed).elapse silent jobs (watched.drained jobs aside) moves

theorem timely_run {number : Nat} {view : View} {record : Record} {moments : List Moment}
    {jobs : List Job} (queue : view.jobs = .exchange number :: jobs)
    (told : Told (record.exchange.run number view.now).effects moments)
    (watched : record.exchange.isOver = false → view.Watched number record.exchange)
    (timely : Timely number view record) (addressed : record.exchange.plan.destination ≠ "")
    (lasting : Lasting record.exchange.plan.script)
    (calm : (record.exchange.run number view.now).exchange.interrupted = false) :
    RunsTimely number view record jobs moments := by
  cases phase : record.exchange.phase with
  | fresh =>
    have watched := watched (by simp [Exchange.isOver, phase])
    exact timely_firstRun queue told watched phase (timely.fresh phase) addressed lasting calm
  | waiting transport deadline =>
    have watched := watched (by simp [Exchange.isOver, phase])
    exact timely_laterRun told watched phase timely calm
  | ended =>
    rw [RunsTimely]
    rw [Exchange.run_of_ended phase] at told ⊢
    cases told
    have closed : record.exchange.isOver = true := by simp [Exchange.isOver, phase]
    exact timely.extend ⟨rfl, rfl, rfl⟩ (ran_now _ _ _ _) [] rfl (by simp) fun present =>
      absurd closed (by simp [present])

theorem timely {view : View} {number : Nat} (reached : view.Reachable number) {record : Record}
    (found : view.record = some record) (addressed : record.exchange.plan.destination ≠ "")
    (lasting : Lasting record.exchange.plan.script) (calm : .interrupted true ∉ record.moments) :
    Timely number view record := by
  refine reached.acts_induction (motive := fun view record =>
    record.exchange.plan.destination ≠ "" → Lasting record.exchange.plan.script →
      .interrupted true ∉ record.moments → Timely number view record) ?_ ?_ found addressed lasting
    calm
  · intro view plan _ _ _ _ _
    exact ⟨fun _ => rfl, nofun, nofun⟩
  · intro before left after right earlier found there acts ih addressed lasting calm
    cases acts with
    | interrupt =>
      have kin := left.exchange.alike_interrupt.kin
      have previous := ih (by rwa [← kin.plan]) (by rwa [← kin.plan])
        (Record.not_mem_of_extend rfl calm)
      exact previous.extend kin (stir_now _ _ _) [_] rfl (by simp [Moment.isBegan])
        fun _ _ _ heeds => heeds.stir found _ (Exchange.interrupt_ticks _)
    | callBack =>
      have kin := left.exchange.alike_wake.kin
      have previous := ih (by rwa [← kin.plan]) (by rwa [← kin.plan]) calm
      exact previous.extend kin (stir_now _ _ _) [] (List.append_nil _).symm nofun
        fun _ _ _ heeds => heeds.stir found _ (Exchange.wake_ticks _)
    | @run jobs moments queue told =>
      obtain ⟨ledger, accounts⟩ := Ledger.exists_accounts
        (Steps.reachable earlier (.single (.run found queue told))) there
      have plan := left.exchange.run_plan number before.now
      have previous := ih (by rwa [← plan]) (by rwa [← plan]) (Record.not_mem_of_extend rfl calm)
      have going := eq_false_of_ne_true fun interrupted =>
        calm (accounts.interrupted_iff.1 interrupted)
      exact timely_run queue told (earlier.watched found) previous (by rwa [← plan])
        (by rwa [← plan]) going
    | postpone queue =>
      exact (ih addressed lasting calm).extend (.refl _) rfl [] (List.append_nil _).symm nofun
        fun _ _ _ heeds => heeds.postpone queue _
    | @reportLate progress delay jobs queue =>
      have kin := (left.exchange.kin_report progress).trans (Exchange.kin_release _)
      have previous := ih (by rwa [← kin.plan]) (by rwa [← kin.plan])
        (Record.not_mem_of_extend rfl calm)
      exact previous.extend kin (stir_now _ _ _) [_] rfl (by simp [Moment.isBegan])
        fun _ _ _ heeds => heeds.reportLate queue _
    | elapse jobs aside later silent =>
      exact (ih addressed lasting calm).elapse (earlier.watched found) jobs aside later silent
    | ring timers =>
      have kin := left.exchange.alike_wake.kin
      have previous := ih (by rwa [← kin.plan]) (by rwa [← kin.plan]) calm
      exact previous.extend kin (stir_now _ _ _) [] (List.append_nil _).symm nofun
        fun present _ _ heeds => heeds.ring (earlier.watched found present) found timers
    | fall timers first =>
      exact (ih addressed lasting calm).extend (.refl _) rfl [] (List.append_nil _).symm nofun
        fun _ _ _ heeds => heeds.fall timers first

end View

/-! ### In time -/

/-- A request ends at an instant and not before, with a result. -/
structure Record.EndsAt (now instant : Nat) (result : RequestResult) (status : TransportStatus)
    (record : Record) : Prop where
  /-- It is not over before that instant, and is when that has passed. -/
  running : record.exchange.isOver = false → now ≤ instant
  /-- When it is over, the result was handed over in that instant. -/
  closed : record.exchange.isOver = true → instant ≤ now ∧ record.exchange.status = status ∧
    HandsOver record.exchange.plan.mode result fun moment => (instant, moment) ∈ record.history
  /-- It has no other result. -/
  only : ∀ other found, (other, .resolved found) ∈ record.history → other = instant ∧ found = result

/-- When a request ends whose first run began at `start`. -/
structure Record.EndsOnTime (start now : Nat) (record : Record) : Prop where
  /-- What its transport returns in time is its result. -/
  returned : ∀ course, Course.of? record.exchange.plan.script = some course →
    record.exchange.plan.InTime course →
    record.EndsAt now (start + course.delay)
      (Response.classify record.exchange.plan.options.kind course.delay course.result)
      (Exchange.statusOf course.result)
  /-- Else it ends at its deadline, and the transport is dropped. -/
  expired : record.exchange.plan.timeout ≠ 0 →
    (∀ course, Course.of? record.exchange.plan.script = some course →
      ¬ record.exchange.plan.InTime course) →
    record.EndsAt now (start + record.exchange.plan.timeout) (.error .timeout) .dropped
  /-- Without a deadline a transport that hangs is waited for. -/
  hanging : record.exchange.plan.timeout = 0 → Course.of? record.exchange.plan.script = none →
    record.exchange.isOver = false
  /-- Without a deadline there is no timeout. -/
  untimed : record.exchange.plan.timeout = 0 →
    .timeout ∉ record.outcomes ∧ ∀ instant, (instant, .resolved (.error .timeout)) ∉ record.history
  /-- A response tells how long the transport took, and that is no longer than it had. -/
  elapsed : ∀ instant response, (instant, .resolved (.ok response)) ∈ record.history →
    ∃ course, Course.of? record.exchange.plan.script = some course ∧
      response.elapsed = course.delay ∧
      (record.exchange.plan.timeout ≠ 0 → course.delay ≤ record.exchange.plan.timeout)
  /-- So does the outcome that the callback receives. -/
  received : ∀ payload elapsed headers, .success payload elapsed headers ∈ record.outcomes →
    ∃ course, Course.of? record.exchange.plan.script = some course ∧ elapsed = course.delay ∧
      (record.exchange.plan.timeout ≠ 0 → course.delay ≤ record.exchange.plan.timeout)

namespace Ledger.Accounts

variable {ledger : Ledger} {record : Record}

/-- A request is decided once. -/
theorem decides_unique (accounts : Accounts ledger record) {first second : Nat × Moment}
    (present : first ∈ record.history) (also : second ∈ record.history)
    (decides : first.2.decides = true) (decided : second.2.decides = true) : first = second := by
  obtain ⟨front, back, history⟩ := List.append_of_mem present
  have follows := accounts.follows
  rw [Record.moments, history, List.map_append, List.map_cons] at follows
  obtain ⟨before, after⟩ := follows.decides_once rfl decides
  rw [history, List.mem_append, List.mem_cons] at also
  rcases also with member | rfl | member
  · cases decided.symm.trans (before _ (List.mem_map_of_mem member))
  · rfl
  · cases decided.symm.trans (after _ (List.mem_map_of_mem member))

/-- A request whose result is known is over between two runs. -/
theorem over_of_resolved (accounts : Accounts ledger record) {instant : Nat}
    {result : RequestResult} (member : (instant, .resolved result) ∈ record.history) :
    record.exchange.isOver = true := by
  cases closed : record.exchange.isOver with
  | true => rfl
  | false =>
    have still := accounts.still (accounts.fits.closed.trans closed)
    cases stage : ledger.stage with
    | pending =>
      cases (accounts.follows.pending_iff rfl).1 stage _ (List.mem_map_of_mem member)
    | stopped =>
      obtain ⟨entry, present, same⟩ := List.mem_map.1 (accounts.stopped_iff.1 stage)
      cases accounts.decides_unique member present rfl (by rw [same]; rfl)
      cases same
    | resolved | concluded =>
      rw [stage] at still
      exact still.elim

end Ledger.Accounts

namespace View.Timely

variable {number start : Nat} {view : View} {record : Record} {ledger : Ledger}

/-- A request that is not over has not passed its end. -/
theorem now_le (timely : Timely number view record) (began : record.start? = some start)
    (present : record.exchange.isOver = false) {ending : Ending}
    (ends : record.exchange.plan.ending? = some ending) : view.now ≤ start + ending.delay := by
  cases phase : record.exchange.phase with
  | fresh => cases (timely.fresh phase).symm.trans began
  | waiting transport deadline =>
    obtain ⟨first, there, -, onCourse, heeded⟩ := timely.waiting transport deadline phase
    obtain rfl : first = start := Option.some.inj (there.symm.trans began)
    rcases Plan.of_ending? ends with ⟨course, returns, -, rfl⟩ | ⟨timed, rfl⟩
    · exact onCourse.le_of_returns returns
    · exact (heeded timed).le
  | ended => simp [Exchange.isOver, phase] at present

/-- A request that is over ended as its plan tells. -/
theorem of_over (timely : Timely number view record) (began : record.start? = some start)
    (closed : record.exchange.isOver = true) : ∃ ending,
      record.exchange.plan.ending? = some ending ∧ record.exchange.status = ending.status ∧
        HandsOver record.exchange.plan.mode ending.result fun moment =>
          (start + ending.delay, moment) ∈ record.history := by
  cases phase : record.exchange.phase with
  | fresh => simp [Exchange.isOver, phase] at closed
  | waiting => simp [Exchange.isOver, phase] at closed
  | ended =>
    obtain ⟨first, ending, there, ends⟩ := timely.ended phase
    obtain rfl : first = start := Option.some.inj (there.symm.trans began)
    exact ⟨ending, ends⟩

/-- What is resolved is what the plan tells. -/
theorem of_resolved (timely : Timely number view record) (began : record.start? = some start)
    (accounts : Ledger.Accounts ledger record) {instant : Nat} {result : RequestResult}
    (member : (instant, .resolved result) ∈ record.history) : ∃ ending,
      record.exchange.plan.ending? = some ending ∧ instant = start + ending.delay ∧
        result = ending.result := by
  obtain ⟨ending, ends, -, hands⟩ := timely.of_over began (accounts.over_of_resolved member)
  cases accounts.decides_unique member hands.resolved rfl rfl
  exact ⟨ending, ends, rfl, rfl⟩

theorem endsAt (timely : Timely number view record) (began : record.start? = some start)
    (accounts : Ledger.Accounts ledger record)
    (past : ∀ entry ∈ record.history, entry.1 ≤ view.now) {ending : Ending}
    (ends : record.exchange.plan.ending? = some ending) :
    record.EndsAt view.now (start + ending.delay) ending.result ending.status := by
  refine ⟨fun present => timely.now_le began present ends, fun closed => ?_,
    fun other result member => ?_⟩
  · obtain ⟨same, told, status, hands⟩ := timely.of_over began closed
    obtain rfl : same = ending := Option.some.inj (told.symm.trans ends)
    exact ⟨past _ hands.ended, status, hands⟩
  · obtain ⟨same, told, rfl, rfl⟩ := timely.of_resolved began accounts member
    obtain rfl : same = ending := Option.some.inj (told.symm.trans ends)
    exact ⟨rfl, rfl⟩

/-- A response tells how long the transport took. -/
theorem elapsed (timely : Timely number view record) (began : record.start? = some start)
    (accounts : Ledger.Accounts ledger record) {instant : Nat} {response : Response}
    (member : (instant, .resolved (.ok response)) ∈ record.history) :
    ∃ course, Course.of? record.exchange.plan.script = some course ∧
      response.elapsed = course.delay ∧
      (record.exchange.plan.timeout ≠ 0 → course.delay ≤ record.exchange.plan.timeout) := by
  obtain ⟨ending, ends, -, same⟩ := timely.of_resolved began accounts member
  rcases Plan.of_ending? ends with ⟨course, returns, inTime, rfl⟩ | ⟨-, rfl⟩
  · have returned : Returned course.delay (.ok response) := by
      rw [same]
      exact returned_classify _ _ _
    refine ⟨course, returns, returned.elapsed_eq, fun timed => ?_⟩
    rcases inTime with untimed | early | ⟨there, -⟩
    · exact absurd untimed timed
    · exact Nat.le_of_lt early
    · exact Nat.le_of_eq there
  · cases same

theorem endsOnTime (timely : Timely number view record) (began : record.start? = some start)
    (accounts : Ledger.Accounts ledger record)
    (past : ∀ entry ∈ record.history, entry.1 ≤ view.now) :
    record.EndsOnTime start view.now := by
  have resolved : ∀ outcome ∈ record.outcomes, outcome.isTerminal = true → ∃ instant result,
      (instant, .resolved result) ∈ record.history ∧ Outcome.ofResult? result = some outcome := by
    intro outcome received terminal
    obtain ⟨result, member, same⟩ := accounts.result_of_outcome received terminal
    obtain ⟨⟨instant, _⟩, present, rfl⟩ := List.mem_map.1 member
    exact ⟨instant, result, present, same⟩
  have untimed : record.exchange.plan.timeout = 0 → ∀ instant,
      (instant, .resolved (.error .timeout)) ∉ record.history := by
    intro none instant member
    obtain ⟨ending, ends, -, same⟩ := timely.of_resolved began accounts member
    rcases Plan.of_ending? ends with ⟨course, -, -, rfl⟩ | ⟨timed, -⟩
    · exact (returned_classify _ _ _).ne_timeout same.symm
    · exact timed none
  constructor
  · exact fun course returns inTime =>
      timely.endsAt began accounts past (Plan.ending?_of_returns returns inTime)
  · exact fun timed late =>
      timely.endsAt began accounts past (Plan.ending?_of_expires timed late)
  · intro none hangs
    refine eq_false_of_ne_true fun closed => ?_
    obtain ⟨ending, ends, -⟩ := timely.of_over began closed
    rcases Plan.of_ending? ends with ⟨course, returns, -⟩ | ⟨timed, -⟩
    · cases hangs.symm.trans returns
    · exact timed none
  · refine fun none => ⟨fun received => ?_, untimed none⟩
    obtain ⟨instant, result, member, same⟩ := resolved _ received rfl
    obtain rfl : result = .error .timeout := by
      cases result with
      | ok response => cases same
      | error fault => cases fault <;> first | rfl | cases same
    exact untimed none instant member
  · exact fun _ _ => timely.elapsed began accounts
  · intro payload elapsed headers received
    obtain ⟨instant, result, member, same⟩ := resolved _ received rfl
    cases result with
    | ok response =>
      cases same
      exact timely.elapsed began accounts member
    | error fault => cases fault <;> cases same

end View.Timely

/-- Every request of every schedule that has a destination and whose script only has waits that
last ends when its transport returns or its deadline is reached, if it is not interrupted. -/
theorem ends_on_time {schedule : Schedule} (reached : schedule.Reachable) {number : Nat}
    {record : Record} (found : schedule.records[number]? = some record)
    (addressed : record.exchange.plan.destination ≠ "")
    (lasting : Lasting record.exchange.plan.script) (calm : .interrupted true ∉ record.moments)
    {start : Nat} (began : record.start? = some start) :
    record.EndsOnTime start schedule.now := by
  have there := reached.view number
  obtain ⟨ledger, accounts⟩ := Ledger.exists_accounts there found
  exact (View.timely there found addressed lasting calm).endsOnTime began accounts
    (there.past found)

/-- A transport yields in the instant of the deadline, before it returns a response. -/
def overdue : List Command :=
  [.start ⟨.send (.present none), "http://localhost/", .empty, 5, ⟨.raw, .post, true⟩,
    [.sleep 3, .lateTick 2 ⟨1, none⟩, .sleep 2, .yield, .respond ⟨200, [], .octets []⟩]⟩, .sleep 9]

theorem ends_at_deadline_when_yielding : ∃ record,
    (Schedule.initial.after overdue).records[0]? = some record ∧ record.EndsOnTime 0 9 ∧
      record.exchange.isOver = true ∧ record.outcomes = [.timeout] := by
  have reached := Schedule.reachable_after overdue
  have lasting : Lasting [.sleep 3, .lateTick 2 ⟨1, none⟩, .sleep 2, .yield,
      .respond ⟨200, [], .octets []⟩] := by
    simp [Lasting]
  exact ⟨_, rfl, @ends_on_time _ reached 0 _ rfl (by decide) lasting
    (@not_interrupted _ reached 0 _ rfl rfl) 0 rfl, rfl, rfl⟩

end HttpExchange
