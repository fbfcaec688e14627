import HttpExchange.Proofs.Exchange.Effects
import HttpExchange.Proofs.Schedule.Reachable

/-!
# One exchange in a schedule

A view is what a schedule is to one of its exchanges.  What every step of a view keeps holds of
every exchange in every reachable schedule.
-/

namespace HttpExchange

/-- The number of the exchange that a job is for. -/
def Job.number : Job → Nat
  | exchange number => number
  | lateTick number _ _ => number

/-- What a schedule is to one exchange. -/
structure View where
  /-- The present instant. -/
  now : Nat
  /-- The exchange and what happened to it, once it was started. -/
  record : Option Record
  /-- Its jobs in the queue, in order. -/
  jobs : List Job
  /-- It gave way. -/
  aside : Bool
  /-- Its timers, in the order in which they were set. -/
  timers : List Timer

/-- What a schedule is to the exchange with a number. -/
def Schedule.view (schedule : Schedule) (number : Nat) : View :=
  { now := schedule.now
    record := schedule.records[number]?
    jobs := schedule.queue.filter fun job => job.number == number
    aside := schedule.aside.contains number
    timers := schedule.timers.filter fun timer => timer.job.number == number }

namespace View

/-- Nothing was started. -/
def empty (now : Nat) : View := ⟨now, none, [], false, []⟩

/-- Note a moment. -/
def note (view : View) (moment : Moment) : View :=
  { view with
    record := view.record.map fun record =>
      { record with history := record.history ++ [(view.now, moment)] } }

/-- Change the exchange, and queue it if that woke it. -/
def stir (number : Nat) (view : View) (change : Exchange → Exchange) : View :=
  match view.record with
  | none => view
  | some record =>
    { view with
      record := some { record with exchange := change record.exchange }
      jobs :=
        if (change record.exchange).woken && !record.exchange.woken then
          view.jobs ++ [.exchange number]
        else view.jobs }

/-- Report late progress. -/
def reportLate (number : Nat) (view : View) (progress : Progress) : View :=
  (view.note (.event (.reported progress))).stir number fun exchange =>
    (exchange.report progress).release

/-- What is remembered of an effect, given the answer if it is an abort. -/
def told (answer : Option Bool) : Effect → List Moment
  | .moment moment => [moment]
  | .abort _ => [.event (.aborting answer)]
  | .timer _ | .giveWay | .lateTick .. => []

/-- Some moments are remembered of effects. -/
inductive Told : List Effect → List Moment → Prop where
  | nil : Told [] []
  | cons (effect : Effect) (answer : Option Bool) {effects : List Effect} {moments : List Moment} :
      Told effects moments → Told (effect :: effects) (told answer effect ++ moments)

/-- Late ticks as jobs. -/
def lateJobs (number : Nat) (ticks : List (Nat × Progress)) : List Job :=
  ticks.map fun tick => .lateTick number tick.2 (some tick.1)

/-- The timers that wake an exchange at instants. -/
def alarms (number : Nat) (instants : List Nat) : List Timer :=
  instants.map fun instant => ⟨instant, .exchange number⟩

/-- Do what the exchange asked for, some moments being remembered of it. -/
def carryOut (number : Nat) (view : View) (effects : List Effect) (moments : List Moment) : View :=
  { view with
    record := view.record.map fun record =>
      { record with history := record.history ++ moments.map fun moment => (view.now, moment) }
    jobs := view.jobs ++ lateJobs number (Effect.lateTicks effects)
    aside := view.aside || Effect.givesWay effects
    timers := view.timers ++ alarms number (Effect.instants effects) }

/-- The view after a turn of the exchange, some moments being remembered of it. -/
def ran (number : Nat) (view : View) (turn : Exchange.Turn) (moments : List Moment) : View :=
  let changed : View := { view with
    record := view.record.map fun record => { record with exchange := turn.exchange } }
  let after := changed.carryOut number turn.effects moments
  if turn.exchange.woken then { after with jobs := after.jobs ++ [.exchange number] } else after

/-- One thing that can happen to an exchange. -/
inductive Step (number : Nat) : View → View → Prop where
  /-- It is started. -/
  | start {view : View} (plan : Plan) (absent : view.record = none) :
      Step number view
        { view with
          record := some ⟨.start plan, []⟩
          jobs := view.jobs ++ [.exchange number] }
  /-- It is interrupted from elsewhere. -/
  | interrupt {view : View} {record : Record} (found : view.record = some record) :
      Step number view
        ((view.stir number (·.interrupt.1)).note (.interrupted record.exchange.interrupt.2))
  /-- What gave way is woken, and it among them. -/
  | callBack (view : View) :
      Step number view { view.stir number Exchange.wake with aside := false }
  /-- It runs. -/
  | run {view : View} {record : Record} {jobs : List Job} (found : view.record = some record)
      (queue : view.jobs = .exchange number :: jobs) {moments : List Moment}
      (told : Told (record.exchange.run number view.now).effects moments) :
      Step number view
        ({ view with jobs := jobs }.ran number (record.exchange.run number view.now) moments)
  /-- A late tick starts its delay. -/
  | postpone {view : View} {progress : Progress} {delay : Nat} {jobs : List Job}
      (queue : view.jobs = .lateTick number progress (some delay) :: jobs)
      (positive : delay ≠ 0) :
      Step number view
        { view with
          jobs := jobs
          timers := view.timers ++ [⟨view.now + delay, .lateTick number progress none⟩] }
  /-- A late tick is reported. -/
  | reportLate {view : View} {progress : Progress} {delay : Option Nat} {jobs : List Job}
      (queue : view.jobs = .lateTick number progress delay :: jobs) (due : delay.getD 0 = 0) :
      Step number view ({ view with jobs := jobs }.reportLate number progress)
  /-- Nothing can run, and the clock moves, but not past a timer. -/
  | elapse {view : View} {limit : Nat} (jobs : view.jobs = []) (aside : view.aside = false)
      (later : view.now ≤ limit) (silent : ∀ timer ∈ view.timers, limit ≤ timer.instant) :
      Step number view { view with now := limit }
  /-- The first timer that is due wakes it. -/
  | ring {view : View} {front back : List Timer}
      (timers : view.timers = front ++ ⟨view.now, .exchange number⟩ :: back)
      (first : ∀ timer ∈ front, timer.instant ≠ view.now) :
      Step number view ({ view with timers := front ++ back }.stir number Exchange.wake)
  /-- The first timer that is due ends the delay of a late tick. -/
  | fall {view : View} {front back : List Timer} {progress : Progress} {delay : Option Nat}
      (timers : view.timers = front ++ ⟨view.now, .lateTick number progress delay⟩ :: back)
      (first : ∀ timer ∈ front, timer.instant ≠ view.now) :
      Step number view
        { view with
          timers := front ++ back
          jobs := view.jobs ++ [.lateTick number progress delay] }

/-- Some things happen to an exchange, one after the other. -/
def Steps (number : Nat) : View → View → Prop :=
  Relation.ReflTransGen (Step number)

/-- A view of an exchange that comes about from nothing. -/
def Reachable (number : Nat) (view : View) : Prop :=
  ∃ now, Steps number (empty now) view

/-- Before it is started, an exchange has no jobs and no timers. -/
def Tidy (view : View) : Prop :=
  view.record = none → view.jobs = [] ∧ view.aside = false ∧ view.timers = []

theorem Steps.reachable {number : Nat} {before after : View} (reached : before.Reachable number)
    (steps : Steps number before after) : after.Reachable number := by
  obtain ⟨now, earlier⟩ := reached
  exact ⟨now, earlier.trans steps⟩

/-- What holds before an exchange is started and is kept by every step holds always. -/
theorem Reachable.induction {number : Nat} {motive : View → Prop}
    (initial : ∀ now, motive (empty now))
    (step : ∀ before after, before.Reachable number → Step number before after → motive before →
      motive after)
    {view : View} (reached : view.Reachable number) : motive view := by
  obtain ⟨now, steps⟩ := reached
  induction steps with
  | refl => exact initial now
  | tail steps last ih => exact step _ _ ⟨now, steps⟩ last ih

theorem stir_none {number : Nat} {view : View} (absent : view.record = none)
    (change : Exchange → Exchange) : view.stir number change = view := by
  simp only [stir, absent]

theorem Reachable.tidy {number : Nat} {view : View} (reached : view.Reachable number) :
    view.Tidy := by
  refine reached.induction (fun now absent => ⟨rfl, rfl, rfl⟩) ?_
  intro before after _ step tidy
  cases step with
  | start plan absent => exact nofun
  | interrupt found => simp [Tidy, stir, note, found]
  | callBack =>
    intro absent
    cases found : before.record with
    | none =>
      obtain ⟨jobs, -, timers⟩ := tidy found
      simp only [stir_none found]
      exact ⟨jobs, trivial, timers⟩
    | some record => simp [stir, found] at absent
  | run found queue told =>
    intro absent
    simp only [ran, carryOut, found] at absent
    split at absent <;> simp at absent
  | postpone queue positive =>
    intro absent
    simp [(tidy absent).1] at queue
  | reportLate queue due =>
    intro absent
    cases found : before.record with
    | none => simp [(tidy found).1] at queue
    | some record => simp [reportLate, stir, note, found] at absent
  | elapse => exact tidy
  | ring timers first =>
    intro absent
    cases found : before.record with
    | none => simp [(tidy found).2.2] at timers
    | some record => simp [stir, found] at absent
  | fall timers first =>
    intro absent
    simp [(tidy absent).2.2] at timers

/-! ### Timers -/

@[simp] theorem stir_now (number : Nat) (view : View) (change : Exchange → Exchange) :
    (view.stir number change).now = view.now := by
  cases found : view.record <;> simp [stir, found]

@[simp] theorem stir_timers (number : Nat) (view : View) (change : Exchange → Exchange) :
    (view.stir number change).timers = view.timers := by
  cases found : view.record <;> simp [stir, found]

@[simp] theorem ran_now (number : Nat) (view : View) (turn : Exchange.Turn)
    (moments : List Moment) : (view.ran number turn moments).now = view.now := by
  unfold ran
  dsimp only
  split <;> rfl

@[simp] theorem ran_timers (number : Nat) (view : View) (turn : Exchange.Turn)
    (moments : List Moment) : (view.ran number turn moments).timers =
      view.timers ++ alarms number (Effect.instants turn.effects) := by
  unfold ran
  dsimp only
  split <;> rfl

/-- No timer is past. -/
theorem Reachable.ahead {number : Nat} {view : View} (reached : view.Reachable number) :
    ∀ timer ∈ view.timers, view.now ≤ timer.instant := by
  refine reached.induction (motive := fun view => ∀ timer ∈ view.timers, view.now ≤ timer.instant)
    (fun _ => nofun) ?_
  intro before after _ step ih
  cases step with
  | start => exact ih
  | interrupt =>
    simp only [note, stir_now, stir_timers]
    exact ih
  | callBack =>
    simp only [stir_now, stir_timers]
    exact ih
  | @run record jobs found queue moments told =>
    rw [ran_now, ran_timers, List.forall_mem_append]
    refine ⟨ih, fun timer member => ?_⟩
    obtain ⟨instant, present, rfl⟩ := List.mem_map.1 member
    exact (record.exchange.proper_run number before.now).le_of_mem_instants present
  | postpone =>
    rw [List.forall_mem_append, List.forall_mem_singleton]
    exact ⟨ih, Nat.le_add_right _ _⟩
  | reportLate =>
    simp only [reportLate, note, stir_now, stir_timers]
    exact ih
  | elapse jobs aside later silent => exact silent
  | ring timers first =>
    simp only [stir_now, stir_timers]
    rw [timers, List.forall_mem_append, List.forall_mem_cons] at ih
    exact List.forall_mem_append.2 ⟨ih.1, ih.2.2⟩
  | fall timers first =>
    rw [timers, List.forall_mem_append, List.forall_mem_cons] at ih
    exact List.forall_mem_append.2 ⟨ih.1, ih.2.2⟩

/-! ### Records -/

theorem stir_record (number : Nat) (view : View) (change : Exchange → Exchange) :
    (view.stir number change).record = view.record.map fun record =>
      { record with exchange := change record.exchange } := by
  cases found : view.record <;> simp [stir, found]

theorem interrupt_record {number : Nat} {view : View} {record : Record}
    (found : view.record = some record) (success : Bool) :
    ((view.stir number (·.interrupt.1)).note (.interrupted success)).record =
      some ⟨record.exchange.interrupt.1, record.history ++ [(view.now, .interrupted success)]⟩ := by
  simp [note, stir, found]

theorem ran_record (number : Nat) (view : View) {record : Record}
    (found : view.record = some record) (turn : Exchange.Turn) (moments : List Moment) :
    (view.ran number turn moments).record =
      some ⟨turn.exchange, record.history ++ moments.map fun moment => (view.now, moment)⟩ := by
  unfold ran
  dsimp only
  split <;> simp [carryOut, found]

theorem reportLate_record (number : Nat) (view : View) (progress : Progress) :
    (view.reportLate number progress).record = view.record.map fun record =>
      ⟨(record.exchange.report progress).release,
        record.history ++ [(view.now, .event (.reported progress))]⟩ := by
  cases found : view.record <;> simp [reportLate, stir, note, found]

/-- What a step does to the record of an exchange. -/
inductive Change (number now : Nat) : Option Record → Option Record → Prop where
  | none (record : Option Record) : Change number now record record
  | start (plan : Plan) : Change number now Option.none (some ⟨.start plan, []⟩)
  | wake (record : Record) :
      Change number now (some record) (some { record with exchange := record.exchange.wake })
  | interrupt (record : Record) :
      Change number now (some record) (some ⟨record.exchange.interrupt.1,
        record.history ++ [(now, .interrupted record.exchange.interrupt.2)]⟩)
  | report (record : Record) (progress : Progress) :
      Change number now (some record) (some ⟨(record.exchange.report progress).release,
        record.history ++ [(now, .event (.reported progress))]⟩)
  | run (record : Record) {moments : List Moment}
      (told : Told (record.exchange.run number now).effects moments) :
      Change number now (some record) (some ⟨(record.exchange.run number now).exchange,
        record.history ++ moments.map fun moment => (now, moment)⟩)

theorem change_stir_wake (number : Nat) (view : View) :
    Change number view.now view.record (view.stir number Exchange.wake).record := by
  rw [stir_record]
  cases found : view.record with
  | none => exact .none _
  | some record => exact .wake record

theorem Step.change {number : Nat} {before after : View} (step : Step number before after) :
    Change number before.now before.record after.record := by
  cases step with
  | start plan absent =>
    rw [absent]
    exact .start plan
  | @interrupt record found =>
    rw [interrupt_record found, found]
    exact .interrupt record
  | callBack => exact change_stir_wake number before
  | @run record jobs found queue moments told =>
    rw [ran_record number { before with jobs := jobs } found, found]
    exact .run record told
  | postpone queue positive => exact .none _
  | @reportLate progress delay jobs queue due =>
    rw [reportLate_record]
    cases found : before.record with
    | none => exact .none _
    | some record => exact .report record progress
  | elapse => exact .none _
  | @ring front back timers first =>
    exact change_stir_wake number { before with timers := front ++ back }
  | fall => exact .none _

/-- What holds of a record when its exchange is started and is kept by every change holds of the
record in every reachable view. -/
theorem Reachable.record_induction {number : Nat} {motive : Record → Prop}
    (start : ∀ plan, motive ⟨.start plan, []⟩)
    (change : ∀ now before after, Change number now (some before) (some after) → motive before →
      motive after)
    {view : View} (reached : view.Reachable number) {record : Record}
    (found : view.record = some record) : motive record := by
  revert record
  refine reached.induction (motive := fun view => ∀ {record}, view.record = some record →
    motive record) (fun _ => nofun) ?_
  intro before after _ step ih later present
  have changed := step.change
  rw [present] at changed
  cases earlier : before.record with
  | none =>
    rw [earlier] at changed
    cases changed with
    | start plan => exact start plan
  | some record =>
    rw [earlier] at changed
    exact change before.now record later changed (ih earlier)

/-- What a step does to an exchange that was started: its view and its record, before and after. -/
inductive Acts (number : Nat) : View → Record → View → Record → Prop where
  | interrupt (view : View) (record : Record) :
      Acts number view record
        ((view.stir number (·.interrupt.1)).note (.interrupted record.exchange.interrupt.2))
        ⟨record.exchange.interrupt.1,
          record.history ++ [(view.now, .interrupted record.exchange.interrupt.2)]⟩
  | callBack (view : View) (record : Record) :
      Acts number view record { view.stir number Exchange.wake with aside := false }
        { record with exchange := record.exchange.wake }
  | run {view : View} {record : Record} {jobs : List Job} {moments : List Moment}
      (queue : view.jobs = .exchange number :: jobs)
      (told : Told (record.exchange.run number view.now).effects moments) :
      Acts number view record
        ({ view with jobs := jobs }.ran number (record.exchange.run number view.now) moments)
        ⟨(record.exchange.run number view.now).exchange,
          record.history ++ moments.map fun moment => (view.now, moment)⟩
  | postpone {view : View} (record : Record) {progress : Progress} {delay : Nat} {jobs : List Job}
      (queue : view.jobs = .lateTick number progress (some delay) :: jobs) :
      Acts number view record
        { view with
          jobs := jobs
          timers := view.timers ++ [⟨view.now + delay, .lateTick number progress none⟩] } record
  | reportLate {view : View} (record : Record) {progress : Progress} {delay : Option Nat}
      {jobs : List Job} (queue : view.jobs = .lateTick number progress delay :: jobs) :
      Acts number view record ({ view with jobs := jobs }.reportLate number progress)
        ⟨(record.exchange.report progress).release,
          record.history ++ [(view.now, .event (.reported progress))]⟩
  | elapse {view : View} (record : Record) {limit : Nat} (jobs : view.jobs = [])
      (aside : view.aside = false) (later : view.now ≤ limit)
      (silent : ∀ timer ∈ view.timers, limit ≤ timer.instant) :
      Acts number view record { view with now := limit } record
  | ring {view : View} (record : Record) {front back : List Timer}
      (timers : view.timers = front ++ ⟨view.now, .exchange number⟩ :: back) :
      Acts number view record ({ view with timers := front ++ back }.stir number Exchange.wake)
        { record with exchange := record.exchange.wake }
  | fall {view : View} (record : Record) {front back : List Timer} {progress : Progress}
      {delay : Option Nat}
      (timers : view.timers = front ++ ⟨view.now, .lateTick number progress delay⟩ :: back)
      (first : ∀ timer ∈ front, timer.instant ≠ view.now) :
      Acts number view record
        { view with
          timers := front ++ back
          jobs := view.jobs ++ [.lateTick number progress delay] } record

theorem Step.acts {number : Nat} {before after : View} (step : Step number before after)
    {left right : Record} (found : before.record = some left) (there : after.record = some right) :
    Acts number before left after right := by
  cases step with
  | start plan absent => cases absent.symm.trans found
  | interrupt present =>
    cases present.symm.trans found
    cases (interrupt_record found _).symm.trans there
    exact .interrupt before left
  | callBack =>
    rw [stir_record] at there
    cases (congrArg _ found).symm.trans there
    exact .callBack before left
  | @run record jobs present queue moments told =>
    cases present.symm.trans found
    cases (ran_record number { before with jobs := jobs } found _ _).symm.trans there
    exact .run queue told
  | postpone queue positive =>
    cases found.symm.trans there
    exact .postpone left queue
  | @reportLate progress delay jobs queue due =>
    rw [reportLate_record] at there
    cases (congrArg _ found).symm.trans there
    exact .reportLate left queue
  | elapse jobs aside later silent =>
    cases found.symm.trans there
    exact .elapse left jobs aside later silent
  | @ring front back timers first =>
    rw [stir_record] at there
    cases (congrArg _ found).symm.trans there
    exact .ring left timers
  | fall timers first =>
    cases found.symm.trans there
    exact .fall left timers first

/-- What holds of a view and its record when an exchange is started and is kept by every step holds
in every reachable view. -/
theorem Reachable.acts_induction {number : Nat} {motive : View → Record → Prop}
    (start : ∀ (view : View) (plan : Plan), view.Tidy → view.record = none →
      motive { view with
        record := some ⟨.start plan, []⟩
        jobs := view.jobs ++ [.exchange number] } ⟨.start plan, []⟩)
    (acts : ∀ before left after right, before.Reachable number → before.record = some left →
      after.record = some right → Acts number before left after right → motive before left →
      motive after right)
    {view : View} (reached : view.Reachable number) {record : Record}
    (found : view.record = some record) : motive view record := by
  revert record
  refine reached.induction (motive := fun view => ∀ {record}, view.record = some record →
    motive view record) (fun _ => nofun) ?_
  intro before after earlier step ih right there
  cases found : before.record with
  | some left =>
    exact acts before left after right earlier found there (step.acts found there) (ih found)
  | none =>
    cases step with
    | start plan absent =>
      cases there
      exact start before plan earlier.tidy absent
    | interrupt present => cases found.symm.trans present
    | run present => cases found.symm.trans present
    | callBack =>
      rw [stir_record] at there
      cases (congrArg _ found).symm.trans there
    | reportLate =>
      rw [reportLate_record] at there
      cases (congrArg _ found).symm.trans there
    | ring =>
      rw [stir_record] at there
      cases (congrArg _ found).symm.trans there
    | postpone | elapse | fall => cases found.symm.trans there

/-- The clock does not go back. -/
theorem Step.now_le {number : Nat} {before after : View} (step : Step number before after) :
    before.now ≤ after.now := by
  cases step with
  | elapse jobs aside later silent => exact later
  | start | postpone | fall => exact Nat.le_refl _
  | interrupt | callBack | run | reportLate | ring => simp [View.reportLate, note]

/-- Nothing in a history is yet to come. -/
theorem Reachable.past {number : Nat} {view : View} (reached : view.Reachable number)
    {record : Record} (found : view.record = some record) :
    ∀ entry ∈ record.history, entry.1 ≤ view.now := by
  revert record
  refine reached.induction (motive := fun view => ∀ {record}, view.record = some record →
    ∀ entry ∈ record.history, entry.1 ≤ view.now) (fun _ => nofun) ?_
  intro before after _ step ih record found
  have later := step.now_le
  have changed := step.change
  rw [found] at changed
  generalize there : before.record = previous at changed
  have kept : ∀ record, previous = some record → ∀ entry ∈ record.history, entry.1 ≤ after.now :=
    fun record same entry member => Nat.le_trans (ih (there.trans same) entry member) later
  cases changed with
  | none => exact kept _ rfl
  | start => exact nofun
  | wake record => exact kept record rfl
  | interrupt record =>
    exact List.forall_mem_append.2 ⟨kept record rfl, List.forall_mem_singleton.2 later⟩
  | report record =>
    exact List.forall_mem_append.2 ⟨kept record rfl, List.forall_mem_singleton.2 later⟩
  | run record =>
    refine List.forall_mem_append.2 ⟨kept record rfl, fun entry member => ?_⟩
    obtain ⟨moment, -, rfl⟩ := List.mem_map.1 member
    exact later

/-- A record stays, and its history only grows. -/
theorem Steps.history {number : Nat} {before after : View} (steps : Steps number before after)
    {record : Record} (found : before.record = some record) :
    ∃ later more, after.record = some later ∧ later.exchange.plan = record.exchange.plan ∧
      later.history = record.history ++ more := by
  induction steps with
  | refl => exact ⟨record, [], found, rfl, (List.append_nil _).symm⟩
  | tail _ step ih =>
    obtain ⟨between, more, present, plan, history⟩ := ih
    have changed := step.change
    rw [present] at changed
    generalize found : View.record _ = last at changed
    cases changed with
    | none => exact ⟨between, more, rfl, plan, history⟩
    | wake => exact ⟨_, more, rfl, (Exchange.alike_wake _).plan.trans plan, history⟩
    | interrupt =>
      exact ⟨_, more ++ [_], rfl, (Exchange.alike_interrupt _).plan.trans plan, by
        rw [history, List.append_assoc]⟩
    | report _ progress =>
      have kin := (between.exchange.kin_report progress).trans (Exchange.kin_release _)
      exact ⟨_, more ++ [_], rfl, kin.plan.trans plan, by rw [history, List.append_assoc]⟩
    | run _ told =>
      exact ⟨_, more ++ _, rfl, (Exchange.run_plan _ _ _).trans plan, by
        rw [history, List.append_assoc]⟩

end View
end HttpExchange
