import HttpExchange.Proofs.Exchange.Poll
import HttpExchange.Proofs.Progress

/-!
# The transport of a request

The transport of a request is called at most once, in the first run, and is dropped in the last run
if it has not returned.
-/

namespace HttpExchange

open View Exchange

/-- The calls of the transport in the history of a request. -/
def Record.calls (record : Record) : List (Request × Bool) :=
  record.moments.filterMap Moment.call?

/-! ### Telling -/

/-- What holds of the moments among effects, and of every answer to an abort, holds of what is
remembered. -/
theorem View.Told.forall {effects : List Effect} {moments : List Moment}
    (told : Told effects moments) {holds : Moment → Prop}
    (own : ∀ moment ∈ Effect.moments effects, holds moment)
    (answers : ∀ answer, holds (.event (.aborting answer))) : ∀ moment ∈ moments, holds moment := by
  induction told with
  | nil => exact List.forall_mem_nil _
  | cons effect answer told ih =>
    rw [Effect.moments, filterMap_cons_toList, List.forall_mem_append] at own
    refine List.forall_mem_append.2 ⟨?_, ih own.2⟩
    cases effect with
    | moment said => exact own.1
    | abort request => exact List.forall_mem_singleton.2 (answers answer)
    | timer | giveWay | lateTick => exact List.forall_mem_nil _

theorem View.Told.of_cons {moment : Moment} {effects : List Effect} {moments : List Moment}
    (told : Told (.moment moment :: effects) moments) :
    ∃ rest, moments = moment :: rest ∧ Told effects rest := by
  cases told with
  | cons _ answer rest => exact ⟨_, rfl, rest⟩

theorem View.Told.split {front back : List Effect} {moments : List Moment}
    (told : Told (front ++ back) moments) :
    ∃ first last, moments = first ++ last ∧ Told front first ∧ Told back last := by
  induction front generalizing moments with
  | nil => exact ⟨[], moments, rfl, .nil, told⟩
  | cons effect front ih =>
    cases told with
    | cons _ answer rest =>
      obtain ⟨first, last, rfl, earlier, later⟩ := ih rest
      exact ⟨_, last, (List.append_assoc ..).symm, .cons effect answer earlier, later⟩

/-- What no answer to an abort tells is told by the moments among effects. -/
theorem View.Told.filterMap_eq {α : Type} {effects : List Effect} {moments : List Moment}
    (told : Told effects moments) {tells : Moment → Option α}
    (answers : ∀ answer, tells (.event (.aborting answer)) = none) :
    moments.filterMap tells = (Effect.moments effects).filterMap tells := by
  induction told with
  | nil => rfl
  | cons effect answer told ih =>
    rw [Effect.moments, filterMap_cons_toList, List.filterMap_append, List.filterMap_append, ih]
    cases effect with
    | abort request => rw [View.told, List.filterMap_cons_none (answers answer)]; rfl
    | moment | timer | giveWay | lateTick => rfl

/-! ### The call -/

/-- The transport was called at the beginning of the first run, or the exchange ended there. -/
structure Record.Opened (record : Record) (front back : List Moment) : Prop where
  /-- Nothing began before. -/
  first : ∀ moment ∈ front, moment.opens = false
  /-- Nothing is called after. -/
  once : ∀ moment ∈ back, moment.call? = none
  /-- It was called if there was a destination and no interruption. -/
  called :
    record.exchange.plan.destination ≠ "" ∧ .interrupted true ∉ front ∧
        record.moments = front ++ .began :: record.exchange.call :: back ∧
          record.exchange.status ≠ .idle ∨
      (record.exchange.plan.destination = "" ∨ .interrupted true ∈ front) ∧
        record.moments = front ++ .began :: back ∧ record.exchange.status = .idle ∧
          record.exchange.isOver = true

/-- What is known of the transport between two runs. -/
structure Record.Tended (record : Record) : Prop where
  fresh : record.exchange.phase = .fresh →
    (∀ moment ∈ record.moments, moment.opens = false) ∧ record.exchange.status = .idle
  opened : record.exchange.phase ≠ .fresh → ∃ front back, record.Opened front back
  running : ∀ transport deadline, record.exchange.phase = .waiting transport deadline →
    record.exchange.status = .running
  closed : record.exchange.isOver = true → record.exchange.status ≠ .running

namespace Record.Tended

variable {left right : Record}

/-- What is done to an exchange between two runs calls nothing. -/
theorem extend (tended : left.Tended) (kin : Kin left.exchange right.exchange)
    {more : List Moment} (history : right.moments = left.moments ++ more)
    (silent : ∀ moment ∈ more, moment.opens = false) : right.Tended := by
  obtain ⟨fresh, opened, running, closed⟩ := tended
  have call : right.exchange.call = left.exchange.call := by
    rw [Exchange.call, Exchange.call, kin.plan]
  refine ⟨fun same => ?_, fun begun => ?_, fun transport deadline waiting => ?_, fun ended => ?_⟩
  · rw [kin.phase] at same
    obtain ⟨unopened, idle⟩ := fresh same
    rw [history, kin.status]
    exact ⟨List.forall_mem_append.2 ⟨unopened, silent⟩, idle⟩
  · rw [kin.phase] at begun
    obtain ⟨front, back, first, once, called⟩ := opened begun
    refine ⟨front, back ++ more, first, List.forall_mem_append.2 ⟨once, fun moment member =>
      Moment.call?_of_opens (silent moment member)⟩, ?_⟩
    rw [kin.plan, kin.status, kin.isOver, call, history]
    refine called.imp (fun ⟨addressed, calm, split, status⟩ => ⟨addressed, calm, ?_, status⟩)
      fun ⟨reason, split, rest⟩ => ⟨reason, ?_, rest⟩
    · rw [split]
      simp
    · rw [split]
      simp
  · rw [kin.phase] at waiting
    rw [kin.status]
    exact running transport deadline waiting
  · rw [kin.isOver] at ended
    rw [kin.status]
    exact closed ended

/-- In its first run an exchange calls its transport if it has a destination and was not
interrupted. -/
theorem calls_iff {ledger : Ledger} (accounts : Ledger.Accounts ledger left)
    (fresh : left.exchange.phase = .fresh) :
    left.exchange.calls = true ↔
      left.exchange.plan.destination ≠ "" ∧ .interrupted true ∉ left.moments := by
  simp only [Exchange.calls, fresh]
  rw [← accounts.interrupted_iff]
  simp [and_comm]

/-- A transport that was called runs until the exchange is over, and not longer. -/
theorem status_run (exchange : Exchange) (number now : Nat)
    (called : exchange.calls = true ∨
      (∃ transport deadline, exchange.phase = .waiting transport deadline) ∧
        exchange.status = .running) :
    (exchange.run number now).exchange.status ≠ .idle ∧
      ((exchange.run number now).exchange.status = .running ↔
        (exchange.run number now).exchange.isOver = false) := by
  cases returned : exchange.returned? number now with
  | some result =>
    obtain ⟨closed, status⟩ := status_run_of_returned returned
    rw [closed, status]
    cases result <;> simp [statusOf]
  | none =>
    rw [status_run_of_unreturned returned called, unreturned]
    split <;> simp_all

theorem ran_of_fresh (tended : left.Tended) {ledger : Ledger}
    (accounts : Ledger.Accounts ledger left) (fresh : left.exchange.phase = .fresh)
    {number now : Nat} {moments : List Moment}
    (told : Told (left.exchange.run number now).effects moments)
    (same : right.exchange = (left.exchange.run number now).exchange)
    (history : right.moments = left.moments ++ moments) : right.Tended := by
  have present : left.exchange.isOver = false := by simp [isOver, fresh]
  have begun := phase_run_ne_fresh left.exchange number now
  have plan := left.exchange.run_plan number now
  obtain ⟨first, idle⟩ := tended.fresh fresh
  obtain ⟨inside, effects, all, -⟩ := inside_run present number now
  have calls := calls_iff accounts fresh
  rw [effects] at told
  obtain ⟨rest, rfl, begins⟩ := told.of_cons
  rw [← same] at begun plan
  cases called : left.exchange.calls with
  | true =>
    obtain ⟨addressed, calm⟩ := calls.1 called
    obtain ⟨used, going⟩ := status_run left.exchange number now (.inl called)
    rw [← same] at used going
    rw [called] at begins
    obtain ⟨rest, rfl, calls⟩ := begins.of_cons
    have once := calls.forall (fun moment member =>
      Moment.call?_of_opens (all.opens_eq_false moment member)) fun _ => rfl
    refine ⟨fun same => absurd same begun, fun _ => ⟨left.moments, rest, first, once, .inl ?_⟩,
      fun transport deadline waiting => ?_, fun closed => ?_⟩
    · rw [Exchange.call, plan]
      exact ⟨addressed, calm, history, used⟩
    · exact going.2 (by simp [isOver, waiting])
    · simp [going, closed]
  | false =>
    obtain ⟨closed, status⟩ := @status_run_of_uncalled left.exchange number now fresh called
    rw [← same] at closed status
    rw [called] at begins
    have once := begins.forall (fun moment member =>
      Moment.call?_of_opens (all.opens_eq_false moment member)) fun _ => rfl
    refine ⟨fun same => absurd same begun, fun _ => ⟨left.moments, rest, first, once, .inr ?_⟩,
      fun transport deadline waiting => ?_, fun _ => ?_⟩
    · rw [plan]
      refine ⟨?_, history, status.trans idle, closed⟩
      by_contra neither
      rw [not_or] at neither
      cases called.symm.trans (calls.2 neither)
    · simp [isOver, waiting] at closed
    · simp [status, idle]

theorem ran_of_waiting (tended : left.Tended) {transport : Transport}
    {deadline : Option Deadline} (waiting : left.exchange.phase = .waiting transport deadline)
    {number now : Nat} {moments : List Moment}
    (told : Told (left.exchange.run number now).effects moments)
    (same : right.exchange = (left.exchange.run number now).exchange)
    (history : right.moments = left.moments ++ moments) : right.Tended := by
  have present : left.exchange.isOver = false := by simp [isOver, waiting]
  have begun := phase_run_ne_fresh left.exchange number now
  have plan := left.exchange.run_plan number now
  have running := tended.running transport deadline waiting
  obtain ⟨used, going⟩ := status_run left.exchange number now
    (.inr ⟨⟨transport, deadline, waiting⟩, running⟩)
  obtain ⟨inside, effects, all, -⟩ := inside_run present number now
  have uncalled : left.exchange.calls = false := by simp only [Exchange.calls, waiting]
  rw [effects, uncalled] at told
  obtain ⟨rest, rfl, begins⟩ := told.of_cons
  have silent := begins.forall (fun moment member =>
    Moment.call?_of_opens (all.opens_eq_false moment member)) fun _ => rfl
  rw [← same] at begun plan used going
  refine ⟨fun same => absurd same begun, fun _ => ?_, fun transport deadline waiting => ?_,
    fun closed => ?_⟩
  · obtain ⟨front, back, first, once, called⟩ := tended.opened (by simp [waiting])
    refine ⟨front, back ++ .began :: rest, first,
      List.forall_mem_append.2 ⟨once, List.forall_mem_cons.2 ⟨rfl, silent⟩⟩, .inl ?_⟩
    rcases called with ⟨addressed, calm, split, -⟩ | ⟨-, -, -, closed⟩
    · rw [Exchange.call, plan, history, split]
      exact ⟨addressed, calm, by simp [Exchange.call], used⟩
    · cases present.symm.trans closed
  · exact going.2 (by simp [isOver, waiting])
  · simp [going, closed]

end Record.Tended

/-- The transport of every request is tended. -/
theorem exists_tended {view : View} {number : Nat} (reached : view.Reachable number)
    {record : Record} (found : view.record = some record) : record.Tended := by
  refine (reached.record_induction (motive := fun record =>
    (∃ ledger, Ledger.Accounts ledger record) ∧ record.Tended) (fun plan => ?_) ?_ found).2
  · refine ⟨⟨_, Ledger.accounts_start plan⟩, fun _ => ⟨List.forall_mem_nil _, rfl⟩,
      fun begun => absurd rfl begun, ?_, ?_⟩
    · simp [Exchange.start]
    · simp [Exchange.start, isOver]
  rintro now before after change ⟨⟨ledger, accounts⟩, tended⟩
  obtain ⟨-, later, -, accounted, -⟩ := accounts.change change
  refine ⟨⟨later, accounted⟩, ?_⟩
  have history (more : List Moment) {exchange : Exchange} :
      (Record.mk exchange (before.history ++ more.map fun moment => (now, moment))).moments =
        before.moments ++ more := by
    simp [Record.moments, Function.comp_def]
  cases change with
  | none => exact tended
  | wake => exact tended.extend (alike_wake _).kin (List.append_nil _).symm (List.forall_mem_nil _)
  | interrupt =>
    refine tended.extend (alike_interrupt _).kin (history [_]) ?_
    exact List.forall_mem_singleton.2 rfl
  | report _ progress =>
    refine tended.extend ((kin_report _ _).trans (kin_release _)) (history [_]) ?_
    exact List.forall_mem_singleton.2 rfl
  | @run _ moments told =>
    cases phase : before.exchange.phase with
    | fresh => exact tended.ran_of_fresh accounts phase told rfl (history moments)
    | waiting transport deadline =>
      exact tended.ran_of_waiting phase told rfl (history moments)
    | ended =>
      have idle := @run_of_ended before.exchange number now phase
      rw [idle] at told
      cases told
      refine tended.extend ?_ (history []) (List.forall_mem_nil _)
      rw [idle]
      exact ⟨rfl, rfl, rfl⟩

/-! ### Once -/

/-- The transport of a request is called at most once, with the data of the caller, and it is polled
only until the request is decided. -/
structure Record.CallsOnce (number : Nat) (record : Record) : Prop where
  /-- It is not called before the first run. -/
  unbegun : .began ∉ record.moments → record.calls = []
  /-- The first thing in the first run is the call, if there is a destination and no interruption
  came before.  It is the only one. -/
  called : ∀ front back, record.moments = front ++ .began :: back → .began ∉ front →
    record.exchange.plan.destination ≠ "" → .interrupted true ∉ front →
      ∃ request progress rest, back = .event (.called request progress) :: rest ∧
        record.calls = [(request, progress)] ∧
        request.method = record.exchange.plan.options.method ∧
        request.url = record.exchange.plan.destination ∧
        request.headers = [("Content-type", "application/json")] ∧
        request.body = record.exchange.plan.body.bytes ∧
        (progress = true ↔
          (∃ listener, record.exchange.plan.mode = .send listener) ∧
            record.exchange.plan.options.progress = true)
  /-- Without a destination, or after an interruption, it is never called. -/
  uncalled : ∀ front back, record.moments = front ++ .began :: back → .began ∉ front →
    record.exchange.plan.destination = "" ∨ .interrupted true ∈ front → record.calls = []
  /-- It is idle as long as it is not called. -/
  idle : record.exchange.status = .idle ↔ record.calls = []
  /-- Once called it runs until the request is over. -/
  running : record.exchange.status = .running ↔
    record.calls ≠ [] ∧ record.exchange.isOver = false
  /-- A run polls it once or not at all. -/
  polls : ∀ now, record.exchange.run number now =
    (record.exchange.poll? now).elim record.exchange.pass (·.turn number now)
  /-- If it returns in a run, the request is over after the run. -/
  returned : ∀ now result, record.exchange.returned? number now = some result →
    (record.exchange.run number now).exchange.isOver = true ∧
      (record.exchange.run number now).exchange.status = statusOf result
  /-- If it did not return, it is dropped when the request is over. -/
  dropped : ∀ now, record.exchange.isOver = false →
    (record.exchange.run number now).exchange.isOver = true →
      record.exchange.returned? number now = none →
        (record.exchange.run number now).exchange.status ≠ .idle →
          (record.exchange.run number now).exchange.status = .dropped
  /-- Nothing in a run decides the request before the transport is polled. -/
  undecided : ∀ now poll, record.exchange.poll? now = some poll →
    ∀ moment ∈ Effect.moments poll.told, moment.decides = false
  /-- A request that is decided does not poll any longer. -/
  retired : (∃ moment ∈ record.moments, moment.decides = true) ∨ record.exchange.isOver = true →
    ∀ now, record.exchange.poll? now = none

/-- What splits a history at its first run is unique. -/
theorem split_unique {front back first last : List Moment}
    (same : front ++ .began :: back = first ++ .began :: last) (unbegun : .began ∉ front)
    (unopened : .began ∉ first) : front = first ∧ back = last := by
  induction front generalizing first with
  | nil =>
    cases first with
    | nil => exact ⟨rfl, (List.cons.inj same).2⟩
    | cons moment first =>
      rw [← (List.cons.inj same).1] at unopened
      exact absurd List.mem_cons_self unopened
  | cons moment front ih =>
    cases first with
    | nil =>
      rw [(List.cons.inj same).1] at unbegun
      exact absurd List.mem_cons_self unbegun
    | cons other first =>
      obtain ⟨rfl, rest⟩ := List.cons.inj same
      obtain ⟨rfl, rfl⟩ := ih rest (fun member => unbegun (List.mem_cons_of_mem _ member))
        fun member => unopened (List.mem_cons_of_mem _ member)
      exact ⟨rfl, rfl⟩

theorem began_not_mem {moments : List Moment}
    (unopened : ∀ moment ∈ moments, moment.opens = false) :
    .began ∉ moments :=
  fun member => Bool.noConfusion (unopened _ member)

theorem calls_of_unopened {moments : List Moment}
    (unopened : ∀ moment ∈ moments, moment.opens = false) :
    moments.filterMap Moment.call? = [] :=
  List.filterMap_eq_nil_iff.2 fun moment member => Moment.call?_of_opens (unopened moment member)

namespace Record.Opened

variable {record : Record} {front back : List Moment}

theorem began_mem (opened : record.Opened front back) : .began ∈ record.moments := by
  rcases opened.called with ⟨-, -, split, -⟩ | ⟨-, split, -⟩ <;> simp [split]

theorem calls (opened : record.Opened front back) :
    record.calls =
      if record.exchange.status = .idle then []
      else [(record.exchange.plan.request, record.exchange.plan.wantsProgress)] := by
  have before := calls_of_unopened opened.first
  have after : back.filterMap Moment.call? = [] := List.filterMap_eq_nil_iff.2 opened.once
  have call : record.exchange.call.call? =
      some (record.exchange.plan.request, record.exchange.plan.wantsProgress) := rfl
  rcases opened.called with ⟨-, -, split, used⟩ | ⟨-, split, idle, -⟩
  · rw [if_neg used, Record.calls, split, List.filterMap_append, before, List.nil_append]
    rw [List.filterMap_cons_none rfl, List.filterMap_cons_some call, after]
  · rw [if_pos idle, Record.calls, split, List.filterMap_append, before, List.nil_append]
    rw [List.filterMap_cons_none rfl, after]

end Record.Opened

namespace Record.Tended

variable {record : Record} {ledger : Ledger}

theorem calls (tended : record.Tended) :
    record.calls =
      if record.exchange.status = .idle then []
      else [(record.exchange.plan.request, record.exchange.plan.wantsProgress)] := by
  by_cases fresh : record.exchange.phase = .fresh
  · obtain ⟨unopened, idle⟩ := tended.fresh fresh
    rw [idle, if_pos rfl]
    exact calls_of_unopened unopened
  · obtain ⟨front, back, opened⟩ := tended.opened fresh
    exact opened.calls

theorem idle_iff (tended : record.Tended) :
    record.exchange.status = .idle ↔ record.calls = [] := by
  rw [tended.calls]
  split <;> simp_all

theorem running_iff (tended : record.Tended) :
    record.exchange.status = .running ↔
      record.calls ≠ [] ∧ record.exchange.isOver = false := by
  rw [Ne, ← tended.idle_iff]
  constructor
  · intro running
    refine ⟨by simp [running], eq_false_of_ne_true fun closed => ?_⟩
    exact tended.closed closed running
  · rintro ⟨used, present⟩
    cases phase : record.exchange.phase with
    | fresh => exact absurd (tended.fresh phase).2 used
    | waiting transport deadline => exact tended.running transport deadline phase
    | ended => simp [isOver, phase] at present

/-- What the first run did is known wherever it is found in the history. -/
theorem opened_at (tended : record.Tended) {front back : List Moment}
    (split : record.moments = front ++ .began :: back) (unbegun : .began ∉ front) :
    record.exchange.status ≠ .idle ∧ record.exchange.plan.destination ≠ "" ∧
        .interrupted true ∉ front ∧ (∃ rest, back = record.exchange.call :: rest) ∨
      record.exchange.status = .idle ∧
        (record.exchange.plan.destination = "" ∨ .interrupted true ∈ front) := by
  have begun : .began ∈ record.moments := by simp [split]
  have unfresh : record.exchange.phase ≠ .fresh := fun fresh =>
    began_not_mem (tended.fresh fresh).1 begun
  obtain ⟨first, last, opened⟩ := tended.opened unfresh
  have unopened := began_not_mem opened.first
  rcases opened.called with ⟨addressed, calm, other, used⟩ | ⟨reason, other, idle, -⟩
  · obtain ⟨rfl, rfl⟩ := split_unique (split.symm.trans other) unbegun unopened
    exact .inl ⟨used, addressed, calm, last, rfl⟩
  · obtain ⟨rfl, rfl⟩ := split_unique (split.symm.trans other) unbegun unopened
    exact .inr ⟨idle, reason⟩

/-- A run after which the transport is not idle calls it, or found it running. -/
theorem calls_or_waits (tended : record.Tended) {number now : Nat}
    (present : record.exchange.isOver = false)
    (used : (record.exchange.run number now).exchange.status ≠ .idle) :
    record.exchange.calls = true ∨
      (∃ transport deadline, record.exchange.phase = .waiting transport deadline) ∧
        record.exchange.status = .running := by
  cases phase : record.exchange.phase with
  | ended => simp [isOver, phase] at present
  | fresh =>
    refine .inl (by_contra fun uncalled => used ?_)
    obtain ⟨-, status⟩ := status_run_of_uncalled phase (eq_false_of_ne_true uncalled)
    exact status.trans (tended.fresh phase).2
  | waiting transport deadline =>
    exact .inr ⟨⟨transport, deadline, rfl⟩, tended.running transport deadline phase⟩

end Record.Tended

namespace Ledger.Accounts

variable {record : Record} {ledger : Ledger}

/-- A request that is not over and was not interrupted is pending. -/
theorem pending_of_calm (accounts : Accounts ledger record)
    (present : record.exchange.isOver = false) (calm : record.exchange.interrupted = false) :
    ledger.stage = .pending := by
  have still := accounts.still (accounts.fits.closed.trans present)
  cases stage : ledger.stage with
  | pending => rfl
  | stopped => cases calm.symm.trans (accounts.fits.interrupted.2 stage)
  | resolved | concluded =>
    rw [stage] at still
    exact still.elim

/-- A request that is decided does not poll any longer. -/
theorem retired (accounts : Accounts ledger record)
    (past : (∃ moment ∈ record.moments, moment.decides = true) ∨ record.exchange.isOver = true)
    (now : Nat) : record.exchange.poll? now = none := by
  cases closed : record.exchange.isOver with
  | true => exact poll?_of_over closed now
  | false =>
    cases interrupted : record.exchange.interrupted with
    | true => exact poll?_of_interrupted interrupted now
    | false =>
      have pending := accounts.fits.pending.2 (accounts.pending_of_calm closed interrupted)
      have undecided := (HttpExchange.undecided_iff _).1 (accounts.undecided_iff.1 pending)
      rcases past with ⟨moment, member, decides⟩ | ended
      · cases (undecided moment member).symm.trans decides
      · cases closed.symm.trans ended

/-- What a run does before it polls leaves the request undecided. -/
theorem undecided (accounts : Accounts ledger record) {now : Nat} {poll : Poll}
    (polls : record.exchange.poll? now = some poll) :
    ∀ moment ∈ Effect.moments poll.told, moment.decides = false := by
  cases phase : record.exchange.phase with
  | ended => simp [poll?, phase] at polls
  | fresh =>
    rw [poll?_of_fresh phase] at polls
    split at polls
    · cases polls
      exact List.forall_mem_cons.2 ⟨rfl, List.forall_mem_singleton.2 rfl⟩
    · cases polls
  | waiting transport deadline =>
    have present : record.exchange.isOver = false := by simp [isOver, phase]
    have fits : Fits record.exchange.plan.mode ledger { record.exchange with woken := false }
        record.exchange.ticks :=
      ⟨rfl, accounts.fits.pending, accounts.fits.interrupted, accounts.fits.closed,
        accounts.fits.queue⟩
    rw [poll?_of_waiting phase] at polls
    dsimp only at polls
    split at polls
    · cases polls
    · rename_i going
      cases polls
      have calm : record.exchange.interrupted = false := by
        refine eq_false_of_ne_true fun interrupted => ?_
        have none := poll?_of_interrupted interrupted now
        rw [poll?_of_waiting phase] at none
        simp [going] at none
      have pending := accounts.pending_of_calm present calm
      obtain ⟨after, follows, fitted, stops, -⟩ := enters_deliverTicks fullAllowance fits
        (by simp [pending]) (accounts.fits.closed.trans present)
      have still : after.stage = .pending := by
        rcases stops with same | ⟨-, stopped⟩
        · exact same.trans pending
        · exact absurd (.inr (fitted.interrupted.2 stopped)) going
      exact List.forall_mem_cons.2 ⟨rfl, (follows.pending_iff pending).1 still⟩

end Ledger.Accounts

/-- The transport of every request of every schedule is called at most once, and it is never polled
again once the request is decided. -/
theorem calls_transport_once {schedule : Schedule} (reached : schedule.Reachable) {number : Nat}
    {record : Record} (found : schedule.records[number]? = some record) :
    record.CallsOnce number ∧ ∀ after, schedule.Leads after →
      ∃ later, after.records[number]? = some later ∧
        ((∃ moment ∈ record.moments, moment.decides = true) ∨ record.exchange.isOver = true →
          ∀ now, later.exchange.poll? now = none) := by
  have there := reached.view number
  obtain ⟨ledger, accounts⟩ := Ledger.exists_accounts there found
  have tended := exists_tended there found
  refine ⟨?_, fun after leads => ?_⟩
  · constructor
    case unbegun =>
      intro unbegun
      by_cases fresh : record.exchange.phase = .fresh
      · exact calls_of_unopened (tended.fresh fresh).1
      · obtain ⟨front, back, opened⟩ := tended.opened fresh
        exact absurd opened.began_mem unbegun
    case called =>
      intro front back split unbegun addressed calm
      rcases tended.opened_at split unbegun with ⟨used, -, -, rest, same⟩ | ⟨-, reason⟩
      · refine ⟨_, _, rest, same, ?_, rfl, rfl, rfl, rfl, ?_⟩
        · rw [tended.calls, if_neg used]
        · rw [Plan.wantsProgress]
          split <;> simp_all
      · exact absurd reason (not_or.2 ⟨addressed, calm⟩)
    case uncalled =>
      intro front back split unbegun reason
      rcases tended.opened_at split unbegun with ⟨-, addressed, calm, -⟩ | ⟨idle, -⟩
      · exact absurd reason (not_or.2 ⟨addressed, calm⟩)
      · exact tended.idle_iff.1 idle
    case idle => exact tended.idle_iff
    case running => exact tended.running_iff
    case polls => exact fun now => run_eq _ _ _
    case returned => exact fun now result => status_run_of_returned
    case dropped =>
      intro now present closed waits used
      rw [status_run_of_unreturned waits (tended.calls_or_waits present used), unreturned,
        if_pos closed]
    case undecided => exact fun now poll => accounts.undecided
    case retired => exact accounts.retired
  · obtain ⟨later, more, present, -, history⟩ := (leads.views reached.view number).history found
    obtain ⟨last, accounted⟩ := Ledger.exists_accounts ((reached.leads leads).view number) present
    refine ⟨later, present, fun past => accounted.retired ?_⟩
    have grows : ∀ moment ∈ record.moments, moment ∈ later.moments := by
      intro moment member
      rw [Record.moments, history, List.map_append]
      exact List.mem_append_left _ member
    rw [accounted.over_iff]
    rw [accounts.over_iff] at past
    exact past.imp (Exists.imp fun moment told => ⟨grows moment told.1, told.2⟩)
      (Exists.imp fun moment told => ⟨grows moment told.1, told.2⟩)

/-- A fetch is cancelled while it waits for its response. -/
def cancelled : List Command :=
  [.start ⟨.fetch, "http://localhost/", .empty, 0, ⟨.raw, .post, true⟩,
    [.sleep 3, .respond ⟨200, [], .octets []⟩]⟩, .sleep 1, .cancel 0, .sleep 9]

theorem drops_cancelled_transport : ∃ record,
    (Schedule.initial.after cancelled).records[0]? = some record ∧ record.CallsOnce 0 ∧
      record.calls = [(⟨.post, "http://localhost/", [("Content-type", "application/json")], []⟩,
        false)] ∧
      record.exchange.status = .dropped :=
  ⟨_, rfl, (@calls_transport_once _ (Schedule.reachable_after cancelled) 0 _ rfl).1, rfl, rfl⟩

end HttpExchange
