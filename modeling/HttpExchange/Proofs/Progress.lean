import HttpExchange.Proofs.Delivery
import HttpExchange.Proofs.Exchange.Sinkless
import HttpExchange.Proofs.Schedule.Rest
import Mathlib.Data.List.TakeWhile

/-!
# No progress is lost

All progress that is reported is received, in order and before the terminal outcome; after an
interruption a prefix of it.
-/

namespace HttpExchange

/-- The progress that the callback received, and when. -/
def Record.receipts (record : Record) : List (Nat × Progress) :=
  said Moment.receipt? record.history

/-- The progress that was reported before the last run ended, and when. -/
def Record.reports (record : Record) : List (Nat × Progress) :=
  said Moment.report? (record.history.takeWhile fun entry => !entry.2.isEnd)

/-- Progress is received in order and at once. -/
structure Record.KeepsProgress (now : Nat) (record : Record) : Prop where
  /-- While the request goes on, what was reported was received in the same instant, or is queued
  in this very one. -/
  running : record.exchange.isOver = false →
    record.reports = record.receipts ++ record.exchange.ticks.map fun progress => (now, progress)
  /-- All of it was received in its instant when a request ends that was not interrupted. -/
  ended : record.exchange.isOver = true → .interrupted true ∉ record.moments →
    record.receipts = record.reports
  /-- At any time a prefix of it was received. -/
  ordered : record.receipts <+: record.reports

open View

/-! ### Histories that grow -/

section

variable {before after : Record} {moments : List Moment} {now : Nat}

theorem receipts_extend
    (history : after.history = before.history ++ moments.map fun moment => (now, moment)) :
    after.receipts = before.receipts ++
      (moments.filterMap Moment.receipt?).map fun progress => (now, progress) := by
  rw [Record.receipts, history, said_append, said_now]
  rfl

theorem takeWhile_append_of_mem {α : Type} (keeps : α → Bool) {front : List α} (back : List α)
    {item : α} (member : item ∈ front) (stops : keeps item = false) :
    (front ++ back).takeWhile keeps = front.takeWhile keeps := by
  induction front with
  | nil => cases member
  | cons first rest ih =>
    cases kept : keeps first with
    | false => simp [kept]
    | true =>
      have later : item ∈ rest := by
        rcases List.mem_cons.1 member with rfl | later
        · cases kept.symm.trans stops
        · exact later
      simp [kept, ih later]

/-- What is reported once the last run has ended does not count. -/
theorem reports_extend_of_ended (ended : ∃ moment ∈ before.moments, moment.isEnd = true)
    (history : after.history = before.history ++ moments.map fun moment => (now, moment)) :
    after.reports = before.reports := by
  obtain ⟨moment, member, last⟩ := ended
  obtain ⟨entry, present, rfl⟩ := List.mem_map.1 member
  rw [Record.reports, history, takeWhile_append_of_mem _ _ present (by simp [last])]
  rfl

theorem reports_extend (running : ¬ ∃ moment ∈ before.moments, moment.isEnd = true)
    (history : after.history = before.history ++ moments.map fun moment => (now, moment)) :
    after.reports = before.reports ++ ((moments.takeWhile (!·.isEnd)).filterMap
      Moment.report?).map fun progress => (now, progress) := by
  have all : ∀ entry ∈ before.history, (!entry.2.isEnd) = true := by
    intro entry member
    cases last : entry.2.isEnd with
    | false => rfl
    | true => exact absurd ⟨entry.2, List.mem_map_of_mem member, last⟩ running
  have whole : before.history.takeWhile (fun entry => !entry.2.isEnd) = before.history :=
    List.takeWhile_eq_self_iff.2 all
  rw [Record.reports, Record.reports, history, List.takeWhile_append_of_pos all, said_append, whole,
    List.takeWhile_map, ← said_now]
  rfl

end

open View

namespace Ledger.Accounts

variable {ledger : Ledger} {record : Record}

theorem over_iff (accounts : Accounts ledger record) :
    record.exchange.isOver = true ↔ ∃ moment ∈ record.moments, moment.isEnd = true := by
  rw [← accounts.fits.closed, accounts.follows.over_iff]
  simp [start]

/-- No progress is left when a request ends that was not interrupted. -/
theorem queue_of_over (accounts : Accounts ledger record)
    (attended : record.exchange.plan.mode.Attended) (closed : record.exchange.isOver = true)
    (calm : .interrupted true ∉ record.moments) : ledger.queue = [] := by
  rcases accounts.outcome?_of_over attended closed with stopped | ⟨outcome, same⟩
  · exact absurd (accounts.stopped_iff.1 stopped) calm
  · cases stage : ledger.stage with
    | concluded result =>
      exact accounts.follows.queue_of_concluded attended nofun result stage
    | pending | stopped | resolved =>
      rw [stage] at same
      cases same

/-- What becomes of a record keeps its progress. -/
theorem keepsProgress {before after : Record} {later : Ledger} {moments : List Moment} {now : Nat}
    (kept : before.KeepsProgress now) (attended : before.exchange.plan.mode.Attended)
    (accounts : Accounts ledger before)
    (follows : Follows before.exchange.plan.mode ledger moments later)
    (accounted : Accounts later after) (plan : after.exchange.plan = before.exchange.plan)
    (history : after.history = before.history ++ moments.map fun moment => (now, moment)) :
    after.KeepsProgress now := by
  have still : after.exchange.plan.mode.Attended := by rwa [plan]
  have received := receipts_extend history
  have earlier : ∀ moment, moment ∈ before.moments → moment ∈ after.moments := by
    intro moment member
    simp only [Record.moments, history, List.map_append]
    exact List.mem_append_left _ member
  cases closed : before.exchange.isOver with
  | true =>
    obtain ⟨gone, -, silent⟩ := follows.of_over (accounts.fits.closed.trans closed)
    have gone := accounted.fits.closed.symm.trans gone
    have same := reports_extend_of_ended (accounts.over_iff.1 closed) history
    rw [silent, List.map_nil, List.append_nil] at received
    refine ⟨fun running => ?_, fun _ calm => ?_, ?_⟩
    · cases gone.symm.trans running
    · rw [received, same]
      exact kept.ended closed fun member => calm (earlier _ member)
    · rw [received, same]
      exact kept.ordered
  | false =>
    have going : ledger.closed = false := accounts.fits.closed.trans closed
    have reported := reports_extend (fun ended => by
      cases closed.symm.trans (accounts.over_iff.2 ended)) history
    have balance := follows.balance going
    rw [accounts.fits.queue attended going] at balance
    have whole : after.reports =
        after.receipts ++ later.queue.map fun progress => (now, progress) := by
      rw [reported, received, kept.running closed, List.append_assoc, ← List.map_append, balance,
        List.map_append, List.append_assoc]
    refine ⟨fun running => ?_, fun ended calm => ?_, ⟨_, whole.symm⟩⟩
    · rw [whole, accounted.fits.queue still (accounted.fits.closed.trans running)]
    · rw [whole, accounted.queue_of_over still ended calm]
      simp

end Ledger.Accounts

/-- The clock moves only when nothing is queued. -/
theorem Record.KeepsProgress.later {now later : Nat} {record : Record}
    (kept : record.KeepsProgress now)
    (drained : record.exchange.isOver = false → record.exchange.ticks = []) :
    record.KeepsProgress later :=
  ⟨fun running => by simpa [drained running] using kept.running running, kept.ended, kept.ordered⟩

theorem keepsProgress {view : View} {number : Nat} (reached : view.Reachable number)
    {record : Record} (found : view.record = some record)
    (attended : record.exchange.plan.mode.Attended) : record.KeepsProgress view.now := by
  revert record
  refine reached.induction (motive := fun view => ∀ {record}, view.record = some record →
    record.exchange.plan.mode.Attended → record.KeepsProgress view.now) (fun _ => nofun) ?_
  intro before after earlier step ih record found attended
  have kept : record.KeepsProgress before.now := by
    have changed := step.change
    rw [found] at changed
    cases there : before.record with
    | none =>
      rw [there] at changed
      cases changed with
      | start plan => exact ⟨fun _ => rfl, nofun, List.nil_prefix⟩
    | some previous =>
      rw [there] at changed
      obtain ⟨ledger, accounts⟩ := Ledger.exists_accounts earlier there
      obtain ⟨moments, later, follows, accounted, history⟩ := accounts.change changed
      have plan : record.exchange.plan = previous.exchange.plan := by
        obtain ⟨last, more, same, plan, -⟩ := Steps.history (.single step) there
        rwa [Option.some.inj (found.symm.trans same)]
      rw [plan] at attended
      exact accounts.keepsProgress (ih there attended) attended follows accounted plan history
  -- What is queued counts for the present instant, so a queue has to be empty when the clock moves.
  rcases step.clock with same | ⟨jobs, aside⟩
  · rw [same]
    exact kept
  · refine kept.later fun running => ?_
    have reached := Steps.reachable earlier (.single step)
    exact (reached.watched found running).drained jobs aside

/-! ### Requests without progress -/

/-- Nothing was reported to an exchange, and nothing will be. -/
structure Unreported (view : View) (record : Record) : Prop where
  late : view.late = 0
  sinkless : record.exchange.Sinkless
  history : ∀ moment ∈ record.moments, moment.report? = none

theorem report?_told {effects : List Effect} {moments : List Moment} (told : Told effects moments)
    (mute : ∀ moment ∈ Effect.moments effects, moment.report? = none) :
    ∀ moment ∈ moments, moment.report? = none := by
  induction told with
  | nil => exact nofun
  | cons effect answer told ih =>
    intro moment member
    rcases List.mem_append.1 member with member | member
    · cases effect with
      | moment said =>
        obtain rfl := List.mem_singleton.1 member
        exact mute _ (by simp [Effect.moments])
      | abort request =>
        obtain rfl := List.mem_singleton.1 member
        rfl
      | timer | giveWay | lateTick => cases member
    · refine ih (fun moment member => mute moment ?_) moment member
      rw [Effect.moments, filterMap_cons_toList]
      exact List.mem_append_right _ member

theorem Unreported.extend {before after : View} {left right : Record}
    (unreported : Unreported before left) (late : after.late = before.late)
    (sinkless : right.exchange.Sinkless) (more : List Moment)
    (history : right.moments = left.moments ++ more)
    (silent : ∀ moment ∈ more, moment.report? = none) : Unreported after right := by
  refine ⟨late.trans unreported.late, sinkless, fun moment member => ?_⟩
  rw [history] at member
  exact (List.mem_append.1 member).elim (unreported.history moment) (silent moment)

/-- Nothing is ever reported to an exchange that wants no progress. -/
theorem unreported {view : View} {number : Nat} (reached : view.Reachable number)
    {record : Record} (found : view.record = some record)
    (unwanted : record.exchange.plan.wantsProgress = false) : Unreported view record := by
  refine reached.acts_induction (motive := fun view record =>
    record.exchange.plan.wantsProgress = false → Unreported view record) ?_ ?_ found unwanted
  · intro view plan tidy absent unwanted
    obtain ⟨jobs, -, timers⟩ := tidy absent
    exact ⟨by simp [late, jobs, timers], fun _ => ⟨rfl, by simp [Exchange.start]⟩,
      by simp [Record.moments]⟩
  · intro before left after right _ _ _ acts ih unwanted
    cases acts with
    | interrupt =>
      have kin := left.exchange.alike_interrupt.kin
      have previous := ih (by rwa [← kin.plan])
      exact previous.extend (stir_rest number before _).2.1
        (previous.sinkless.kin kin (Exchange.interrupt_ticks _)) [_]
        (by simp [Record.moments]; rfl) (by simp [Moment.report?])
    | callBack =>
      have kin := left.exchange.alike_wake.kin
      have previous := ih (by rwa [← kin.plan])
      exact previous.extend (stir_rest number before _).2.1
        (previous.sinkless.kin kin (Exchange.wake_ticks _)) [] (List.append_nil _).symm (by simp)
    | @run jobs moments queue told =>
      have previous := ih (by rwa [← Exchange.run_plan])
      obtain ⟨mute, sinkless⟩ := Exchange.mute_run number before.now
        (by rwa [← Exchange.run_plan]) previous.sinkless
      obtain ⟨-, late, -, -⟩ := ran_rest number { before with jobs := jobs }
        (left.exchange.run number before.now) moments
      rw [mute.lateTicks, late_of_ran queue] at late
      exact previous.extend late sinkless moments (by simp [Record.moments, Function.comp_def])
        (report?_told told mute.moments)
    | postpone queue =>
      have previous := ih unwanted
      exact ⟨(late_postponed queue).trans previous.late, previous.sinkless, previous.history⟩
    | @reportLate progress delay jobs queue =>
      have kin := (left.exchange.kin_report progress).trans (Exchange.kin_release _)
      have previous := ih (by rwa [← kin.plan])
      cases previous.late.symm.trans (late_of_reported queue)
    | elapse =>
      have previous := ih unwanted
      exact ⟨previous.late, previous.sinkless, previous.history⟩
    | @ring front back timers =>
      have kin := left.exchange.alike_wake.kin
      have previous := ih (by rwa [← kin.plan])
      have late := (stir_rest number { before with timers := front ++ back } Exchange.wake).2.1
      exact previous.extend (late.trans (late_withoutRing timers))
        (previous.sinkless.kin kin (Exchange.wake_ticks _)) [] (List.append_nil _).symm (by simp)
    | fall timers first =>
      have previous := ih unwanted
      exact ⟨(late_fallen timers).trans previous.late, previous.sinkless, previous.history⟩

/-! ### Neither lost nor repeated -/

/-- What a callback has received by `now` of the progress of its request. -/
structure Record.LosesNoProgress (now : Nat) (record : Record) : Prop
    extends record.KeepsProgress now where
  /-- A request that ends without an interruption hands over all that was reported before its last
  run ended, in order, and then its terminal outcome. -/
  last : record.exchange.isOver = true → .interrupted true ∉ record.moments →
    ∃ final, final.isTerminal = true ∧
      record.outcomes = record.reports.map (fun report => .progress report.2) ++ [final]
  /-- A request that wants no progress receives none. -/
  unwanted : record.exchange.plan.options.progress = false → record.receipts = []

namespace Ledger.Accounts

variable {ledger : Ledger} {record : Record}

theorem outcomes_of_over (accounts : Accounts ledger record)
    (attended : record.exchange.plan.mode.Attended) (closed : record.exchange.isOver = true)
    (calm : .interrupted true ∉ record.moments) :
    ∃ final, final.isTerminal = true ∧
      record.outcomes = record.receipts.map (fun receipt => .progress receipt.2) ++ [final] := by
  obtain ⟨ticks, outcomes⟩ := accounts.outcomes attended
  rcases accounts.outcome?_of_over attended closed with stopped | ⟨final, same⟩
  · exact absurd (accounts.stopped_iff.1 stopped) calm
  · have terminal := isTerminal_of_outcome? same
    have progress : final.progress? = none := by
      cases final <;> first | rfl | cases terminal
    have received : record.receipts.map Prod.snd = ticks := by
      have composed : Moment.receipt? = fun moment => moment.outcome?.bind Outcome.progress? :=
        funext Moment.receipt?_eq
      rw [Record.receipts, said_what, composed, ← List.filterMap_filterMap]
      change record.outcomes.filterMap Outcome.progress? = ticks
      rw [outcomes, same]
      simp [progress, List.filterMap_map, Function.comp_def]
    refine ⟨final, terminal, ?_⟩
    rw [outcomes, same, ← received]
    simp

end Ledger.Accounts

/-- No request of any schedule loses, repeats or reorders progress. -/
theorem loses_no_progress {schedule : Schedule} (reached : schedule.Reachable) {number : Nat}
    {record : Record} (found : schedule.records[number]? = some record)
    (attended : record.exchange.plan.mode.Attended) :
    record.LosesNoProgress schedule.now := by
  have there := reached.view number
  have kept := keepsProgress there found attended
  obtain ⟨ledger, accounts⟩ := Ledger.exists_accounts there found
  refine ⟨kept, fun closed calm => ?_, fun off => ?_⟩
  · rw [← kept.ended closed calm]
    exact accounts.outcomes_of_over attended closed calm
  · have unwanted : record.exchange.plan.wantsProgress = false := by
      rw [Plan.wantsProgress]
      split
      · exact off
      · rfl
    have silent := (unreported there found unwanted).history
    have none : record.reports = [] := by
      refine List.filterMap_eq_nil_iff.2 fun entry member => ?_
      have present := (List.takeWhile_prefix _).subset member
      rw [silent entry.2 (List.mem_map_of_mem present)]
      rfl
    have ordered := kept.ordered
    rwa [none, List.prefix_nil] at ordered

/-- One late tick is reported before the answer to a request and one after it. -/
def outlived : List Command :=
  [.start ⟨.send (.present none), "http://localhost/", .empty, 5, ⟨.raw, .post, true⟩,
    [.tick ⟨1, none⟩, .lateTick 2 ⟨2, none⟩, .lateTick 4 ⟨4, none⟩, .dropSink, .sleep 3,
      .respond ⟨200, [], .octets []⟩]⟩, .sleep 9]

theorem loses_no_tick_before_the_answer : ∃ record,
    (Schedule.initial.after outlived).records[0]? = some record ∧ record.LosesNoProgress 9 ∧
      record.receipts = [(0, ⟨1, none⟩), (2, ⟨2, none⟩)] :=
  ⟨_, rfl, @loses_no_progress _ (Schedule.reachable_after outlived) 0 _ rfl trivial, rfl⟩

end HttpExchange
