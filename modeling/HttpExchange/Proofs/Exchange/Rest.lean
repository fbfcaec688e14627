import HttpExchange.Proofs.Exchange.Effects

/-!
# When an exchange rests

An exchange that is not over and neither was woken nor gives way has a timer for every instant it
waits for, and listens for progress unless no sink is left (`leaves_run`).
-/

namespace HttpExchange
namespace Exchange

open Effect

/-! ## Sinks and progress -/

/-- What an exchange knows of its sinks and its queue while it runs. -/
structure Attends (sinks : Nat) (exchange : Exchange) : Prop where
  /-- It is not over. -/
  present : exchange.isOver = false
  /-- It counts its sinks. -/
  count : exchange.sinks = sinks
  /-- It looks no longer only if no sink is left. -/
  gone : exchange.attention = .gone → sinks = 0
  /-- It listens only if its queue is empty. -/
  ticks : exchange.attention ≠ .away → exchange.ticks = []

/-- An exchange that was interrupted, or has progress to look at, was woken. -/
def Alert (exchange : Exchange) : Prop :=
  exchange.woken = true ∨ exchange.attention ≠ .away ∧ exchange.interrupted = false

theorem wake_of_present {exchange : Exchange} (present : exchange.isOver = false) :
    exchange.wake = { exchange with woken := true } := by
  simp [wake, present]

section

variable {sinks : Nat} {exchange : Exchange}

/-- An exchange that is alerted does not listen any longer. -/
theorem attends_alert (present : exchange.isOver = false) (count : exchange.sinks = sinks)
    (gone : exchange.attention = .gone → sinks = 0 ∧ exchange.ticks = []) :
    Attends sinks exchange.alert := by
  unfold Exchange.alert
  split
  · rw [wake_of_present (show { exchange with attention := .away }.isOver = false from present)]
    exact ⟨present, count, nofun, fun other => absurd rfl other⟩
  · rename_i away
    exact ⟨present, count, by simp [away], by simp [away]⟩
  · rename_i unheeded
    exact ⟨present, count, fun _ => (gone unheeded).1, fun _ => (gone unheeded).2⟩

theorem Alert.alert (alert : Alert exchange) (present : exchange.isOver = false) :
    Alert exchange.alert := by
  rw [Exchange.alert]
  split
  · rw [wake_of_present (show { exchange with attention := .away }.isOver = false from present)]
    exact .inl rfl
  · exact alert
  · exact alert

theorem Attends.not_gone (attends : Attends (sinks + 1) exchange) :
    exchange.attention ≠ .gone :=
  fun gone => nomatch attends.gone gone

theorem Attends.report (attends : Attends (sinks + 1) exchange) (progress : Progress) :
    Attends (sinks + 1) (exchange.report progress) := by
  rw [Exchange.report]
  rw [if_neg (by simp [attends.present])]
  exact attends_alert attends.present attends.count fun gone => absurd gone attends.not_gone

theorem Attends.release (attends : Attends (sinks + 1) exchange) :
    Attends sinks exchange.release := by
  have fewer : exchange.sinks - 1 = sinks := by simp [attends.count]
  rw [Exchange.release]
  dsimp only
  split
  · exact attends_alert attends.present fewer fun gone => absurd gone attends.not_gone
  · exact ⟨attends.present, fewer, fun gone => absurd gone attends.not_gone, attends.ticks⟩

theorem woken_alert (woken : exchange.woken = true) : exchange.alert.woken = true := by
  rw [Exchange.alert, Exchange.wake]
  split
  · split
    · exact woken
    · rfl
  · exact woken
  · exact woken

theorem woken_report (woken : exchange.woken = true) (progress : Progress) :
    (exchange.report progress).woken = true := by
  rw [Exchange.report]
  split
  · exact woken
  · exact woken_alert woken

theorem woken_release (woken : exchange.woken = true) : exchange.release.woken = true := by
  rw [Exchange.release]
  dsimp only
  split
  · exact woken_alert woken
  · exact woken

theorem woken_report_of_listening (present : exchange.isOver = false)
    (listening : exchange.attention = .listening) (progress : Progress) :
    (exchange.report progress).woken = true := by
  rw [Exchange.report, Exchange.alert]
  rw [if_neg (by simp [present])]
  simp only [listening]
  rw [wake_of_present (by exact present)]

theorem Attends.share (attends : Attends (sinks + 1) exchange) :
    Attends (sinks + 1 + 1) exchange.share :=
  ⟨attends.present, congrArg (· + 1) attends.count, fun gone => absurd gone attends.not_gone,
    attends.ticks⟩

theorem Attends.interrupt (attends : Attends sinks exchange) :
    Attends sinks exchange.interrupt.1 := by
  rw [Exchange.interrupt]
  split
  · have stopped : { exchange with pending := false, interrupted := true }.isOver = false :=
      attends.present
    rw [wake_of_present stopped]
    exact ⟨attends.present, attends.count, attends.gone, attends.ticks⟩
  · exact attends

theorem Alert.report (alert : Alert exchange) (present : exchange.isOver = false)
    (progress : Progress) : Alert (exchange.report progress) := by
  have queued : Alert { exchange with ticks := exchange.ticks ++ [progress] } := alert
  rw [Exchange.report]
  rw [if_neg (by simp [present])]
  exact queued.alert present

theorem Alert.release (alert : Alert exchange) (present : exchange.isOver = false) :
    Alert exchange.release := by
  have fewer : Alert { exchange with sinks := exchange.sinks - 1 } := alert
  rw [Exchange.release]
  dsimp only
  split
  · exact fewer.alert present
  · exact fewer

theorem Alert.interrupt (alert : Alert exchange) (present : exchange.isOver = false) :
    Alert exchange.interrupt.1 := by
  rw [Exchange.interrupt]
  split
  · rw [wake_of_present (by exact present)]
    exact .inl rfl
  · exact alert

end

/-! ## Waits and timers -/

/-- An instant that is not past has a timer, unless it is now. -/
def Timed (now : Nat) (alarms : List Nat) (instant : Nat) : Prop :=
  now ≤ instant ∧ (instant ∈ alarms ∨ instant = now)

/-- What a transport waits for at `now`, some timers being set. -/
structure Stands (now : Nat) (alarms : List Nat) (gives : Bool) (wait : Wait) : Prop where
  /-- An instant it waits for has a timer, or is there. -/
  timed : ∀ instant, wait = .clock instant → Timed now alarms instant
  /-- Unless the exchange gives way, it waits for a timer, or for nothing that happens. -/
  rests : gives = true ∨ wait ≠ .turn ∧ ∀ instant, wait = .clock instant → instant ∈ alarms

/-- What is known of an exchange whose transport was played and waits: of its sinks, of the late
ticks it asked for, and of the timers it set besides those there are. -/
structure Waits (now late : Nat) (alarms : List Nat) (sink : Bool) (wait : Wait)
    (effects : List Effect) (exchange : Exchange) : Prop where
  attends : Attends (late + (lateTicks effects).length + sink.toNat) exchange
  alert : Alert exchange
  stands : Stands now (alarms ++ instants effects) (givesWay effects) wait

section

variable {exchange : Exchange} {alarms : List Nat} {sink holds : Bool} {late : Nat}
  {script rest : List Step} {wait : Wait}

theorem Timed.append {now instant : Nat} (timed : Timed now alarms instant) (more : List Nat) :
    Timed now (alarms ++ more) instant :=
  ⟨timed.1, timed.2.imp_left fun member => List.mem_append_left _ member⟩

theorem waits_of_turn {now : Nat} (attends : Attends (late + sink.toNat) exchange)
    (alert : Alert exchange) : Waits now late alarms sink .turn [.giveWay] exchange :=
  ⟨attends, alert, nofun, .inl rfl⟩

/-- An effect that neither sets a timer nor gives way only adds to what was known. -/
theorem Waits.after {now : Nat} {effect : Effect} {effects : List Effect}
    (waits : Waits now (late + (lateTicks [effect]).length) alarms sink wait effects exchange)
    (untimed : instants [effect] = []) :
    Waits now late alarms sink wait (effect :: effects) exchange := by
  obtain ⟨attends, alert, timed, rests⟩ := waits
  rw [show effect :: effects = [effect] ++ effects from rfl]
  refine ⟨?_, alert, ?_, ?_⟩
  · rw [lateTicks_append, List.length_append, ← Nat.add_assoc]
    exact attends
  · rw [instants_append, untimed]
    exact timed
  · rw [instants_append, untimed, givesWay_append]
    exact rests.imp (fun gives => by simp [gives]) id

theorem waits_play (self now allowance : Nat) (attends : Attends (late + sink.toNat) exchange)
    (alert : Alert exchange)
    (stop : (play self now allowance script sink exchange).stop = .waits rest wait holds) :
    Waits now late alarms holds wait (play self now allowance script sink exchange).effects
      (play self now allowance script sink exchange).exchange := by
  induction script generalizing allowance sink late exchange with
  | nil => cases stop
  | cons step script ih =>
    cases step with
    | tick progress =>
      rw [play] at stop ⊢
      split at stop
      · rename_i sinking
        subst sinking
        exact Waits.after (ih allowance (attends.report progress)
          (alert.report attends.present progress) stop) rfl
      · rename_i sunk
        rw [if_neg sunk]
        exact ih allowance attends alert stop
    | lateTick delay progress =>
      rw [play] at stop ⊢
      split at stop
      · rename_i sinking
        subst sinking
        have shared : Attends (late + 1 + true.toNat) exchange.share := attends.share
        exact Waits.after (ih allowance shared alert stop) rfl
      · rename_i sunk
        rw [if_neg sunk]
        exact ih allowance attends alert stop
    | dropSink =>
      rw [play] at stop ⊢
      split at stop
      · rename_i sinking
        subst sinking
        have released : Attends (late + false.toNat) exchange.release := attends.release
        exact ih allowance released (alert.release attends.present) stop
      · rename_i sunk
        rw [if_neg sunk]
        rw [eq_false_of_ne_true sunk] at attends
        exact ih allowance attends alert stop
    | sleep duration =>
      rw [play] at stop ⊢
      split at stop
      · rename_i spent
        cases stop
        rw [if_pos spent]
        exact waits_of_turn attends alert
      · rename_i left
        rw [if_neg left]
        split at stop
        · rename_i closed
          rw [if_pos closed]
          exact ih _ attends alert stop
        · rename_i lasting
          cases stop
          rw [if_neg lasting]
          refine ⟨attends, alert, ?_, .inr ⟨by simp, ?_⟩⟩
          · rintro instant ⟨⟩
            exact ⟨Nat.le_add_right _ _, .inl (by simp [instants])⟩
          · rintro instant ⟨⟩
            simp [instants]
    | yield =>
      cases stop
      exact waits_of_turn attends alert
    | hang =>
      cases stop
      exact ⟨attends, alert, by simp, .inr ⟨by simp, by simp⟩⟩
    | abort request =>
      rw [play] at stop ⊢
      split at stop
      · rename_i own
        rw [if_pos own]
        exact Waits.after (Waits.after (ih allowance attends.interrupt
          (alert.interrupt attends.present) stop) rfl) rfl
      · rename_i other
        rw [if_neg other]
        exact Waits.after (ih allowance attends alert stop) rfl
    | respond response => cases stop
    | fail message => cases stop

theorem waits_poll (self now allowance : Nat) {transport : Transport}
    (attends : Attends (late + transport.sink.toNat) exchange) (alert : Alert exchange)
    (timed : ∀ instant, transport.wait = .clock instant → Timed now alarms instant)
    (stop : (exchange.poll self now allowance transport).stop = .waits rest wait holds) :
    Waits now late alarms holds wait (exchange.poll self now allowance transport).effects
      (exchange.poll self now allowance transport).exchange := by
  obtain ⟨script, waits, since, sink⟩ := transport
  rw [poll] at stop ⊢
  cases waits with
  | turn => exact waits_play self now allowance attends alert stop
  | forever =>
    cases stop
    exact ⟨attends, alert, nofun, .inr ⟨nofun, nofun⟩⟩
  | clock instant =>
    dsimp only at stop ⊢
    split at stop
    · rename_i spent
      cases stop
      rw [if_pos spent]
      exact ⟨attends, alert, fun later same => (timed later same).append _, .inl rfl⟩
    · rename_i left
      rw [if_neg left]
      split at stop
      · rename_i due
        rw [if_pos due]
        exact waits_play self now _ attends alert stop
      · rename_i early
        cases stop
        rw [if_neg early]
        refine ⟨attends, alert, fun later same => (timed later same).append _, .inr ⟨nofun, ?_⟩⟩
        rintro later ⟨⟩
        have set := (timed instant rfl).2.resolve_right fun now => early (Nat.le_of_eq now)
        exact List.mem_append_left _ set

end

/-! ## Runs -/

/-- The sinks that an exchange and its transport hold. -/
def held (exchange : Exchange) : Nat :=
  match exchange.phase with
  | .fresh => exchange.plan.wantsProgress.toNat
  | .waiting transport _ => transport.sink.toNat
  | .ended => 0

/-- What is known between two runs of an exchange that is not over, `late` ticks being on their way
and timers being set. -/
structure Steady (now late : Nat) (alarms : List Nat) (exchange : Exchange) : Prop where
  attends : Attends (late + exchange.held) exchange
  /-- Nothing is on its way before the first run. -/
  fresh : exchange.phase = .fresh → late = 0 ∧ exchange.ticks = []
  /-- An instant that the transport waits for has a timer, or is there. -/
  timed : ∀ transport deadline, exchange.phase = .waiting transport deadline →
    ∀ instant, transport.wait = .clock instant → Timed now alarms instant
  /-- The deadline is not past, and has a timer once that is set. -/
  deadline : ∀ transport deadline, exchange.phase = .waiting transport (some deadline) →
    now ≤ deadline.instant ∧ (deadline.isSet = true → Timed now alarms deadline.instant)

/-- A timer that goes off is not needed any longer. -/
theorem Steady.ring {now late : Nat} {front back : List Nat} {exchange : Exchange}
    (steady : Steady now late (front ++ now :: back) exchange) :
    Steady now late (front ++ back) exchange := by
  have timed : ∀ {instant}, Timed now (front ++ now :: back) instant →
      Timed now (front ++ back) instant := by
    rintro instant ⟨later, member | here⟩
    · rw [List.mem_append, List.mem_cons] at member
      refine ⟨later, ?_⟩
      rw [List.mem_append]
      rcases member with member | here | member
      · exact .inl (.inl member)
      · exact .inr here
      · exact .inl (.inr member)
    · exact ⟨later, .inr here⟩
  refine ⟨steady.attends, steady.fresh, fun transport deadline waiting instant clock =>
    timed (steady.timed transport deadline waiting instant clock),
    fun transport deadline waiting => ?_⟩
  obtain ⟨later, alarmed⟩ := steady.deadline transport deadline waiting
  exact ⟨later, fun isSet => timed (alarmed isSet)⟩

theorem Steady.wake {now late : Nat} {alarms : List Nat} {exchange : Exchange}
    (steady : Steady now late alarms exchange) :
    exchange.wake.woken = true ∧ Steady now late alarms exchange.wake := by
  obtain ⟨⟨present, count, gone, ticks⟩, fresh, timed, deadline⟩ := steady
  rw [wake_of_present present]
  exact ⟨rfl, ⟨present, count, gone, ticks⟩, fresh, timed, deadline⟩

/-- An exchange that waits for its timers. -/
structure Rests (alarms : List Nat) (exchange : Exchange) : Prop where
  calm : exchange.interrupted = false
  attentive : exchange.attention ≠ .away
  waits : ∃ transport deadline, exchange.phase = .waiting transport deadline ∧
    transport.wait ≠ .turn ∧ (∀ instant, transport.wait = .clock instant → instant ∈ alarms) ∧
      ∀ set, deadline = some set → set.instant ∈ alarms

/-- What is done to an exchange between two runs leaves it steady if its sinks and its queue are. -/
theorem Steady.kin {now late less : Nat} {alarms : List Nat} {left right : Exchange}
    (steady : Steady now late alarms left) (kin : Kin left right)
    (attends : Attends (less + left.held) right)
    (fresh : left.phase = .fresh → less = 0 ∧ right.ticks = []) : Steady now less alarms right := by
  have held : right.held = left.held := by
    simp only [held]
    rw [kin.phase, kin.plan]
  refine ⟨?_, ?_, ?_, ?_⟩
  · rw [held]
    exact attends
  · rw [kin.phase]
    exact fresh
  · rw [kin.phase]
    exact steady.timed
  · rw [kin.phase]
    exact steady.deadline

/-- How a run leaves an exchange that is not over. -/
structure Leaves (now late : Nat) (alarms : List Nat) (effects : List Effect)
    (exchange : Exchange) : Prop where
  steady : Steady now (late + (lateTicks effects).length) (alarms ++ instants effects) exchange
  rests : exchange.woken = true ∨ givesWay effects = true ∨
    Rests (alarms ++ instants effects) exchange

theorem run_of_ended {exchange : Exchange} {self now : Nat} (ended : exchange.phase = .ended) :
    exchange.run self now = ⟨{ exchange with woken := false }, []⟩ := by
  rw [run]
  dsimp only
  split <;> simp_all

theorem run_of_over {exchange : Exchange} (closed : exchange.isOver = true) (self now : Nat) :
    exchange.run self now = ⟨{ exchange with woken := false }, []⟩ := by
  refine run_of_ended ?_
  unfold isOver at closed
  split at closed
  · assumption
  · cases closed
  · cases closed

/-- An exchange that is not over after a run was not over before. -/
theorem present_of_run {exchange : Exchange} {self now : Nat}
    (present : (exchange.run self now).exchange.isOver = false) : exchange.isOver = false := by
  cases closed : exchange.isOver with
  | false => rfl
  | true =>
    rw [run_of_over closed] at present
    exact closed.symm.trans present

theorem run_of_fresh {exchange : Exchange} {self now : Nat} (fresh : exchange.phase = .fresh) :
    exchange.run self now =
      ({ exchange with woken := false }.firstRun self now).after [.moment .began] := by
  rw [run]
  dsimp only
  split <;> simp_all

theorem run_of_waiting {exchange : Exchange} {self now : Nat} {transport : Transport}
    {deadline : Option Deadline} (waiting : exchange.phase = .waiting transport deadline) :
    exchange.run self now =
      ({ exchange with woken := false }.laterRun self now transport deadline).after
        [.moment .began] := by
  rw [run]
  dsimp only
  split <;> simp_all

theorem isOver_complete (exchange : Exchange) (result : RequestResult) :
    (exchange.complete result).exchange.isOver = true := by
  rw [isOver]
  rw [complete_phase]

section

variable {exchange : Exchange} {alarms : List Nat} {now late : Nat} {front back : List Effect}

theorem Leaves.silent (silent : Silent front) (leaves : Leaves now late alarms back exchange) :
    Leaves now late alarms (front ++ back) exchange := by
  obtain ⟨steady, rests⟩ := leaves
  constructor
  · rw [lateTicks_append, silent.lateTicks_eq_nil, instants_append, silent.instants_eq_nil]
    exact steady
  · rw [givesWay_append, silent.givesWay_eq_false, instants_append, silent.instants_eq_nil]
    exact rests

/-- An exchange that goes on waiting for its transport until a deadline. -/
theorem leaves_waiting {transport : Transport} {deadline : Option Deadline}
    (waits : Waits now late alarms transport.sink transport.wait front exchange)
    (untold : lateTicks back = [])
    (timed : ∀ set, deadline = some set → now ≤ set.instant ∧
      (set.isSet = true → Timed now (alarms ++ instants (front ++ back)) set.instant))
    (sets : givesWay back = true ∨
      ∀ set, deadline = some set → set.instant ∈ alarms ++ instants (front ++ back)) :
    Leaves now late alarms (front ++ back)
      { exchange with phase := .waiting transport deadline } := by
  obtain ⟨⟨present, count, gone, ticks⟩, alert, stands⟩ := waits
  have alarmed :
      alarms ++ instants (front ++ back) = alarms ++ instants front ++ instants back := by
    rw [instants_append, List.append_assoc]
  refine ⟨⟨?_, nofun, ?_, ?_⟩, ?_⟩
  · rw [lateTicks_append, untold, List.append_nil]
    exact ⟨rfl, count, gone, ticks⟩
  · rintro _ _ ⟨⟩ instant same
    rw [alarmed]
    exact (stands.timed instant same).append _
  · rintro _ set ⟨⟩
    exact timed set rfl
  · rw [givesWay_append]
    rcases alert with woken | ⟨attentive, calm⟩
    · exact .inl woken
    rcases stands.rests with gives | ⟨moves, clocks⟩
    · exact .inr (.inl (by simp [gives]))
    rcases sets with gives | sets
    · exact .inr (.inl (by simp [gives]))
    refine .inr (.inr ⟨calm, attentive, transport, deadline, rfl, moves, ?_, sets⟩)
    intro instant same
    rw [alarmed]
    exact List.mem_append_left _ (clocks instant same)

theorem leaves_await (allowance : Nat) {transport : Transport} {deadline : Option Deadline}
    (waits : Waits now late alarms transport.sink transport.wait front exchange)
    (timed : ∀ set, deadline = some set →
      now ≤ set.instant ∧ (set.isSet = true → Timed now alarms set.instant))
    (present : (exchange.await now allowance transport deadline).exchange.isOver = false) :
    Leaves now late alarms (front ++ (exchange.await now allowance transport deadline).effects)
      (exchange.await now allowance transport deadline).exchange := by
  unfold await at present ⊢
  split at present
  · exact leaves_waiting waits rfl nofun (.inr nofun)
  · rename_i set
    obtain ⟨ahead, alarmed⟩ := timed set rfl
    split at present
    · rename_i spent
      rw [if_pos spent]
      refine leaves_waiting waits rfl ?_ (.inl rfl)
      rintro _ ⟨⟩
      exact ⟨ahead, fun isSet => (alarmed isSet).append _⟩
    · rename_i left
      rw [if_neg left]
      split at present
      · rw [isOver_complete] at present
        cases present
      · rename_i early
        rw [if_neg early]
        have member : set.instant ∈ alarms ++ instants
            (front ++ if set.isSet = true then [] else [.timer set.instant]) := by
          split
          · rename_i isSet
            have timer := (alarmed isSet).2.resolve_right fun here => early (Nat.le_of_eq here)
            exact List.mem_append_left _ timer
          · simp [instants]
        refine leaves_waiting waits (by split <;> rfl) ?_ (.inr ?_)
        · rintro _ ⟨⟩
          exact ⟨ahead, fun _ => ⟨ahead, .inl member⟩⟩
        · rintro _ ⟨⟩
          exact member

theorem leaves_proceed (allowance since : Nat) {deadline : Option Deadline} {stop : Stop}
    (waits : ∀ script wait sink, stop = .waits script wait sink →
      Waits now late alarms sink wait front exchange)
    (timed : ∀ set, deadline = some set →
      now ≤ set.instant ∧ (set.isSet = true → Timed now alarms set.instant))
    (present : (exchange.proceed now allowance since deadline stop).exchange.isOver = false) :
    Leaves now late alarms (front ++ (exchange.proceed now allowance since deadline stop).effects)
      (exchange.proceed now allowance since deadline stop).exchange := by
  cases stop with
  | returns result =>
    have closed := isOver_complete { exchange with status := statusOf result }
      (Response.classify exchange.plan.options.kind (now - since) result)
    cases closed.symm.trans present
  | waits script wait sink =>
    exact leaves_await allowance (waits script wait sink rfl) timed present

/-- How an exchange goes on that has delivered all progress and was not interrupted. -/
theorem leaves_goOn (self allowance : Nat) {transport : Transport} {deadline : Option Deadline}
    (attends : Attends (late + transport.sink.toNat) exchange) (drained : exchange.ticks = [])
    (calm : exchange.interrupted = false)
    (timed : ∀ instant, transport.wait = .clock instant → Timed now alarms instant)
    (ahead : ∀ set, deadline = some set →
      now ≤ set.instant ∧ (set.isSet = true → Timed now alarms set.instant))
    (present : (exchange.goOn self now allowance transport deadline).exchange.isOver = false) :
    Leaves now late alarms (exchange.goOn self now allowance transport deadline).effects
      (exchange.goOn self now allowance transport deadline).exchange := by
  have looked : Attends (late + transport.sink.toNat) (exchange.lookOut allowance).1 ∧
      Alert (exchange.lookOut allowance).1 := by
    unfold lookOut
    split
    · rename_i gone
      exact ⟨attends, .inr ⟨by simp [gone], calm⟩⟩
    · split
      · rename_i none
        exact ⟨⟨attends.present, attends.count, fun _ => attends.count.symm.trans none,
          fun _ => drained⟩, .inr ⟨nofun, calm⟩⟩
      · exact ⟨⟨attends.present, attends.count, nofun, fun _ => drained⟩, .inr ⟨nofun, calm⟩⟩
  obtain ⟨attends, alert⟩ := looked
  exact leaves_proceed _ _ (fun script wait sink stop => waits_poll self now _ attends alert timed
    stop) ahead present

/-- Progress is left after a delivery only if the allowance is used up or the exchange was
interrupted. -/
theorem deliverTicks_ticks (allowance : Nat) (ticks : List Progress) (exchange : Exchange)
    (left : (deliverTicks allowance ticks exchange).allowance ≠ 0)
    (calm : (deliverTicks allowance ticks exchange).exchange.interrupted = false) :
    (deliverTicks allowance ticks exchange).exchange.ticks = [] := by
  fun_induction deliverTicks allowance ticks exchange with
  | case1 => rfl
  | case2 => exact absurd rfl left
  | case3 _ _ _ _ interrupted =>
    rw [show _ = false from calm] at interrupted
    cases interrupted
  | case4 allowance tick ticks exchange going first ih => exact ih left calm

theorem leaves_firstRun (self : Nat) (steady : Steady now late alarms exchange)
    (fresh : exchange.phase = .fresh)
    (present : (exchange.firstRun self now).exchange.isOver = false) :
    Leaves now late alarms (exchange.firstRun self now).effects
      (exchange.firstRun self now).exchange := by
  have sinks : exchange.held = exchange.plan.wantsProgress.toNat := by
    unfold held
    rw [fresh]
  have attends := steady.attends
  rw [sinks] at attends
  unfold firstRun at present ⊢
  split at present
  · cases present
  · rename_i calm
    rw [if_neg calm]
    split at present
    · cases (isOver_complete _ _).symm.trans present
    · rename_i addressed
      rw [if_neg addressed]
      have running : Attends (late + (exchange.called now).sink.toNat)
          { exchange with status := .running } :=
        ⟨attends.present, attends.count, attends.gone, attends.ticks⟩
      refine Leaves.silent (.cons rfl .nil) (leaves_goOn self _ running (steady.fresh fresh).2
        (by simpa using calm) nofun ?_ present)
      intro set same
      unfold Plan.deadline? at same
      split at same
      · cases same
      · cases same
        exact ⟨Nat.le_add_right _ _, nofun⟩

theorem Attends.alike {sinks : Nat} {left right : Exchange} (attends : Attends sinks left)
    (alike : Alike left right) (ticks : left.ticks = [] → right.ticks = []) :
    Attends sinks right := by
  refine ⟨?_, alike.sinks.trans attends.count, ?_, ?_⟩
  · rw [isOver]
    rw [alike.phase]
    exact attends.present
  · rw [alike.attention]
    exact attends.gone
  · rw [alike.attention]
    exact fun heeding => ticks (attends.ticks heeding)

theorem leaves_laterRun (self : Nat) {transport : Transport} {deadline : Option Deadline}
    (steady : Steady now late alarms exchange)
    (waiting : exchange.phase = .waiting transport deadline)
    (present : (exchange.laterRun self now transport deadline).exchange.isOver = false) :
    Leaves now late alarms (exchange.laterRun self now transport deadline).effects
      (exchange.laterRun self now transport deadline).exchange := by
  have alike := alike_deliverTicks fullAllowance exchange.ticks exchange
  have silent := silent_deliverTicks fullAllowance exchange.ticks exchange
  have drained := deliverTicks_ticks fullAllowance exchange.ticks exchange
  have attends := steady.attends.alike alike fun none => by
    rw [none]
    simp [deliverTicks]
  have waits := alike.phase.trans waiting
  have sinks : exchange.held = transport.sink.toNat := by
    rw [held]
    rw [waiting]
  have timed := steady.timed transport deadline waiting
  have ahead : ∀ set, deadline = some set →
      now ≤ set.instant ∧ (set.isSet = true → Timed now alarms set.instant) := by
    rintro set rfl
    exact steady.deadline transport set waiting
  rw [laterRun] at present ⊢
  generalize deliverTicks fullAllowance exchange.ticks exchange = delivery at *
  dsimp only at present ⊢
  split at present
  · rename_i spent
    rw [if_pos spent]
    refine .silent silent ⟨⟨?_, ?_, ?_, ?_⟩, .inr (.inl rfl)⟩
    · have same : delivery.exchange.held = exchange.held := by
        rw [sinks]
        rw [held]
        rw [waits]
      rw [same]
      exact attends
    · intro fresh
      cases fresh.symm.trans waits
    · intro other later same instant clock
      cases same.symm.trans waits
      exact (timed instant clock).append _
    · intro other set same
      cases same.symm.trans waits
      obtain ⟨soon, alarmed⟩ := ahead set rfl
      exact ⟨soon, fun isSet => (alarmed isSet).append _⟩
  · rename_i left
    rw [if_neg left]
    split at present
    · cases present
    · rename_i calm
      rw [if_neg calm]
      have calm : delivery.exchange.interrupted = false := by simpa using calm
      rw [sinks] at attends
      exact .silent silent (leaves_goOn self _ attends (drained left calm) calm timed ahead present)

/-- A run of an exchange leaves it over, or such that it misses nothing. -/
theorem leaves_run (self : Nat) (steady : Steady now late alarms exchange)
    (present : (exchange.run self now).exchange.isOver = false) :
    Leaves now late alarms (exchange.run self now).effects (exchange.run self now).exchange := by
  have attends := steady.attends
  have slept : Steady now late alarms { exchange with woken := false } :=
    ⟨⟨attends.present, attends.count, attends.gone, attends.ticks⟩, steady.fresh, steady.timed,
      steady.deadline⟩
  cases phase : exchange.phase with
  | ended => cases attends.present.symm.trans (show exchange.isOver = true by simp [isOver, phase])
  | fresh =>
    rw [run_of_fresh phase] at present ⊢
    exact .silent (.cons rfl .nil) (leaves_firstRun self slept phase present)
  | waiting transport deadline =>
    rw [run_of_waiting phase] at present ⊢
    exact .silent (.cons rfl .nil) (leaves_laterRun self slept phase present)

end

end Exchange
end HttpExchange
