import HttpExchange.Proofs.Exchange.Effects
import HttpExchange.Proofs.Ledger.Basic

/-!
# Runs keep to the ledger

Whatever an exchange does in a run is entered in its ledger, which describes the exchange again
afterwards (`settles_run`).
-/

namespace HttpExchange

open Effect

/-- At most an interruption lies between two stages. -/
def Stage.Stops (before after : Stage) : Prop :=
  after = before ∨ before = .pending ∧ after = .stopped

namespace Stage.Stops

theorem refl (stage : Stage) : Stops stage stage := .inl rfl

theorem trans {first second third : Stage} (left : Stops first second)
    (right : Stops second third) : Stops first third := by
  rcases left with rfl | ⟨rfl, rfl⟩
  · exact right
  · rcases right with rfl | ⟨nothing, -⟩
    · exact .inr ⟨rfl, rfl⟩
    · cases nothing

theorem isOpen {before after : Stage} (stops : Stops before after) (still : before.Open) :
    after.Open := by
  rcases stops with rfl | ⟨-, rfl⟩
  · exact still
  · trivial

theorem eq_of_ne {before after : Stage} (stops : Stops before after)
    (decided : before ≠ .pending) : after = before :=
  stops.resolve_right fun pending => decided pending.1

end Stage.Stops

namespace Ledger

/-- A ledger describes an exchange whose callback has still to receive `queue`. -/
structure Fits (mode : Mode) (ledger : Ledger) (exchange : Exchange) (queue : List Progress) :
    Prop where
  plan : exchange.plan.mode = mode
  pending : exchange.pending = true ↔ ledger.stage = .pending
  interrupted : exchange.interrupted = true ↔ ledger.stage = .stopped
  closed : ledger.closed = exchange.isOver
  queue : mode.Attended → ledger.closed = false → ledger.queue = queue

/-- Effects are entered in a ledger, which then describes an exchange; at most it is stopped. -/
def Enters (mode : Mode) (before : Ledger) (effects : List Effect) (exchange : Exchange)
    (queue : List Progress) : Prop :=
  ∃ after, Follows mode before (moments effects) after ∧ Fits mode after exchange queue ∧
    before.stage.Stops after.stage ∧ after.closed = before.closed

/-- Effects are entered in a ledger, which then describes an exchange between two runs. -/
def Settles (mode : Mode) (before : Ledger) (effects : List Effect) (exchange : Exchange) : Prop :=
  ∃ after, Follows mode before (moments effects) after ∧ Fits mode after exchange exchange.ticks ∧
    (after.closed = false → after.stage.Open)

section

variable {mode : Mode} {before : Ledger} {exchange middle last : Exchange}
  {queue rest : List Progress} {front back : List Effect}

theorem Enters.refl (fits : Fits mode before exchange queue) :
    Enters mode before [] exchange queue :=
  ⟨before, .nil before, fits, .refl _, rfl⟩

theorem Enters.append (first : Enters mode before front middle queue)
    (next : ∀ between, Fits mode between middle queue → before.stage.Stops between.stage →
      between.closed = before.closed → Enters mode between back last rest) :
    Enters mode before (front ++ back) last rest := by
  obtain ⟨between, follows, fits, stops, closed⟩ := first
  obtain ⟨after, later, final, ceases, still⟩ := next between fits stops closed
  refine ⟨after, ?_, final, stops.trans ceases, still.trans closed⟩
  rw [moments_append]
  exact follows.append later

theorem Enters.settles (first : Enters mode before front middle queue)
    (next : ∀ between, Fits mode between middle queue → before.stage.Stops between.stage →
      between.closed = before.closed → Settles mode between back last) :
    Settles mode before (front ++ back) last := by
  obtain ⟨between, follows, fits, stops, closed⟩ := first
  obtain ⟨after, later, final, still⟩ := next between fits stops closed
  refine ⟨after, ?_, final, still⟩
  rw [moments_append]
  exact follows.append later

theorem Enters.cons {between : Ledger} {moment : Moment}
    (takes : Takes mode before moment between) (stage : between.stage = before.stage)
    (closed : between.closed = before.closed) (enters : Enters mode between back last rest) :
    Enters mode before (.moment moment :: back) last rest := by
  obtain ⟨after, follows, fits, stops, still⟩ := enters
  rw [stage] at stops
  exact ⟨after, .cons takes follows, fits, stops, still.trans closed⟩

theorem Settles.cons {between : Ledger} {moment : Moment}
    (takes : Takes mode before moment between) (settles : Settles mode between back last) :
    Settles mode before (.moment moment :: back) last := by
  obtain ⟨after, follows, fits, still⟩ := settles
  exact ⟨after, .cons takes follows, fits, still⟩

/-! ### Interruptions -/

theorem Fits.wake (fits : Fits mode before exchange queue) :
    Fits mode before exchange.wake queue := by
  rw [Exchange.wake]
  split
  · exact fits
  · exact ⟨fits.plan, fits.pending, fits.interrupted, fits.closed, fits.queue⟩

theorem takes_interrupt (fits : Fits mode before exchange queue) :
    ∃ after, Takes mode before (.interrupted exchange.interrupt.2) after ∧
      Fits mode after exchange.interrupt.1 queue ∧ before.stage.Stops after.stage ∧
      after.closed = before.closed := by
  rw [Exchange.interrupt]
  split
  · rename_i pending
    obtain ⟨stage, waiting, closed⟩ := before
    obtain rfl : stage = .pending := fits.pending.1 pending
    have stopped : Fits mode ⟨.stopped, waiting, closed⟩
        { exchange with pending := false, interrupted := true } queue :=
      ⟨fits.plan, by simp, by simp, fits.closed, fits.queue⟩
    exact ⟨_, .stopped waiting closed, stopped.wake, .inr ⟨rfl, rfl⟩, rfl⟩
  · rename_i decided
    exact ⟨before, .late fun pending => decided (fits.pending.2 pending), fits, .refl _, rfl⟩

theorem enters_insist (fits : Fits mode before exchange queue) (times : Nat) :
    Enters mode before (exchange.insist times).effects (exchange.insist times).exchange queue := by
  induction times generalizing before exchange with
  | zero => exact .refl fits
  | succ times ih =>
    obtain ⟨between, takes, stopped, stops, closed⟩ := takes_interrupt fits
    have first : Enters mode before [.moment (.interrupted exchange.interrupt.2)]
        exchange.interrupt.1 queue :=
      ⟨between, .single takes, stopped, stops, closed⟩
    exact first.append fun between fits _ _ => ih fits

/-! ### Delivering -/

theorem Fits.count (fits : Fits mode before exchange queue) :
    Fits mode before { exchange with received := exchange.received + 1 } queue :=
  ⟨fits.plan, fits.pending, fits.interrupted, fits.closed, fits.queue⟩

theorem enters_deliver {tick : Progress} (fits : Fits mode before exchange (tick :: queue))
    (unconcluded : ∀ result, before.stage ≠ .concluded result)
    (calm : before.stage ≠ .stopped) (present : before.closed = false) :
    Enters mode before (exchange.deliver (.progress tick)).effects
      (exchange.deliver (.progress tick)).exchange queue := by
  obtain ⟨stage, waiting, closed⟩ := before
  obtain rfl : closed = false := present
  unfold Exchange.deliver
  split
  · rename_i fetch
    exact .refl ⟨fits.plan, fits.pending, fits.interrupted, fits.closed, fun attended => by
      rw [← fits.plan, fetch] at attended
      exact attended.elim⟩
  · rename_i absent
    exact .refl ⟨fits.plan, fits.pending, fits.interrupted, fits.closed, fun attended => by
      rw [← fits.plan, absent] at attended
      exact attended.elim⟩
  · rename_i aborts attentive
    have attended : mode.Attended := by
      rw [← fits.plan, attentive]
      trivial
    obtain rfl : waiting = tick :: queue := fits.queue attended rfl
    have after : Fits mode ⟨stage, queue, false⟩ exchange queue :=
      ⟨fits.plan, fits.pending, fits.interrupted, fits.closed, fun _ _ => rfl⟩
    cases stage with
    | pending =>
      have pending : exchange.pending = true := fits.pending.2 rfl
      have takes : ∀ answer, Takes mode ⟨.pending, tick :: queue, false⟩
          (.event (.delivered exchange.pending (.progress tick) answer)) ⟨.pending, queue, false⟩ :=
        pending ▸ .tick attended tick queue
      exact .cons (takes _) rfl rfl (enters_insist after.count _)
    | resolved result =>
      have decided : exchange.pending = false := by simpa using mt fits.pending.1 nofun
      have takes : ∀ answer, Takes mode ⟨.resolved result, tick :: queue, false⟩
          (.event (.delivered exchange.pending (.progress tick) answer))
          ⟨.resolved result, queue, false⟩ :=
        decided ▸ .lastTick attended result tick queue
      exact .cons (takes _) rfl rfl (enters_insist after.count _)
    | stopped => exact absurd rfl calm
    | concluded result => exact absurd rfl (unconcluded result)

theorem enters_deliverTicks (allowance : Nat) (fits : Fits mode before exchange queue)
    (unconcluded : ∀ result, before.stage ≠ .concluded result) (present : before.closed = false) :
    Enters mode before (Exchange.deliverTicks allowance queue exchange).effects
      (Exchange.deliverTicks allowance queue exchange).exchange
      (Exchange.deliverTicks allowance queue exchange).exchange.ticks := by
  fun_induction Exchange.deliverTicks allowance queue exchange generalizing before with
  | case1 | case2 | case3 =>
    exact .refl ⟨fits.plan, fits.pending, fits.interrupted, fits.closed, fits.queue⟩
  | case4 allowance tick ticks exchange calm first =>
    rename_i ih
    have unstopped : before.stage ≠ .stopped := fun stopped => calm (fits.interrupted.2 stopped)
    refine (enters_deliver fits unconcluded unstopped present).append ?_
    intro between fits stops closed
    refine ih fits (fun result concluded => ?_) (closed.trans present)
    rcases stops with same | ⟨-, stopped⟩
    · exact unconcluded result (same.symm.trans concluded)
    · cases stopped.symm.trans concluded

theorem insist_of_decided (decided : exchange.pending = false) (times : Nat) :
    (exchange.insist times).exchange = exchange := by
  induction times with
  | zero => rfl
  | succ times ih =>
    have same : exchange.interrupt.1 = exchange := by simp [Exchange.interrupt, decided]
    change (exchange.interrupt.1.insist times).exchange = exchange
    rw [same, ih]

theorem deliver_of_decided (decided : exchange.pending = false) (outcome : Outcome) :
    (exchange.deliver outcome).exchange.pending = false ∧
      (exchange.deliver outcome).exchange.interrupted = exchange.interrupted := by
  rw [Exchange.deliver]
  split
  · exact ⟨decided, rfl⟩
  · exact ⟨decided, rfl⟩
  · rename_i aborts attentive
    have counted : { exchange with received := exchange.received + 1 }.pending = false := decided
    dsimp only [Exchange.Turn.after]
    rw [insist_of_decided counted]
    exact ⟨decided, rfl⟩

/-- An exchange that is neither pending nor interrupted receives its whole queue. -/
theorem deliverTicks_of_decided (ticks : List Progress) (decided : exchange.pending = false)
    (calm : exchange.interrupted = false) :
    (Exchange.deliverTicks ticks.length ticks exchange).exchange.ticks = [] := by
  induction ticks generalizing exchange with
  | nil => rfl
  | cons tick ticks ih =>
    obtain ⟨still, same⟩ := deliver_of_decided decided (.progress tick)
    rw [List.length_cons, Exchange.deliverTicks, if_neg (by simp [calm])]
    exact ih still (same.trans calm)

/-! ### Ending -/

theorem settles_finish (fits : Fits mode before exchange queue) (final : before.stage.Final mode)
    (present : before.closed = false) :
    Settles mode before exchange.finish.effects exchange.finish.exchange := by
  obtain ⟨stage, waiting, closed⟩ := before
  obtain rfl : closed = false := present
  exact ⟨⟨stage, waiting, true⟩, .single (.ended final waiting),
    ⟨fits.plan, fits.pending, fits.interrupted, rfl, nofun⟩, nofun⟩

theorem settles_conclude {result : RequestResult} (fits : Fits mode before exchange [])
    (resolved : before.stage = .resolved result) (present : before.closed = false)
    (proper : Outcome.ofResult? result ≠ none) :
    Settles mode before
      ((exchange.conclude result).effects ++ (exchange.conclude result).exchange.finish.effects)
      (exchange.conclude result).exchange.finish.exchange := by
  obtain ⟨stage, waiting, closed⟩ := before
  obtain rfl : stage = .resolved result := resolved
  obtain rfl : closed = false := present
  have decided : exchange.pending = false := by simpa using mt fits.pending.1 (by simp)
  have calm : exchange.interrupted = false := by simpa using mt fits.interrupted.1 (by simp)
  have concluded : Fits mode ⟨.concluded result, waiting, false⟩ exchange [] :=
    ⟨fits.plan, by simp [decided], by simp [calm], fits.closed, fits.queue⟩
  unfold Exchange.conclude
  split
  · rename_i fetch
    exact .cons (.finished (fits.plan.symm.trans fetch) result waiting)
      (settles_finish concluded trivial rfl)
  · rename_i listener outcome send same
    cases listener with
    | absent =>
      have silent : exchange.deliver outcome = ⟨exchange, []⟩ := by
        simp [Exchange.deliver, send]
      rw [silent]
      exact settles_finish fits (fits.plan.symm.trans send) rfl
    | attentive aborts =>
      have attended : mode.Attended := by
        rw [← fits.plan, send]
        trivial
      obtain rfl : waiting = [] := fits.queue attended rfl
      have insists := enters_insist concluded.count (aborts (exchange.received + 1) outcome)
      have finish := insists.settles fun between fits stops closed =>
        settles_finish fits (by rw [stops.eq_of_ne (by simp)]; trivial) closed
      have takes : ∀ answer, Takes mode ⟨.resolved result, [], false⟩
          (.event (.delivered exchange.pending outcome answer)) ⟨.concluded result, [], false⟩ :=
        decided ▸ .outcome attended same
      simp only [Exchange.deliver, send]
      exact .cons (takes _) finish
  · rename_i nothing
    exact absurd nothing proper

/-- An exchange that comes to an end with a result either was interrupted, or hands it over. -/
theorem settles_complete {result : RequestResult} (fits : Fits mode before exchange exchange.ticks)
    (still : before.stage.Open) (present : before.closed = false)
    (proper : Outcome.ofResult? result ≠ none) :
    Settles mode before (exchange.complete result).effects (exchange.complete result).exchange := by
  unfold Exchange.complete
  split
  · rename_i interrupted
    have stopped := fits.interrupted.1 interrupted
    exact settles_finish fits (by rw [stopped]; trivial) present
  · rename_i calm
    obtain ⟨stage, waiting, closed⟩ := before
    obtain rfl : closed = false := present
    have pending : stage = .pending := by
      cases stage with
      | pending => rfl
      | stopped => exact absurd (fits.interrupted.2 rfl) calm
      | resolved result => exact still.elim
      | concluded result => exact still.elim
    subst pending
    have resolved : Fits mode ⟨.resolved result, waiting, false⟩ { exchange with pending := false }
        exchange.ticks :=
      ⟨fits.plan, by simp, by simpa using calm, fits.closed, fits.queue⟩
    have progress := enters_deliverTicks exchange.ticks.length resolved nofun rfl
    have drained := deliverTicks_of_decided exchange.ticks
      (show { exchange with pending := false }.pending = false from rfl) (by simpa using calm)
    rw [drained] at progress
    have whole := progress.settles fun between fits stops closed =>
      settles_conclude fits (stops.eq_of_ne nofun) closed proper
    rw [← List.append_assoc] at whole
    exact .cons (.resolved result waiting) whole

/-! ### Playing -/

theorem Fits.alert (fits : Fits mode before exchange queue) :
    Fits mode before exchange.alert queue := by
  rw [Exchange.alert]
  split
  · have away : Fits mode before { exchange with attention := .away } queue :=
      ⟨fits.plan, fits.pending, fits.interrupted, fits.closed, fits.queue⟩
    exact away.wake
  · exact fits
  · exact fits

theorem Fits.release (fits : Fits mode before exchange queue) :
    Fits mode before exchange.release queue := by
  have fewer : Fits mode before { exchange with sinks := exchange.sinks - 1 } queue :=
    ⟨fits.plan, fits.pending, fits.interrupted, fits.closed, fits.queue⟩
  rw [Exchange.release]
  dsimp only
  split
  · exact fewer.alert
  · exact fewer

/-- Progress that is reported is queued, or discarded if the exchange is over. -/
theorem takes_report (fits : Fits mode before exchange exchange.ticks)
    (still : before.closed = false → before.stage.Open) (progress : Progress) :
    ∃ after, Takes mode before (.event (.reported progress)) after ∧
      Fits mode after (exchange.report progress) (exchange.report progress).ticks ∧
      after.stage = before.stage ∧ after.closed = before.closed := by
  obtain ⟨stage, waiting, closed⟩ := before
  rw [Exchange.report]
  split
  · rename_i isOver
    obtain rfl : closed = true := fits.closed.trans isOver
    exact ⟨_, .discarded stage waiting progress, fits, rfl, rfl⟩
  · rename_i isOver
    obtain rfl : closed = false := fits.closed.trans (by simpa using isOver)
    have queued : Fits mode ⟨stage, waiting ++ [progress], false⟩
        { exchange with ticks := exchange.ticks ++ [progress] } (exchange.ticks ++ [progress]) :=
      ⟨fits.plan, fits.pending, fits.interrupted, fits.closed, fun attended present =>
        congrArg (· ++ [progress]) (fits.queue attended present)⟩
    refine ⟨_, .reported (still rfl) waiting progress, ?_, rfl, rfl⟩
    rw [Exchange.alert_ticks]
    exact queued.alert

theorem enters_play (self now allowance : Nat) (script : List Step) (sink : Bool)
    (fits : Fits mode before exchange exchange.ticks) (still : before.stage.Open) :
    Enters mode before (Exchange.play self now allowance script sink exchange).effects
      (Exchange.play self now allowance script sink exchange).exchange
      (Exchange.play self now allowance script sink exchange).exchange.ticks := by
  induction script generalizing allowance sink exchange before with
  | nil => exact .refl fits
  | cons step script ih =>
    cases step with
    | tick progress =>
      rw [Exchange.play]
      split
      · obtain ⟨between, takes, queued, stage, closed⟩ :=
          takes_report fits (fun _ => still) progress
        exact .cons takes stage closed (ih _ _ queued (stage ▸ still))
      · exact ih _ _ fits still
    | lateTick delay progress =>
      rw [Exchange.play]
      split
      · have shared : Fits mode before exchange.share exchange.share.ticks :=
          ⟨fits.plan, fits.pending, fits.interrupted, fits.closed, fits.queue⟩
        exact ih _ _ shared still
      · exact ih _ _ fits still
    | dropSink =>
      rw [Exchange.play]
      split
      · refine ih _ _ ?_ still
        rw [Exchange.release_ticks]
        exact fits.release
      · exact ih _ _ fits still
    | sleep duration =>
      rw [Exchange.play]
      split
      · exact .refl fits
      · split
        · exact ih _ _ fits still
        · exact .refl fits
    | yield => exact .refl fits
    | hang => exact .refl fits
    | abort request =>
      rw [Exchange.play]
      split
      · obtain ⟨between, takes, stopped, stops, closed⟩ := takes_interrupt fits
        have answered : Follows mode before [.interrupted exchange.interrupt.2,
            .event (.aborting (some exchange.interrupt.2))] between :=
          .cons takes (.single (.aborting between _))
        have first : Enters mode before [.moment (.interrupted exchange.interrupt.2),
            .moment (.event (.aborting (some exchange.interrupt.2)))] exchange.interrupt.1
              exchange.ticks :=
          ⟨between, answered, stopped, stops, closed⟩
        refine first.append fun between stopped stops _ => ih _ _ ?_ (stops.isOpen still)
        rw [Exchange.interrupt_ticks]
        exact stopped
      · exact ih _ _ fits still
    | respond response => exact .refl fits
    | fail message => exact .refl fits

/-! ### Runs -/

theorem Settles.of_fits (fits : Fits mode before exchange exchange.ticks)
    (still : before.closed = false → before.stage.Open) : Settles mode before [] exchange :=
  ⟨before, .nil before, fits, still⟩

theorem enters_poll (self now allowance : Nat) (transport : Transport)
    (fits : Fits mode before exchange exchange.ticks) (still : before.stage.Open) :
    Enters mode before (exchange.poll self now allowance transport).effects
      (exchange.poll self now allowance transport).exchange
      (exchange.poll self now allowance transport).exchange.ticks := by
  unfold Exchange.poll
  dsimp only
  split
  · exact enters_play _ _ _ _ _ fits still
  · exact .refl fits
  · split
    · exact .refl fits
    · split
      · exact enters_play _ _ _ _ _ fits still
      · exact .refl fits

theorem settles_await (now allowance : Nat) (transport : Transport) (deadline : Option Deadline)
    (fits : Fits mode before exchange exchange.ticks) (still : before.stage.Open)
    (present : before.closed = false) :
    Settles mode before (exchange.await now allowance transport deadline).effects
      (exchange.await now allowance transport deadline).exchange := by
  have waits : ∀ deadline, Fits mode before { exchange with phase := .waiting transport deadline }
      exchange.ticks := fun _ =>
    ⟨fits.plan, fits.pending, fits.interrupted, present, fits.queue⟩
  unfold Exchange.await
  split
  · exact .of_fits (waits _) fun _ => still
  · split
    · exact Settles.of_fits (waits _) fun _ => still
    · split
      · have dropped : Fits mode before { exchange with status := .dropped } exchange.ticks :=
          ⟨fits.plan, fits.pending, fits.interrupted, fits.closed, fits.queue⟩
        exact settles_complete dropped still present nofun
      · dsimp only
        split
        · exact Settles.of_fits (waits _) fun _ => still
        · exact Settles.of_fits (waits _) fun _ => still

theorem settles_proceed (now allowance since : Nat) (deadline : Option Deadline) (stop : Stop)
    (fits : Fits mode before exchange exchange.ticks) (still : before.stage.Open)
    (present : before.closed = false) :
    Settles mode before (exchange.proceed now allowance since deadline stop).effects
      (exchange.proceed now allowance since deadline stop).exchange := by
  simp only [Exchange.proceed]
  split
  · rename_i result
    have returned : Fits mode before { exchange with status := Exchange.statusOf result }
        exchange.ticks :=
      ⟨fits.plan, fits.pending, fits.interrupted, fits.closed, fits.queue⟩
    exact settles_complete returned still present
      (Outcome.ofResult?_ne_none (returned_classify _ _ _))
  · exact settles_await _ _ _ _ fits still present

theorem Fits.lookOut (fits : Fits mode before exchange queue) (allowance : Nat) :
    Fits mode before (exchange.lookOut allowance).1 queue := by
  rw [Exchange.lookOut]
  split
  · exact fits
  · split <;> exact ⟨fits.plan, fits.pending, fits.interrupted, fits.closed, fits.queue⟩

theorem settles_goOn (self now allowance : Nat) (transport : Transport)
    (deadline : Option Deadline) (fits : Fits mode before exchange exchange.ticks)
    (still : before.stage.Open) (present : before.closed = false) :
    Settles mode before (exchange.goOn self now allowance transport deadline).effects
      (exchange.goOn self now allowance transport deadline).exchange := by
  have looked := fits.lookOut allowance
  rw [← Exchange.lookOut_ticks exchange allowance] at looked
  exact (enters_poll self now (exchange.lookOut allowance).2 transport looked still).settles
    fun between fits stops closed =>
      settles_proceed _ _ _ _ _ fits (stops.isOpen still) (closed.trans present)

theorem settles_firstRun (self now : Nat) (fits : Fits mode before exchange exchange.ticks)
    (still : before.stage.Open) (present : before.closed = false) :
    Settles mode before (exchange.firstRun self now).effects
      (exchange.firstRun self now).exchange := by
  unfold Exchange.firstRun
  split
  · rename_i interrupted
    have stopped := fits.interrupted.1 interrupted
    exact settles_finish fits (by rw [stopped]; trivial) present
  · split
    · exact settles_complete fits still present nofun
    · have running : Fits mode before { exchange with status := .running } exchange.ticks :=
        ⟨fits.plan, fits.pending, fits.interrupted, fits.closed, fits.queue⟩
      exact .cons (.called before _ _) (settles_goOn _ _ _ _ _ running still present)

theorem settles_laterRun (self now : Nat) (transport : Transport) (deadline : Option Deadline)
    (fits : Fits mode before exchange exchange.ticks) (still : before.stage.Open)
    (present : before.closed = false) :
    Settles mode before (exchange.laterRun self now transport deadline).effects
      (exchange.laterRun self now transport deadline).exchange := by
  have delivery := enters_deliverTicks Exchange.fullAllowance fits (by
    rintro result concluded
    rw [concluded] at still
    exact still) present
  rw [Exchange.laterRun]
  dsimp only
  split
  · exact delivery.settles fun between fits stops closed =>
      Settles.of_fits fits fun _ => stops.isOpen still
  · split
    · rename_i interrupted
      refine delivery.settles fun between fits stops closed => ?_
      have stopped := fits.interrupted.1 interrupted
      have dropped : Fits mode between { (Exchange.deliverTicks Exchange.fullAllowance
          exchange.ticks exchange).exchange with status := .dropped } _ :=
        ⟨fits.plan, fits.pending, fits.interrupted, fits.closed, fits.queue⟩
      exact settles_finish dropped (by rw [stopped]; trivial) (closed.trans present)
    · exact delivery.settles fun between fits stops closed =>
        settles_goOn _ _ _ _ _ fits (stops.isOpen still) (closed.trans present)

/-- Whatever happens in a run is entered in the ledger. -/
theorem settles_run (self now : Nat) (fits : Fits mode before exchange exchange.ticks)
    (still : before.closed = false → before.stage.Open) :
    Settles mode before (exchange.run self now).effects (exchange.run self now).exchange := by
  have slept : Fits mode before { exchange with woken := false } exchange.ticks :=
    ⟨fits.plan, fits.pending, fits.interrupted, fits.closed, fits.queue⟩
  obtain ⟨stage, waiting, closed⟩ := before
  rw [Exchange.run]
  dsimp only
  split
  · exact .of_fits slept still
  · rename_i fresh
    obtain rfl : closed = false := fits.closed.trans (by simp [Exchange.isOver, fresh])
    exact .cons (.began (still rfl)) (settles_firstRun self now slept (still rfl) rfl)
  · rename_i transport deadline waits
    obtain rfl : closed = false := fits.closed.trans (by simp [Exchange.isOver, waits])
    exact .cons (.began (still rfl)) (settles_laterRun self now transport deadline slept (still rfl)
      rfl)

end
end Ledger
end HttpExchange
