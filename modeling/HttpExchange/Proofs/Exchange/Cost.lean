import HttpExchange.Exchange.Work

/-!
# What a run of an exchange costs

What a run asks for and what it leaves for later weighs no more than what was there before
(`cost_run`).
-/

namespace HttpExchange

/-- A bound on the steps that an effect leads to. -/
def Effect.work : Effect → Nat
  | moment _ => 0
  | timer _ => 2
  | giveWay => 2
  | lateTick _ _ => 9
  | abort _ => 1

/-- What is left for a transport that waits. -/
def Stop.work : Stop → Nat
  | waits script wait _ => stepWork * script.length + wait.work
  | returns _ => 0

/-- The charge for an allowance that is used up: what needs some gives way. -/
def charge (allowance : Nat) : Nat :=
  if allowance = 0 then 4 else 0

theorem charge_lt (allowance : Nat) : charge allowance < unitWork := by
  rw [charge, unitWork]
  split <;> omega

/-- Half of that charge. -/
def halfCharge (allowance : Nat) : Nat :=
  if allowance = 0 then 2 else 0

theorem halfCharge_le_charge (allowance : Nat) : halfCharge allowance ≤ charge allowance := by
  rw [halfCharge, charge]
  split <;> omega

namespace Exchange

/-- One if the exchange was woken. -/
def wakefulness (exchange : Exchange) : Nat :=
  if exchange.woken then 1 else 0

theorem wakefulness_le_one (exchange : Exchange) : exchange.wakefulness ≤ 1 := by
  rw [wakefulness]
  split <;> omega

/-- What the progress of an exchange leads to: the ticks that wait are delivered, those that listen
are woken, and the exchange that was woken runs. -/
def unrest (exchange : Exchange) : Nat :=
  unitWork * exchange.ticks.length + exchange.attention.work + exchange.wakefulness

/-- The work that an exchange leaves after a run: what it can still ask for, and that it runs
again if it was woken. -/
def cost (exchange : Exchange) : Nat :=
  exchange.work + exchange.wakefulness

theorem cost_waiting (exchange : Exchange) (transport : Transport) (deadline : Option Deadline) :
    { exchange with phase := .waiting transport deadline }.cost =
      stepWork * transport.script.length + transport.wait.work + Deadline.work deadline +
        exchange.unrest := by
  simp only [cost, work, Phase.work, unrest, wakefulness]
  omega

/-! ### Waking -/

theorem wake_phase (exchange : Exchange) : exchange.wake.phase = exchange.phase := by
  rw [wake]
  split <;> rfl

theorem wake_plan (exchange : Exchange) : exchange.wake.plan = exchange.plan := by
  rw [wake]
  split <;> rfl

theorem wake_ticks (exchange : Exchange) : exchange.wake.ticks = exchange.ticks := by
  rw [wake]
  split <;> rfl

theorem wake_attention (exchange : Exchange) : exchange.wake.attention = exchange.attention := by
  rw [wake]
  split <;> rfl

theorem interrupt_phase (exchange : Exchange) : exchange.interrupt.1.phase = exchange.phase := by
  rw [interrupt]
  split
  · exact wake_phase _
  · rfl

theorem interrupt_plan (exchange : Exchange) : exchange.interrupt.1.plan = exchange.plan := by
  rw [interrupt]
  split
  · exact wake_plan _
  · rfl

theorem interrupt_ticks (exchange : Exchange) : exchange.interrupt.1.ticks = exchange.ticks := by
  rw [interrupt]
  split
  · exact wake_ticks _
  · rfl

theorem interrupt_attention (exchange : Exchange) :
    exchange.interrupt.1.attention = exchange.attention := by
  rw [interrupt]
  split
  · exact wake_attention _
  · rfl

theorem alert_phase (exchange : Exchange) : exchange.alert.phase = exchange.phase := by
  rw [alert]
  split
  · exact wake_phase _
  · rfl
  · rfl

theorem alert_plan (exchange : Exchange) : exchange.alert.plan = exchange.plan := by
  rw [alert]
  split
  · exact wake_plan _
  · rfl
  · rfl

theorem alert_ticks (exchange : Exchange) : exchange.alert.ticks = exchange.ticks := by
  rw [alert]
  split
  · exact wake_ticks _
  · rfl
  · rfl

theorem work_attention_alert (exchange : Exchange) :
    exchange.alert.attention.work = exchange.attention.work := by
  rw [alert]
  split
  · rename_i listens
    rw [wake_attention, listens]
    rfl
  · rfl
  · rfl

theorem report_phase (exchange : Exchange) (progress : Progress) :
    (exchange.report progress).phase = exchange.phase := by
  rw [report]
  split
  · rfl
  · exact alert_phase _

theorem report_plan (exchange : Exchange) (progress : Progress) :
    (exchange.report progress).plan = exchange.plan := by
  rw [report]
  split
  · rfl
  · exact alert_plan _

theorem length_ticks_report_le (exchange : Exchange) (progress : Progress) :
    (exchange.report progress).ticks.length ≤ exchange.ticks.length + 1 := by
  rw [report]
  split
  · omega
  · rw [alert_ticks, List.length_append]
    exact Nat.le_refl _

theorem work_attention_report (exchange : Exchange) (progress : Progress) :
    (exchange.report progress).attention.work = exchange.attention.work := by
  rw [report]
  split
  · rfl
  · exact work_attention_alert _

theorem release_phase (exchange : Exchange) : exchange.release.phase = exchange.phase := by
  rw [release]
  dsimp only
  split
  · exact alert_phase _
  · rfl

theorem release_plan (exchange : Exchange) : exchange.release.plan = exchange.plan := by
  rw [release]
  dsimp only
  split
  · exact alert_plan _
  · rfl

theorem release_ticks (exchange : Exchange) : exchange.release.ticks = exchange.ticks := by
  rw [release]
  dsimp only
  split
  · exact alert_ticks _
  · rfl

theorem work_attention_release (exchange : Exchange) :
    exchange.release.attention.work = exchange.attention.work := by
  rw [release]
  dsimp only
  split
  · exact work_attention_alert _
  · rfl

theorem unrest_report_le (exchange : Exchange) (progress : Progress) :
    (exchange.report progress).unrest ≤ exchange.unrest + (unitWork + 1) := by
  have length := length_ticks_report_le exchange progress
  have woken := wakefulness_le_one (exchange.report progress)
  simp only [unrest]
  rw [work_attention_report]
  have := Nat.mul_le_mul_left unitWork length
  rw [Nat.mul_add] at this
  omega

theorem unrest_release_le (exchange : Exchange) :
    exchange.release.unrest ≤ exchange.unrest + 1 := by
  have woken := wakefulness_le_one exchange.release
  simp only [unrest]
  rw [work_attention_release, release_ticks]
  omega

theorem unrest_interrupt_le (exchange : Exchange) :
    exchange.interrupt.1.unrest ≤ exchange.unrest + 1 := by
  have woken := wakefulness_le_one exchange.interrupt.1
  simp only [unrest]
  rw [interrupt_attention, interrupt_ticks]
  omega

theorem work_congr {left right : Exchange} (plan : left.plan = right.plan)
    (phase : left.phase = right.phase) (ticks : left.ticks = right.ticks)
    (attention : left.attention = right.attention) : left.work = right.work := by
  simp only [work, plan, phase, ticks, attention]

theorem work_wake (exchange : Exchange) : exchange.wake.work = exchange.work :=
  work_congr exchange.wake_plan exchange.wake_phase exchange.wake_ticks exchange.wake_attention

theorem work_interrupt (exchange : Exchange) : exchange.interrupt.1.work = exchange.work :=
  work_congr exchange.interrupt_plan exchange.interrupt_phase exchange.interrupt_ticks
    exchange.interrupt_attention

theorem work_release (exchange : Exchange) : exchange.release.work = exchange.work := by
  simp only [work]
  rw [release_phase, release_plan, release_ticks, work_attention_release]

theorem work_report_le (exchange : Exchange) (progress : Progress) :
    (exchange.report progress).work ≤ exchange.work + unitWork := by
  have length := Nat.mul_le_mul_left unitWork (length_ticks_report_le exchange progress)
  rw [Nat.mul_add] at length
  simp only [work]
  rw [report_phase, report_plan, work_attention_report]
  split <;> omega

/-! ### Delivering -/

theorem work_effects_insist (exchange : Exchange) (times : Nat) :
    total Effect.work (exchange.insist times).effects = 0 := by
  induction times generalizing exchange with
  | zero => rfl
  | succ times ih => exact (Nat.zero_add _).trans (ih _)

theorem insist_phase (exchange : Exchange) (times : Nat) :
    (exchange.insist times).exchange.phase = exchange.phase := by
  induction times generalizing exchange with
  | zero => rfl
  | succ times ih => exact (ih _).trans exchange.interrupt_phase

theorem insist_attention (exchange : Exchange) (times : Nat) :
    (exchange.insist times).exchange.attention = exchange.attention := by
  induction times generalizing exchange with
  | zero => rfl
  | succ times ih => exact (ih _).trans exchange.interrupt_attention

theorem work_effects_deliver (exchange : Exchange) (outcome : Outcome) :
    total Effect.work (exchange.deliver outcome).effects = 0 := by
  rw [deliver]
  split
  · rfl
  · rfl
  · exact (Nat.zero_add _).trans (work_effects_insist _ _)

theorem deliver_phase (exchange : Exchange) (outcome : Outcome) :
    (exchange.deliver outcome).exchange.phase = exchange.phase := by
  rw [deliver]
  split
  · rfl
  · rfl
  · exact insist_phase _ _

theorem deliver_attention (exchange : Exchange) (outcome : Outcome) :
    (exchange.deliver outcome).exchange.attention = exchange.attention := by
  rw [deliver]
  split
  · rfl
  · rfl
  · exact insist_attention _ _

theorem work_effects_deliverTicks (allowance : Nat) (ticks : List Progress)
    (exchange : Exchange) :
    total Effect.work (deliverTicks allowance ticks exchange).effects = 0 := by
  fun_induction deliverTicks allowance ticks exchange with
  | case1 => rfl
  | case2 => rfl
  | case3 => rfl
  | case4 allowance tick ticks exchange calm first ih =>
    simp only [Stretch.after, Total.total_append, ih, Nat.add_zero]
    exact work_effects_deliver _ _

theorem deliverTicks_phase (allowance : Nat) (ticks : List Progress) (exchange : Exchange) :
    (deliverTicks allowance ticks exchange).exchange.phase = exchange.phase := by
  fun_induction deliverTicks allowance ticks exchange with
  | case1 => rfl
  | case2 => rfl
  | case3 => rfl
  | case4 allowance tick ticks exchange calm first ih => exact ih.trans (deliver_phase _ _)

theorem deliverTicks_attention (allowance : Nat) (ticks : List Progress) (exchange : Exchange) :
    (deliverTicks allowance ticks exchange).exchange.attention = exchange.attention := by
  fun_induction deliverTicks allowance ticks exchange with
  | case1 => rfl
  | case2 => rfl
  | case3 => rfl
  | case4 allowance tick ticks exchange calm first ih => exact ih.trans (deliver_attention _ _)

/-- Every tick that is delivered pays for the unit of the allowance that it uses. -/
theorem charge_deliverTicks (allowance : Nat) (ticks : List Progress) (exchange : Exchange) :
    unitWork * (deliverTicks allowance ticks exchange).exchange.ticks.length +
        (deliverTicks allowance ticks exchange).exchange.wakefulness +
        charge (deliverTicks allowance ticks exchange).allowance ≤
      unitWork * ticks.length + exchange.wakefulness + charge allowance := by
  fun_induction deliverTicks allowance ticks exchange with
  | case1 => exact Nat.le_refl _
  | case2 => exact Nat.le_refl _
  | case3 => exact Nat.le_refl _
  | case4 allowance tick ticks exchange calm first ih =>
    have := charge_lt allowance
    have := wakefulness_le_one first.exchange
    rw [List.length_cons, Nat.mul_add]
    refine Nat.le_trans ih ?_
    omega

/-- Progress that is delivered leaves no more unrest than there was. -/
theorem unrest_deliverTicks_le (allowance : Nat) (exchange : Exchange) :
    (deliverTicks allowance exchange.ticks exchange).exchange.unrest +
        charge (deliverTicks allowance exchange.ticks exchange).allowance ≤
      exchange.unrest + charge allowance := by
  have := charge_deliverTicks allowance exchange.ticks exchange
  simp only [unrest]
  rw [deliverTicks_attention]
  omega

theorem cost_complete (exchange : Exchange) (result : RequestResult) :
    (exchange.complete result).exchange.cost = 0 := by
  rw [complete]
  split <;> rfl

theorem work_effects_complete (exchange : Exchange) (result : RequestResult) :
    total Effect.work (exchange.complete result).effects = 0 := by
  rw [complete]
  split
  · rfl
  · simp only [Turn.after, finish, Total.total_append, Total.total_cons, Total.total_nil,
      Effect.work, work_effects_deliverTicks, Nat.zero_add, Nat.add_zero]
    rw [conclude]
    split
    · rfl
    · exact work_effects_deliver _ _
    · rfl

/-! ### Playing -/

/-- What a transport that was polled leads to. -/
def Played.work (played : Played) : Nat :=
  total Effect.work played.effects + played.stop.work + played.exchange.unrest +
    halfCharge played.allowance

theorem work_played_after (earlier : Effect) (played : Played) :
    (played.after earlier).work = earlier.work + played.work := by
  simp only [Played.after, Played.work, Total.total_cons]
  omega

theorem work_play_le (self now allowance : Nat) (script : List Step) (sink : Bool)
    (exchange : Exchange) :
    (play self now allowance script sink exchange).work ≤
      stepWork * script.length + exchange.unrest + charge allowance := by
  have half := halfCharge_le_charge allowance
  induction script generalizing allowance sink exchange with
  | nil =>
    simp only [play, Played.work, Stop.work, Total.total_nil]
    omega
  | cons step script ih =>
    have unit := charge_lt (allowance - 1)
    rw [List.length_cons, Nat.mul_add]
    rw [stepWork, unitWork] at *
    cases step with
    | tick progress =>
      have reported := unrest_report_le exchange progress
      have on := ih allowance sink (exchange.report progress) half
      have off := ih allowance sink exchange half
      rw [unitWork] at reported
      rw [play]
      split
      · rw [work_played_after]
        simp only [Effect.work]
        omega
      · omega
    | lateTick delay progress =>
      have on := ih allowance sink exchange.share half
      have off := ih allowance sink exchange half
      have shared : exchange.share.unrest = exchange.unrest := rfl
      rw [play]
      split
      · rw [work_played_after]
        simp only [Effect.work]
        omega
      · omega
    | dropSink =>
      have released := unrest_release_le exchange
      have on := ih allowance false exchange.release half
      have off := ih allowance false exchange half
      rw [play]
      split <;> omega
    | sleep duration =>
      have on := ih (allowance - 1) sink exchange (halfCharge_le_charge _)
      rw [play]
      split
      · rename_i exhausted
        simp only [exhausted, Played.work, Stop.work, Wait.work, Total.total_cons, Total.total_nil,
          Effect.work, halfCharge, charge, List.length_cons, ↓reduceIte, stepWork]
        omega
      · split
        · omega
        · simp only [Played.work, Stop.work, Wait.work, Total.total_cons, Total.total_nil,
            Effect.work, stepWork, unitWork]
          omega
    | yield =>
      simp only [play, Played.work, Stop.work, Wait.work, Total.total_cons, Total.total_nil,
        Effect.work, stepWork]
      omega
    | hang =>
      simp only [play, Played.work, Stop.work, Wait.work, Total.total_nil, stepWork]
      omega
    | abort request =>
      have interrupted := unrest_interrupt_le exchange
      have own := ih allowance sink exchange.interrupt.1 half
      have other := ih allowance sink exchange half
      rw [play]
      split
      · rw [work_played_after, work_played_after]
        simp only [Effect.work]
        omega
      · rw [work_played_after]
        simp only [Effect.work]
        omega
    | respond response =>
      simp only [play, Played.work, Stop.work, Total.total_nil]
      omega
    | fail message =>
      simp only [play, Played.work, Stop.work, Total.total_nil]
      omega

theorem work_poll_le (exchange : Exchange) (self now allowance : Nat) (transport : Transport) :
    (exchange.poll self now allowance transport).work ≤
      stepWork * transport.script.length + transport.wait.work + exchange.unrest +
        charge allowance := by
  have half := halfCharge_le_charge allowance
  have unit := charge_lt (allowance - 1)
  unfold poll
  dsimp only
  split
  · have := work_play_le self now allowance transport.script transport.sink exchange
    omega
  · rename_i forever
    simp only [Played.work, Stop.work, forever, Wait.work, Total.total_nil]
    omega
  · rename_i instant clock
    have := work_play_le self now (allowance - 1) transport.script transport.sink exchange
    split
    · rename_i exhausted
      simp only [exhausted, Played.work, Stop.work, clock, Wait.work, Total.total_cons,
        Total.total_nil, Effect.work, halfCharge, charge, ↓reduceIte]
      omega
    · split
      · simp only [clock, Wait.work]
        omega
      · simp only [Played.work, Stop.work, clock, Wait.work, Total.total_nil]
        omega

/-! ### Running -/

/-- What a turn leads to. -/
def Turn.work (turn : Turn) : Nat :=
  total Effect.work turn.effects + turn.exchange.cost

theorem work_turn_after (earlier : List Effect) (turn : Turn) :
    (turn.after earlier).work = total Effect.work earlier + turn.work := by
  simp only [Turn.after, Turn.work, Total.total_append]
  omega

/-- That a run begins costs nothing. -/
theorem work_after_began (turn : Turn) : (turn.after [.moment .began]).work = turn.work :=
  (work_turn_after _ turn).trans (Nat.zero_add _)

theorem work_finish (exchange : Exchange) : exchange.finish.work = 0 := rfl

theorem work_complete (exchange : Exchange) (result : RequestResult) :
    (exchange.complete result).work = 0 := by
  rw [Turn.work, work_effects_complete, cost_complete]

theorem work_await_le (exchange : Exchange) (now allowance : Nat) (transport : Transport)
    (deadline : Option Deadline) :
    (exchange.await now allowance transport deadline).work ≤
      stepWork * transport.script.length + transport.wait.work + Deadline.work deadline +
        exchange.unrest + halfCharge allowance := by
  simp only [await]
  split
  · simp only [Turn.work, cost_waiting, Total.total_nil]
    omega
  · rename_i deadline
    split
    · rename_i exhausted
      simp only [Turn.work, cost_waiting, Total.total_cons, Total.total_nil, Effect.work,
        halfCharge, exhausted.1, ↓reduceIte]
      omega
    · split
      · rw [work_complete]
        omega
      · simp only [Turn.work, cost_waiting]
        cases set : deadline.isSet with
        | true => simp [Deadline.work, set]
        | false => simp [Deadline.work, set, Effect.work]; omega

theorem work_proceed_le (exchange : Exchange) (now allowance since : Nat)
    (deadline : Option Deadline) (stop : Stop) :
    (exchange.proceed now allowance since deadline stop).work ≤
      stop.work + Deadline.work deadline + exchange.unrest + halfCharge allowance := by
  cases stop with
  | returns result =>
    rw [proceed]
    rw [work_complete]
    omega
  | waits script wait sink =>
    have := exchange.work_await_le now allowance ⟨script, wait, since, sink⟩ deadline
    simp only [proceed, Stop.work]
    omega

/-- Looking out for progress costs nothing: that no more will come pays for its unit. -/
theorem unrest_lookOut_le (exchange : Exchange) (allowance : Nat) :
    (exchange.lookOut allowance).1.unrest + charge (exchange.lookOut allowance).2 ≤
      exchange.unrest + charge allowance := by
  have unit := charge_lt (allowance - 1)
  rw [lookOut]
  split
  · exact Nat.le_refl _
  · rename_i attentive
    have attention : exchange.attention.work = unitWork := by
      cases attention : exchange.attention with
      | away => rfl
      | listening => rfl
      | gone => exact absurd attention attentive
    have gone : Attention.gone.work = 0 := rfl
    have listening : Attention.listening.work = unitWork := rfl
    split <;> simp only [unrest, wakefulness] <;> omega

theorem work_goOn_le (exchange : Exchange) (self now allowance : Nat) (transport : Transport)
    (deadline : Option Deadline) :
    (exchange.goOn self now allowance transport deadline).work ≤
      stepWork * transport.script.length + transport.wait.work + Deadline.work deadline +
        exchange.unrest + charge allowance := by
  have looked := exchange.unrest_lookOut_le allowance
  rw [goOn]
  dsimp only
  generalize exchange.lookOut allowance = out at looked ⊢
  have polled := out.1.work_poll_le self now out.2 transport
  have proceeded := (out.1.poll self now out.2 transport).exchange.work_proceed_le now
    (out.1.poll self now out.2 transport).allowance transport.since deadline
    (out.1.poll self now out.2 transport).stop
  rw [work_turn_after]
  rw [Played.work] at polled
  omega

theorem work_deadline?_le (plan : Plan) (now : Nat) : Deadline.work (plan.deadline? now) ≤ 2 := by
  rw [Plan.deadline?, Deadline.work]
  split <;> split <;> omega

theorem work_firstRun_le (exchange : Exchange) (self now : Nat) :
    (exchange.firstRun self now).work ≤
      stepWork * exchange.plan.script.length + 2 + exchange.unrest := by
  rw [firstRun]
  split
  · exact Nat.zero_le _
  · split
    · rw [work_complete]
      exact Nat.zero_le _
    · have went := { exchange with status := .running }.work_goOn_le self now fullAllowance
        (exchange.called now) (exchange.plan.deadline? now)
      have deadline := work_deadline?_le exchange.plan now
      have script : (exchange.called now).script = exchange.plan.script := rfl
      have wait : (exchange.called now).wait.work = 0 := rfl
      have full : charge fullAllowance = 0 := rfl
      have unrest : { exchange with status := .running }.unrest = exchange.unrest := rfl
      rw [work_turn_after]
      simp only [Total.total_cons, Total.total_nil, Effect.work]
      rw [script, wait, full, unrest] at went
      omega

theorem work_laterRun_le (exchange : Exchange) (self now : Nat) (transport : Transport)
    (deadline : Option Deadline) (phase : exchange.phase = .waiting transport deadline) :
    (exchange.laterRun self now transport deadline).work ≤ exchange.cost := by
  have cost : exchange.cost = stepWork * transport.script.length + transport.wait.work +
      Deadline.work deadline + exchange.unrest := by
    rw [← cost_waiting, ← phase]
  have delivered := unrest_deliverTicks_le fullAllowance exchange
  have silent := work_effects_deliverTicks fullAllowance exchange.ticks exchange
  have stays := deliverTicks_phase fullAllowance exchange.ticks exchange
  have full : charge fullAllowance = 0 := rfl
  rw [laterRun]
  dsimp only
  generalize deliverTicks fullAllowance exchange.ticks exchange = delivery at *
  have waiting : delivery.exchange.cost = stepWork * transport.script.length +
      transport.wait.work + Deadline.work deadline + delivery.exchange.unrest := by
    rw [← cost_waiting, ← phase, ← stays]
  split
  · rename_i exhausted
    have exhausted : charge delivery.allowance = 4 := by rw [exhausted]; rfl
    simp only [Turn.work, Total.total_append, Total.total_cons, Total.total_nil, Effect.work]
    omega
  · split
    · rw [work_turn_after, work_finish, silent]
      omega
    · have went := delivery.exchange.work_goOn_le self now delivery.allowance transport deadline
      rw [work_turn_after]
      omega

/-- What an exchange asks for when it runs and what it leaves is no more than what it could ask
for before. -/
theorem cost_run (exchange : Exchange) (self now : Nat) :
    (exchange.run self now).work ≤ exchange.work := by
  rw [run]
  dsimp only
  split
  · rename_i ended
    simp [Turn.work, cost, work, wakefulness, ended]
  · rename_i fresh
    have := { exchange with woken := false }.work_firstRun_le self now
    rw [work_after_began]
    refine Nat.le_trans this ?_
    simp only [work, Phase.work, fresh, unrest, wakefulness, Bool.false_eq_true, ↓reduceIte]
    omega
  · rename_i transport deadline waiting
    rw [work_after_began]
    exact { exchange with woken := false }.work_laterRun_le self now transport deadline waiting

end Exchange
end HttpExchange
