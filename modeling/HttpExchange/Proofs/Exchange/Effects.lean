import HttpExchange.Proofs.Exchange.Cost
import HttpExchange.Proofs.Exchange.Moments

/-!
# What an exchange asks for

Whatever delivers outcomes leaves moments alone, and only a script that is played aborts anything.
-/

namespace HttpExchange

namespace Effect

/-- The instants of the timers that effects set. -/
def instants (effects : List Effect) : List Nat :=
  effects.filterMap fun
    | .timer instant => some instant
    | _ => none

/-- The late ticks that effects ask for, with their delays. -/
def lateTicks (effects : List Effect) : List (Nat × Progress) :=
  effects.filterMap fun
    | .lateTick delay progress => some (delay, progress)
    | _ => none

/-- One of the effects gives way. -/
def givesWay (effects : List Effect) : Bool :=
  effects.any fun
    | .giveWay => true
    | _ => false

/-- The moments among effects. -/
def moments (effects : List Effect) : List Moment :=
  effects.filterMap fun
    | .moment told => some told
    | _ => none

@[simp] theorem instants_append (front back : List Effect) :
    instants (front ++ back) = instants front ++ instants back :=
  List.filterMap_append

@[simp] theorem lateTicks_append (front back : List Effect) :
    lateTicks (front ++ back) = lateTicks front ++ lateTicks back :=
  List.filterMap_append

@[simp] theorem givesWay_append (front back : List Effect) :
    givesWay (front ++ back) = (givesWay front || givesWay back) :=
  List.any_append

@[simp] theorem moments_append (front back : List Effect) :
    moments (front ++ back) = moments front ++ moments back :=
  List.filterMap_append

/-- Effects that are nothing but moments, at which nothing is reported. -/
def Silent (effects : List Effect) : Prop :=
  ∀ effect ∈ effects, ∃ moment, effect = .moment moment ∧ moment.report? = none

namespace Silent

theorem nil : Silent [] := nofun

theorem cons {moment : Moment} (unreported : moment.report? = none) {effects : List Effect}
    (silent : Silent effects) : Silent (.moment moment :: effects) := by
  intro effect member
  rcases List.mem_cons.1 member with rfl | member
  · exact ⟨moment, rfl, unreported⟩
  · exact silent effect member

theorem append {front back : List Effect} (first : Silent front) (last : Silent back) :
    Silent (front ++ back) := by
  intro effect member
  rcases List.mem_append.1 member with member | member
  · exact first effect member
  · exact last effect member

variable {effects : List Effect} (silent : Silent effects)

include silent

theorem instants_eq_nil : instants effects = [] := by
  refine List.filterMap_eq_nil_iff.2 fun effect member => ?_
  obtain ⟨moment, rfl, -⟩ := silent effect member
  rfl

theorem lateTicks_eq_nil : lateTicks effects = [] := by
  refine List.filterMap_eq_nil_iff.2 fun effect member => ?_
  obtain ⟨moment, rfl, -⟩ := silent effect member
  rfl

theorem report?_eq_none : ∀ moment ∈ moments effects, moment.report? = none := by
  intro moment member
  obtain ⟨effect, present, same⟩ := List.mem_filterMap.1 member
  obtain ⟨told, rfl, unreported⟩ := silent effect present
  cases same
  exact unreported

theorem givesWay_eq_false : givesWay effects = false := by
  refine List.any_eq_false.2 fun effect member => ?_
  obtain ⟨moment, rfl, -⟩ := silent effect member
  simp

end Silent
end Effect

namespace Exchange

open Effect

/-! ### Delivering -/

theorem silent_insist (exchange : Exchange) (times : Nat) :
    Silent (exchange.insist times).effects := by
  induction times generalizing exchange with
  | zero => exact .nil
  | succ times ih => exact .cons rfl (ih _)

theorem silent_deliver (exchange : Exchange) (outcome : Outcome) :
    Silent (exchange.deliver outcome).effects := by
  rw [deliver]
  split
  · exact .nil
  · exact .nil
  · exact .cons rfl (silent_insist _ _)

theorem silent_deliverTicks (allowance : Nat) (ticks : List Progress) (exchange : Exchange) :
    Silent (deliverTicks allowance ticks exchange).effects := by
  fun_induction deliverTicks allowance ticks exchange with
  | case1 => exact .nil
  | case2 => exact .nil
  | case3 => exact .nil
  | case4 allowance tick ticks exchange calm first ih => exact (silent_deliver _ _).append ih

theorem silent_conclude (exchange : Exchange) (result : RequestResult) :
    Silent (exchange.conclude result).effects := by
  rw [conclude]
  split
  · exact .cons rfl .nil
  · exact silent_deliver _ _
  · exact .nil

theorem silent_finish (exchange : Exchange) : Silent exchange.finish.effects :=
  .cons rfl .nil

theorem silent_complete (exchange : Exchange) (result : RequestResult) :
    Silent (exchange.complete result).effects := by
  rw [complete]
  split
  · exact silent_finish _
  · dsimp only
    refine .append (.cons rfl (.append ?_ ?_)) (silent_finish _)
    · exact silent_deliverTicks _ _ _
    · exact silent_conclude _ _

/-! ### What delivering leaves alone -/

/-- The right exchange differs from the left at most in what its callback received, in its queue,
and in whether it was interrupted or woken. -/
structure Alike (left right : Exchange) : Prop where
  plan : right.plan = left.plan
  phase : right.phase = left.phase
  status : right.status = left.status
  sinks : right.sinks = left.sinks
  attention : right.attention = left.attention

namespace Alike

theorem refl (exchange : Exchange) : Alike exchange exchange :=
  ⟨rfl, rfl, rfl, rfl, rfl⟩

theorem trans {first second third : Exchange} (left : Alike first second)
    (right : Alike second third) : Alike first third :=
  ⟨right.plan.trans left.plan, right.phase.trans left.phase, right.status.trans left.status,
    right.sinks.trans left.sinks, right.attention.trans left.attention⟩

end Alike

theorem alike_wake (exchange : Exchange) : Alike exchange exchange.wake := by
  rw [wake]
  split
  · exact .refl _
  · exact ⟨rfl, rfl, rfl, rfl, rfl⟩

theorem alike_interrupt (exchange : Exchange) : Alike exchange exchange.interrupt.1 := by
  rw [interrupt]
  split
  · have woken := alike_wake { exchange with pending := false, interrupted := true }
    exact ⟨woken.plan, woken.phase, woken.status, woken.sinks, woken.attention⟩
  · exact .refl _

theorem alike_insist (exchange : Exchange) (times : Nat) :
    Alike exchange (exchange.insist times).exchange := by
  induction times generalizing exchange with
  | zero => exact .refl _
  | succ times ih => exact exchange.alike_interrupt.trans (ih _)

theorem alike_deliver (exchange : Exchange) (outcome : Outcome) :
    Alike exchange (exchange.deliver outcome).exchange := by
  rw [deliver]
  split
  · exact .refl _
  · exact .refl _
  · have counted : Alike exchange { exchange with received := exchange.received + 1 } :=
      ⟨rfl, rfl, rfl, rfl, rfl⟩
    exact counted.trans (alike_insist _ _)

theorem alike_deliverTicks (allowance : Nat) (ticks : List Progress) (exchange : Exchange) :
    Alike exchange (deliverTicks allowance ticks exchange).exchange := by
  fun_induction deliverTicks allowance ticks exchange with
  | case1 => exact ⟨rfl, rfl, rfl, rfl, rfl⟩
  | case2 => exact ⟨rfl, rfl, rfl, rfl, rfl⟩
  | case3 => exact ⟨rfl, rfl, rfl, rfl, rfl⟩
  | case4 allowance tick ticks exchange calm first ih => exact (alike_deliver _ _).trans ih

/-! ### The queue -/

theorem lookOut_ticks (exchange : Exchange) (allowance : Nat) :
    (exchange.lookOut allowance).1.ticks = exchange.ticks := by
  rw [lookOut]
  split
  · rfl
  · split <;> rfl

/-! ### What a whole run leaves alone -/

theorem alike_conclude (exchange : Exchange) (result : RequestResult) :
    Alike exchange (exchange.conclude result).exchange := by
  rw [conclude]
  split
  · exact .refl _
  · exact alike_deliver _ _
  · exact .refl _

theorem complete_kept (exchange : Exchange) (result : RequestResult) :
    (exchange.complete result).exchange.plan = exchange.plan ∧
      (exchange.complete result).exchange.status = exchange.status := by
  rw [complete]
  split
  · exact ⟨rfl, rfl⟩
  · have delivered := (alike_deliverTicks exchange.ticks.length exchange.ticks
      { exchange with pending := false }).trans (alike_conclude _ result)
    exact ⟨delivered.plan, delivered.status⟩

theorem complete_phase (exchange : Exchange) (result : RequestResult) :
    (exchange.complete result).exchange.phase = .ended := by
  rw [complete]
  split <;> rfl

theorem complete_plan (exchange : Exchange) (result : RequestResult) :
    (exchange.complete result).exchange.plan = exchange.plan :=
  (complete_kept exchange result).1

/-- The right exchange has the plan, the phase and the transport of the left. -/
structure Kin (left right : Exchange) : Prop where
  plan : right.plan = left.plan
  phase : right.phase = left.phase
  status : right.status = left.status

theorem Kin.refl (exchange : Exchange) : Kin exchange exchange := ⟨rfl, rfl, rfl⟩

theorem Kin.trans {first second third : Exchange} (left : Kin first second)
    (right : Kin second third) : Kin first third :=
  ⟨right.plan.trans left.plan, right.phase.trans left.phase, right.status.trans left.status⟩

theorem Kin.isOver {left right : Exchange} (kin : Kin left right) : right.isOver = left.isOver := by
  simp only [Exchange.isOver]
  rw [kin.phase]

theorem Alike.kin {left right : Exchange} (alike : Alike left right) : Kin left right :=
  ⟨alike.plan, alike.phase, alike.status⟩

theorem kin_alert (exchange : Exchange) : Kin exchange exchange.alert := by
  rw [alert]
  split
  · have changed : Kin exchange { exchange with attention := .away } := ⟨rfl, rfl, rfl⟩
    exact changed.trans (alike_wake _).kin
  · exact .refl _
  · exact .refl _

theorem kin_report (exchange : Exchange) (progress : Progress) :
    Kin exchange (exchange.report progress) := by
  rw [report]
  split
  · exact .refl _
  · have queued : Kin exchange { exchange with ticks := exchange.ticks ++ [progress] } :=
      ⟨rfl, rfl, rfl⟩
    exact queued.trans (kin_alert _)

theorem kin_release (exchange : Exchange) : Kin exchange exchange.release := by
  rw [release]
  dsimp only
  split
  · have fewer : Kin exchange { exchange with sinks := exchange.sinks - 1 } := ⟨rfl, rfl, rfl⟩
    exact fewer.trans (kin_alert _)
  · exact ⟨rfl, rfl, rfl⟩

theorem kin_lookOut (exchange : Exchange) (allowance : Nat) :
    Kin exchange (exchange.lookOut allowance).1 := by
  rw [lookOut]
  split
  · exact .refl _
  · split <;> exact ⟨rfl, rfl, rfl⟩

theorem kin_play (self now allowance : Nat) (script : List Step) (sink : Bool)
    (exchange : Exchange) :
    Kin exchange (play self now allowance script sink exchange).exchange := by
  fun_induction play self now allowance script sink exchange with
  | case1 | case7 | case9 | case10 | case11 | case14 | case15 => exact .refl _
  | case2 allowance progress script exchange ih => exact (kin_report _ _).trans ih
  | case3 | case5 | case8 | case13 => assumption
  | case4 allowance delay progress script exchange ih =>
    have shared : Kin exchange exchange.share := ⟨rfl, rfl, rfl⟩
    exact shared.trans ih
  | case6 allowance script sink exchange ih =>
    refine Kin.trans ?_ ih
    split
    · exact kin_release _
    · exact .refl _
  | case12 allowance request script sink exchange own ih =>
    exact exchange.alike_interrupt.kin.trans ih

theorem kin_poll (exchange : Exchange) (self now allowance : Nat) (transport : Transport) :
    Kin exchange (exchange.poll self now allowance transport).exchange := by
  unfold poll
  dsimp only
  split
  · exact kin_play _ _ _ _ _ _
  · exact .refl _
  · split
    · exact .refl _
    · split
      · exact kin_play _ _ _ _ _ _
      · exact .refl _

theorem proceed_plan (exchange : Exchange) (now allowance since : Nat)
    (deadline : Option Deadline) (stop : Stop) :
    (exchange.proceed now allowance since deadline stop).exchange.plan = exchange.plan := by
  simp only [proceed]
  split
  · exact complete_plan _ _
  · simp only [await]
    split
    · rfl
    · split
      · rfl
      · split
        · exact complete_plan _ _
        · rfl

theorem goOn_plan (exchange : Exchange) (self now allowance : Nat) (transport : Transport)
    (deadline : Option Deadline) :
    (exchange.goOn self now allowance transport deadline).exchange.plan = exchange.plan := by
  have polled := (kin_lookOut exchange allowance).trans
    (kin_poll (exchange.lookOut allowance).1 self now (exchange.lookOut allowance).2 transport)
  exact (proceed_plan _ _ _ _ _ _).trans polled.plan

theorem run_plan (exchange : Exchange) (self now : Nat) :
    (exchange.run self now).exchange.plan = exchange.plan := by
  rw [run]
  dsimp only
  split
  · rfl
  · change (firstRun _ _ _).exchange.plan = _
    rw [firstRun]
    split
    · rfl
    · split
      · exact complete_plan _ _
      · exact goOn_plan _ _ _ _ _ _
  · rename_i transport deadline waiting
    have kept := alike_deliverTicks fullAllowance exchange.ticks { exchange with woken := false }
    change (laterRun _ _ _ _ _).exchange.plan = _
    rw [laterRun]
    dsimp only
    split
    · exact kept.plan
    · split
      · exact kept.plan
      · exact (goOn_plan _ _ _ _ _ _).trans kept.plan

/-! ### Aborts and timers -/

/-- An effect of a run at `now`.  No timer is set to an instant that is past, and only an exchange
without a handle asks its surroundings to abort it, which does nothing. -/
def Proper (self now : Nat) (plan : Plan) : Effect → Prop
  | .timer instant => now ≤ instant
  | .abort request => request = self → plan.hasHandle = false
  | .moment _ | .giveWay | .lateTick .. => True

/-- Effects of a run at `now`. -/
def AllProper (self now : Nat) (plan : Plan) (effects : List Effect) : Prop :=
  ∀ effect ∈ effects, Proper self now plan effect

namespace AllProper

variable {self now : Nat} {plan : Plan} {effects : List Effect}

theorem nil : AllProper self now plan [] := nofun

theorem cons {effect : Effect} (first : Proper self now plan effect)
    (rest : AllProper self now plan effects) : AllProper self now plan (effect :: effects) :=
  List.forall_mem_cons.2 ⟨first, rest⟩

theorem append {front back : List Effect} (first : AllProper self now plan front)
    (last : AllProper self now plan back) : AllProper self now plan (front ++ back) :=
  List.forall_mem_append.2 ⟨first, last⟩

theorem of_silent (silent : Silent effects) : AllProper self now plan effects := by
  intro effect member
  obtain ⟨moment, rfl, -⟩ := silent effect member
  trivial

theorem hasHandle (proper : AllProper self now plan effects) (member : .abort self ∈ effects) :
    plan.hasHandle = false :=
  proper _ member rfl

theorem le_of_mem_instants (proper : AllProper self now plan effects) {instant : Nat}
    (member : instant ∈ instants effects) : now ≤ instant := by
  obtain ⟨effect, present, sets⟩ := List.mem_filterMap.1 member
  cases effect <;> cases sets
  exact proper _ present

end AllProper

theorem proper_play (self now allowance : Nat) (script : List Step) (sink : Bool)
    (exchange : Exchange) :
    AllProper self now exchange.plan (play self now allowance script sink exchange).effects := by
  induction script generalizing allowance sink exchange with
  | nil => exact .nil
  | cons step script ih =>
    cases step with
    | tick progress =>
      rw [play]
      split
      · refine .cons trivial ?_
        rw [← report_plan exchange progress]
        exact ih _ _ _
      · exact ih _ _ _
    | lateTick delay progress =>
      rw [play]
      split
      · exact .cons trivial (ih _ _ exchange.share)
      · exact ih _ _ _
    | dropSink =>
      rw [play]
      split
      · rw [← release_plan exchange]
        exact ih _ _ _
      · exact ih _ _ _
    | sleep duration =>
      rw [play]
      split
      · exact .cons trivial .nil
      · split
        · exact ih _ _ _
        · exact .cons (Nat.le_add_right now duration) .nil
    | yield => exact .cons trivial .nil
    | hang => exact .nil
    | abort request =>
      rw [play]
      split
      · refine .cons trivial (.cons trivial ?_)
        rw [← interrupt_plan exchange]
        exact ih _ _ _
      · rename_i other
        exact .cons (fun same => by simpa [same] using other) (ih _ _ _)
    | respond response => exact .nil
    | fail message => exact .nil

theorem proper_poll (exchange : Exchange) (self now allowance : Nat) (transport : Transport) :
    AllProper self now exchange.plan (exchange.poll self now allowance transport).effects := by
  unfold poll
  dsimp only
  split
  · exact proper_play _ _ _ _ _ _
  · exact .nil
  · split
    · exact .cons trivial .nil
    · split
      · exact proper_play _ _ _ _ _ _
      · exact .nil

theorem proper_await (exchange : Exchange) (self : Nat) (plan : Plan) (now allowance : Nat)
    (transport : Transport) (deadline : Option Deadline) :
    AllProper self now plan (exchange.await now allowance transport deadline).effects := by
  simp only [await]
  split
  · exact .nil
  · split
    · exact .cons trivial .nil
    · split
      · exact .of_silent (silent_complete _ _)
      · rename_i early
        dsimp only
        split
        · exact .nil
        · exact .cons (Nat.le_of_lt (Nat.lt_of_not_le early)) .nil

theorem proper_goOn (exchange : Exchange) (self now allowance : Nat) (transport : Transport)
    (deadline : Option Deadline) :
    AllProper self now exchange.plan
      (exchange.goOn self now allowance transport deadline).effects := by
  refine .append ?_ ?_
  · have polled := proper_poll (exchange.lookOut allowance).1 self now
      (exchange.lookOut allowance).2 transport
    rwa [(kin_lookOut exchange allowance).plan] at polled
  · simp only [proceed]
    split
    · exact .of_silent (silent_complete _ _)
    · exact proper_await _ _ _ _ _ _ _

theorem proper_run (exchange : Exchange) (self now : Nat) :
    AllProper self now exchange.plan (exchange.run self now).effects := by
  rw [run]
  dsimp only
  split
  · exact .nil
  · refine .cons trivial ?_
    rw [firstRun]
    split
    · exact .of_silent (silent_finish _)
    · split
      · exact .of_silent (silent_complete _ _)
      · exact .cons trivial (proper_goOn _ _ _ _ _ _)
  · rename_i transport deadline waiting
    refine .cons trivial ?_
    have told : AllProper self now exchange.plan
        (deliverTicks fullAllowance exchange.ticks { exchange with woken := false }).effects :=
      .of_silent (silent_deliverTicks _ _ _)
    have kept := alike_deliverTicks fullAllowance exchange.ticks { exchange with woken := false }
    rw [laterRun]
    dsimp only
    split
    · exact told.append (.cons trivial .nil)
    · split
      · exact told.append (.of_silent (silent_finish _))
      · have went := proper_goOn (deliverTicks fullAllowance exchange.ticks
          { exchange with woken := false }).exchange self now (deliverTicks fullAllowance
            exchange.ticks { exchange with woken := false }).allowance transport deadline
        rw [kept.plan] at went
        exact told.append went

end Exchange
end HttpExchange
