import HttpExchange.Proofs.Exchange.Rest

/-!
# Exchanges without a sink

A transport without a sink reports no progress, and it never gets one.
-/

namespace HttpExchange

namespace Effect

/-- Nothing is reported, neither at once nor later. -/
structure Mute (effects : List Effect) : Prop where
  lateTicks : lateTicks effects = []
  moments : ∀ moment ∈ moments effects, moment.report? = none

namespace Mute

theorem nil : Mute [] := ⟨rfl, nofun⟩

theorem append {front back : List Effect} (first : Mute front) (last : Mute back) :
    Mute (front ++ back) := by
  constructor
  · rw [lateTicks_append, first.lateTicks, last.lateTicks, List.append_nil]
  · intro moment member
    rw [moments_append, List.mem_append] at member
    exact member.elim (first.moments moment) (last.moments moment)

theorem of_silent {effects : List Effect} (silent : Silent effects) : Mute effects :=
  ⟨silent.lateTicks_eq_nil, silent.report?_eq_none⟩

theorem giveWay : Mute [.giveWay] := ⟨rfl, nofun⟩

theorem timer (instant : Nat) : Mute [.timer instant] := ⟨rfl, nofun⟩

theorem abort (request : Nat) {effects : List Effect} (rest : Mute effects) :
    Mute (.abort request :: effects) :=
  ⟨rest.lateTicks, rest.moments⟩

end Mute
end Effect

namespace Exchange

open Effect

/-- Unless an exchange is over, its queue is empty and its transport has no sink. -/
def Sinkless (exchange : Exchange) : Prop :=
  exchange.isOver = false → exchange.ticks = [] ∧
    ∀ transport deadline, exchange.phase = .waiting transport deadline → transport.sink = false

theorem Sinkless.kin {left right : Exchange} (sinkless : left.Sinkless) (kin : Kin left right)
    (ticks : right.ticks = left.ticks) : right.Sinkless := by
  rw [Sinkless]
  rw [kin.isOver, kin.phase, ticks]
  exact sinkless

theorem mute_play (self now allowance : Nat) (script : List Step) (exchange : Exchange) :
    Mute (play self now allowance script false exchange).effects ∧
      (play self now allowance script false exchange).exchange.ticks = exchange.ticks ∧
      ∀ rest wait holds, (play self now allowance script false exchange).stop =
        .waits rest wait holds → holds = false := by
  induction script generalizing allowance exchange with
  | nil => exact ⟨.nil, rfl, by rintro _ _ _ ⟨⟩⟩
  | cons step script ih =>
    cases step with
    | tick progress => exact ih allowance exchange
    | lateTick delay progress => exact ih allowance exchange
    | dropSink => exact ih allowance exchange
    | sleep duration =>
      rw [play]
      split
      · exact ⟨.giveWay, rfl, by rintro _ _ _ ⟨⟩; rfl⟩
      · split
        · exact ih _ exchange
        · exact ⟨.timer _, rfl, by rintro _ _ _ ⟨⟩; rfl⟩
    | yield => exact ⟨.giveWay, rfl, by rintro _ _ _ ⟨⟩; rfl⟩
    | hang => exact ⟨.nil, rfl, by rintro _ _ _ ⟨⟩; rfl⟩
    | abort request =>
      rw [play]
      split
      · obtain ⟨mute, ticks, holds⟩ := ih allowance exchange.interrupt.1
        exact ⟨.append (.of_silent (.cons rfl (.cons rfl .nil))) mute,
          ticks.trans (interrupt_ticks exchange), holds⟩
      · obtain ⟨mute, ticks, holds⟩ := ih allowance exchange
        exact ⟨mute.abort request, ticks, holds⟩
    | respond response => exact ⟨.nil, rfl, by rintro _ _ _ ⟨⟩⟩
    | fail message => exact ⟨.nil, rfl, by rintro _ _ _ ⟨⟩⟩

section

variable {exchange : Exchange} {transport : Transport}

theorem mute_poll (exchange : Exchange) (self now allowance : Nat) (sunk : transport.sink = false) :
    Mute (exchange.poll self now allowance transport).effects ∧
      (exchange.poll self now allowance transport).exchange.ticks = exchange.ticks ∧
      ∀ rest wait holds, (exchange.poll self now allowance transport).stop =
        .waits rest wait holds → holds = false := by
  have same : ∀ rest wait holds, Stop.waits transport.script transport.wait transport.sink =
      .waits rest wait holds → holds = false := by
    rintro _ _ _ ⟨⟩
    exact sunk
  unfold poll
  dsimp only
  split
  · rw [sunk]
    exact mute_play _ _ _ _ _
  · exact ⟨.nil, rfl, same⟩
  · split
    · exact ⟨.giveWay, rfl, same⟩
    · split
      · rw [sunk]
        exact mute_play _ _ _ _ _
      · exact ⟨.nil, rfl, same⟩

theorem sinkless_of_over (closed : exchange.isOver = true) : exchange.Sinkless := by
  intro present
  cases closed.symm.trans present

theorem mute_await (now allowance : Nat) (deadline : Option Deadline)
    (sunk : transport.sink = false) (drained : exchange.ticks = []) :
    Mute (exchange.await now allowance transport deadline).effects ∧
      (exchange.await now allowance transport deadline).exchange.Sinkless := by
  have waits : ∀ deadline,
      Sinkless { exchange with phase := .waiting transport deadline } := by
    refine fun deadline _ => ⟨drained, ?_⟩
    rintro _ _ ⟨⟩
    exact sunk
  simp only [await]
  split
  · exact ⟨.nil, waits _⟩
  · split
    · exact ⟨.giveWay, waits _⟩
    · split
      · exact ⟨.of_silent (silent_complete _ _), sinkless_of_over (isOver_complete _ _)⟩
      · refine ⟨?_, waits _⟩
        dsimp only
        split
        · exact .nil
        · exact .timer _

theorem mute_proceed (now allowance since : Nat) (deadline : Option Deadline) {stop : Stop}
    (holds : ∀ rest wait sink, stop = .waits rest wait sink → sink = false)
    (drained : exchange.ticks = []) :
    Mute (exchange.proceed now allowance since deadline stop).effects ∧
      (exchange.proceed now allowance since deadline stop).exchange.Sinkless := by
  cases stop with
  | returns result =>
    exact ⟨.of_silent (silent_complete _ _), sinkless_of_over (isOver_complete _ _)⟩
  | waits script wait sink => exact mute_await _ _ _ (holds script wait sink rfl) drained

theorem mute_goOn (exchange : Exchange) (transport : Transport) (self now allowance : Nat)
    (deadline : Option Deadline) (sunk : transport.sink = false) (drained : exchange.ticks = []) :
    Mute (exchange.goOn self now allowance transport deadline).effects ∧
      (exchange.goOn self now allowance transport deadline).exchange.Sinkless := by
  obtain ⟨mute, ticks, holds⟩ := mute_poll (exchange.lookOut allowance).1 self now
    (exchange.lookOut allowance).2 sunk
  rw [lookOut_ticks, drained] at ticks
  obtain ⟨rest, sinkless⟩ := mute_proceed now _ transport.since deadline holds ticks
  exact ⟨mute.append rest, sinkless⟩

theorem mute_firstRun (exchange : Exchange) (self now : Nat)
    (unwanted : exchange.plan.wantsProgress = false)
    (drained : exchange.ticks = []) :
    Mute (exchange.firstRun self now).effects ∧
      (exchange.firstRun self now).exchange.Sinkless := by
  rw [firstRun]
  split
  · exact ⟨.of_silent (silent_finish _), sinkless_of_over rfl⟩
  · split
    · exact ⟨.of_silent (silent_complete _ _), sinkless_of_over (isOver_complete _ _)⟩
    · obtain ⟨mute, sinkless⟩ := mute_goOn { exchange with status := .running }
        (exchange.called now) self now fullAllowance (exchange.plan.deadline? now) unwanted drained
      exact ⟨.append (.of_silent (.cons rfl .nil)) mute, sinkless⟩

theorem mute_laterRun (exchange : Exchange) (self now : Nat) (deadline : Option Deadline)
    (sunk : transport.sink = false) (drained : exchange.ticks = []) :
    Mute (exchange.laterRun self now transport deadline).effects ∧
      (exchange.laterRun self now transport deadline).exchange.Sinkless := by
  have delivered : deliverTicks fullAllowance exchange.ticks exchange =
      ⟨⟨{ exchange with ticks := [] }, []⟩, fullAllowance⟩ := by
    rw [drained]
    rfl
  rw [laterRun]
  dsimp only
  rw [delivered, if_neg (show fullAllowance ≠ 0 by decide)]
  split
  · exact ⟨.of_silent (silent_finish _), sinkless_of_over rfl⟩
  · exact mute_goOn _ transport self now _ deadline sunk rfl

/-- A run of an exchange that wants no progress and has no sink. -/
theorem mute_run (self now : Nat) (unwanted : exchange.plan.wantsProgress = false)
    (sinkless : exchange.Sinkless) :
    Mute (exchange.run self now).effects ∧ (exchange.run self now).exchange.Sinkless := by
  cases phase : exchange.phase with
  | ended =>
    rw [run_of_ended phase]
    exact ⟨.nil, sinkless_of_over (by simp [isOver, phase])⟩
  | fresh =>
    obtain ⟨drained, -⟩ := sinkless (by simp [isOver, phase])
    rw [run_of_fresh phase]
    obtain ⟨mute, still⟩ := mute_firstRun { exchange with woken := false } self now unwanted drained
    exact ⟨.append (.of_silent (.cons rfl .nil)) mute, still⟩
  | waiting transport deadline =>
    obtain ⟨drained, sinks⟩ := sinkless (by simp [isOver, phase])
    rw [run_of_waiting phase]
    obtain ⟨mute, still⟩ := mute_laterRun { exchange with woken := false } self now deadline
      (sinks transport deadline phase) drained
    exact ⟨.append (.of_silent (.cons rfl .nil)) mute, still⟩

end

end Exchange
end HttpExchange
