import HttpExchange.Proofs.Exchange.Poll

/-!
# Idle exchanges

A run that finds an exchange idle changes nothing (`Idle.run_eq`), so it makes no difference how
often it is woken for nothing.
-/

namespace HttpExchange
namespace Exchange

open Effect

/-- All that the exchange waits for is still to come at `now`. -/
structure Idle (now : Nat) (exchange : Exchange) : Prop where
  calm : exchange.interrupted = false
  asleep : exchange.woken = false
  ticks : exchange.ticks = []
  /-- It listens for progress if there can be any. -/
  heeds : exchange.attention = .gone ∨ exchange.attention = .listening ∧ exchange.sinks ≠ 0
  /-- Its transport and its deadline are not due, and the timer of the deadline is set. -/
  waits : ∃ transport deadline, exchange.phase = .waiting transport deadline ∧
    (transport.wait = .forever ∨ ∃ instant, transport.wait = .clock instant ∧ now < instant) ∧
      ∀ set, deadline = some set → set.isSet = true ∧ now < set.instant

namespace Idle

variable {exchange : Exchange} {now : Nat}

theorem lookOut (idle : exchange.Idle now) (allowance : Nat) :
    exchange.lookOut allowance = (exchange, allowance) := by
  rw [Exchange.lookOut]
  rcases idle.heeds with gone | ⟨listening, sinks⟩
  · rw [if_pos gone]
  · rw [if_neg (by simp [listening]), if_neg sinks, ← listening]

theorem poll (idle : exchange.Idle now) (self : Nat) {allowance : Nat} (left : allowance ≠ 0)
    {transport : Transport} {deadline : Option Deadline}
    (waiting : exchange.phase = .waiting transport deadline) :
    exchange.poll self now allowance transport =
      ⟨⟨⟨exchange, []⟩, allowance⟩, .waits transport.script transport.wait transport.sink⟩ := by
  obtain ⟨other, last, same, waits, -⟩ := idle.waits
  cases waiting.symm.trans same
  rw [Exchange.poll]
  rcases waits with forever | ⟨instant, clock, later⟩
  · simp only [forever]
  · simp only [clock, if_neg left, if_neg (Nat.not_le.2 later)]

theorem await (idle : exchange.Idle now) {allowance : Nat} (left : allowance ≠ 0)
    {transport : Transport} {deadline : Option Deadline}
    (waiting : exchange.phase = .waiting transport deadline) :
    exchange.await now allowance transport deadline = ⟨exchange, []⟩ := by
  obtain ⟨other, last, same, -, sets⟩ := idle.waits
  cases waiting.symm.trans same
  cases deadline with
  | none => rw [Exchange.await, ← waiting]
  | some set =>
    obtain ⟨isSet, later⟩ := sets set rfl
    have whole : { set with isSet := true } = set := by rw [← isSet]
    rw [Exchange.await, whole, ← waiting]
    simp [left, isSet, Nat.not_le.2 later]

/-- A run changes nothing of an idle exchange, whether it was woken or not. -/
theorem run_eq (idle : exchange.Idle now) (self : Nat) (woken : Bool) :
    { exchange with woken := woken }.run self now = ⟨exchange, [.moment .began]⟩ := by
  obtain ⟨transport, deadline, waiting, -⟩ := idle.waits
  have slept : { exchange with woken := false } = exchange := by rw [← idle.asleep]
  have delivery : deliverTicks fullAllowance exchange.ticks exchange =
      ⟨⟨exchange, []⟩, fullAllowance⟩ := by
    rw [idle.ticks, deliverTicks, ← idle.ticks]
  have left : fullAllowance ≠ 0 := by decide
  have still : { exchange with woken := woken }.run self now = exchange.run self now := rfl
  rw [still, run_of_waiting waiting, slept, laterRun, delivery]
  simp only [left, idle.calm, if_false, goOn, idle.lookOut, idle.poll self left waiting, proceed]
  rw [idle.await left waiting]
  simp [Turn.after]

end Idle

/-! ### How a run leaves an exchange -/

/-- The exchange listens for progress only if there is a sink. -/
def Heedful (exchange : Exchange) : Prop :=
  exchange.attention = .listening → exchange.sinks ≠ 0

section

variable {exchange : Exchange} {self now : Nat}

theorem heedful_lookOut (exchange : Exchange) (allowance : Nat) :
    (exchange.lookOut allowance).1.Heedful := by
  rw [lookOut]
  split
  · rename_i gone
    simp [Heedful, gone]
  · split
    · simp [Heedful]
    · rename_i sinks
      exact fun _ => sinks

theorem Heedful.interrupt (heedful : exchange.Heedful) : exchange.interrupt.1.Heedful := by
  have alike := alike_interrupt exchange
  rw [Heedful, alike.attention, alike.sinks]
  exact heedful

theorem attention_alert_ne_listening (exchange : Exchange) :
    exchange.alert.attention ≠ .listening := by
  rw [alert]
  split
  · rw [wake_attention]
    simp
  · rename_i away
    simp [away]
  · rename_i gone
    simp [gone]

theorem heedful_alert (exchange : Exchange) : exchange.alert.Heedful :=
  fun listening => absurd listening (attention_alert_ne_listening exchange)

theorem Heedful.report (heedful : exchange.Heedful) (progress : Progress) :
    (exchange.report progress).Heedful := by
  rw [Exchange.report]
  split
  · exact heedful
  · exact heedful_alert _

theorem heedful_release (exchange : Exchange) : exchange.release.Heedful := by
  rw [release]
  dsimp only
  split
  · exact heedful_alert _
  · rename_i sinks
    exact fun _ => sinks

theorem Heedful.play (heedful : exchange.Heedful) (self now allowance : Nat)
    (script : List HttpExchange.Step) (sink : Bool) :
    (Exchange.play self now allowance script sink exchange).exchange.Heedful := by
  fun_induction Exchange.play self now allowance script sink exchange with
  | case1 | case7 | case9 | case10 | case11 | case14 | case15 => exact heedful
  | case2 allowance progress script exchange ih => exact ih (heedful.report progress)
  | case3 | case5 | case8 | case13 =>
    rename_i ih
    exact ih heedful
  | case4 allowance delay progress script exchange ih =>
    refine ih fun _ => ?_
    exact Nat.succ_ne_zero _
  | case6 allowance script sink exchange ih =>
    apply ih
    split
    · exact heedful_release _
    · exact heedful
  | case12 allowance request script sink exchange own ih => exact ih heedful.interrupt

theorem Heedful.poll (heedful : exchange.Heedful) (self now allowance : Nat)
    (transport : Transport) : (exchange.poll self now allowance transport).exchange.Heedful := by
  unfold Exchange.poll
  dsimp only
  split
  · exact heedful.play _ _ _ _ _
  · exact heedful
  · split
    · exact heedful
    · split
      · exact heedful.play _ _ _ _ _
      · exact heedful

theorem heedful_of_poll? {poll : Poll} (polls : exchange.poll? now = some poll) :
    poll.exchange.Heedful := by
  cases phase : exchange.phase with
  | ended => simp [poll?, phase] at polls
  | fresh =>
    rw [poll?_of_fresh phase] at polls
    split at polls <;> cases polls
    exact heedful_lookOut _ _
  | waiting transport deadline =>
    rw [poll?_of_waiting phase] at polls
    dsimp only at polls
    split at polls <;> cases polls
    exact heedful_lookOut _ _

/-- An exchange that goes on waiting and does not give way has set a timer for its deadline. -/
theorem await_of_stays {allowance : Nat} {transport : Transport} {deadline : Option Deadline}
    (present : (exchange.await now allowance transport deadline).exchange.isOver = false)
    (stays : givesWay (exchange.await now allowance transport deadline).effects = false) :
    ∃ last, (exchange.await now allowance transport deadline).exchange =
        { exchange with phase := .waiting transport last } ∧
      ∀ set, last = some set → set.isSet = true ∧ now < set.instant := by
  cases deadline with
  | none => exact ⟨none, rfl, by simp⟩
  | some set =>
    simp only [await] at present stays ⊢
    split at present
    · rename_i spent
      rw [if_pos spent] at stays
      simp [givesWay] at stays
    · rename_i left
      rw [if_neg left]
      split at present
      · rw [isOver_complete] at present
        cases present
      · rename_i early
        rw [if_neg early]
        refine ⟨_, rfl, ?_⟩
        rintro _ ⟨⟩
        exact ⟨rfl, Nat.lt_of_not_le early⟩

/-- An exchange that goes on waiting after a run and does not give way has polled its transport. -/
theorem run_of_stays (going : exchange.isOver = false)
    (present : (exchange.run self now).exchange.isOver = false)
    (stays : givesWay (exchange.run self now).effects = false) :
    (exchange.run self now).exchange.Heedful ∧ ∃ transport deadline,
      (exchange.run self now).exchange.phase = .waiting transport deadline ∧
        ∀ set, deadline = some set → set.isSet = true ∧ now < set.instant := by
  rw [Exchange.run_eq] at present stays ⊢
  cases polls : exchange.poll? now with
  | none =>
    rw [polls] at present stays
    change exchange.pass.exchange.isOver = false at present
    change givesWay exchange.pass.effects = false at stays
    cases phase : exchange.phase with
    | ended => simp [isOver, phase] at going
    | fresh =>
      rw [pass_of_fresh phase] at present
      split at present
      · cases present
      · cases (isOver_complete _ _).symm.trans present
    | waiting transport deadline =>
      rw [pass_of_waiting phase] at present stays
      dsimp only at present stays
      split at present
      · rename_i spent
        rw [if_pos spent] at stays
        simp [Turn.after, givesWay] at stays
      · cases present
  | some poll =>
    rw [polls] at present stays
    have heedful := (heedful_of_poll? polls).poll self now poll.allowance poll.transport
    change (poll.turn self now).exchange.isOver = false at present
    change givesWay (poll.turn self now).effects = false at stays
    change (poll.turn self now).exchange.Heedful ∧ _
    simp only [Option.elim_some]
    unfold Poll.turn at present stays ⊢
    dsimp only [Turn.after] at present stays ⊢
    rw [givesWay_append, Bool.or_eq_false_iff] at stays
    cases stop : (poll.played self now).stop with
    | returns result =>
      rw [stop, proceed, isOver_complete] at present
      cases present
    | waits script wait sink =>
      rw [stop] at present stays
      obtain ⟨last, same, sets⟩ := await_of_stays present stays.2
      rw [proceed, same]
      exact ⟨heedful, _, last, rfl, sets⟩

/-- A timer of the present instant is not needed for what is waited for. -/
theorem Steady.filter {late : Nat} {alarms : List Nat} (steady : exchange.Steady now late alarms) :
    exchange.Steady now late (alarms.filter fun instant => decide (now < instant)) := by
  have timed : ∀ {instant}, Timed now alarms instant →
      Timed now (alarms.filter fun instant => decide (now < instant)) instant := by
    rintro instant ⟨later, member | here⟩
    · refine ⟨later, ?_⟩
      rcases Nat.lt_or_eq_of_le later with ahead | here
      · exact .inl (List.mem_filter.2 ⟨member, by simpa using ahead⟩)
      · exact .inr here.symm
    · exact ⟨later, .inr here⟩
  refine ⟨steady.attends, steady.fresh, ?_, ?_⟩
  · exact fun transport deadline waiting instant clock =>
      timed (steady.timed transport deadline waiting instant clock)
  · intro transport deadline waiting
    obtain ⟨later, alarmed⟩ := steady.deadline transport deadline waiting
    exact ⟨later, fun isSet => timed (alarmed isSet)⟩

/-- A run leaves an exchange idle that it does not end, that is not woken again and that does not
give way. -/
theorem idle_run {late : Nat} {alarms : List Nat} (steady : exchange.Steady now late alarms)
    (present : (exchange.run self now).exchange.isOver = false)
    (asleep : (exchange.run self now).exchange.woken = false)
    (stays : givesWay (exchange.run self now).effects = false) :
    (exchange.run self now).exchange.Idle now := by
  obtain ⟨heedful, transport, deadline, waiting, sets⟩ :=
    run_of_stays steady.attends.present present stays
  obtain ⟨inside, effects, all, -⟩ := inside_run steady.attends.present self now
  obtain ⟨still, rests⟩ := leaves_run self steady.filter present
  rw [asleep, stays] at rests
  obtain ⟨calm, attentive, other, last, same, moves, clocks, -⟩ :=
    (rests.resolve_left (by simp)).resolve_left (by simp)
  cases waiting.symm.trans same
  have ahead : ∀ instant, transport.wait = .clock instant → now < instant := by
    intro instant clock
    rcases List.mem_append.1 (clocks instant clock) with old | new
    · simpa using (List.mem_filter.1 old).2
    · have own : instants (exchange.run self now).effects = instants inside := by
        rw [effects]
        cases exchange.calls <;> rfl
      rw [own] at new
      exact all.lt_of_mem_instants instant new
  refine ⟨calm, asleep, still.attends.ticks attentive, ?_, transport, deadline, waiting, ?_, sets⟩
  · cases attention : (exchange.run self now).exchange.attention with
    | away => exact absurd attention attentive
    | gone => exact .inl rfl
    | listening => exact .inr ⟨rfl, heedful attention⟩
  · cases wait : transport.wait with
    | turn => exact absurd wait moves
    | forever => exact .inl rfl
    | clock instant => exact .inr ⟨instant, rfl, ahead instant wait⟩

end

end Exchange
end HttpExchange
