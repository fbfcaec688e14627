import HttpExchange.Proofs.Exchange.Poll

/-!
# What an exchange waits for

A run sets timers only for what is awaited after it, and gives no instant up that is still to come
(`awaits_run`).
-/

namespace HttpExchange
namespace Exchange

open Effect

/-- An instant at which the transport or the deadline is due. -/
def Awaits (exchange : Exchange) (instant : Nat) : Prop :=
  ∃ transport deadline, exchange.phase = .waiting transport deadline ∧
    (transport.wait = .clock instant ∨ deadline.map Deadline.instant = some instant)

theorem Kin.awaits {left right : Exchange} (kin : Kin left right) {instant : Nat} :
    right.Awaits instant ↔ left.Awaits instant := by
  rw [Awaits, Awaits, kin.phase]

section

variable {exchange : Exchange} {self now allowance : Nat} {rest : List Step} {wait : Wait}
  {holds : Bool}

/-! ### Polling -/

theorem wait_of_play {script : List Step} {sink : Bool}
    (stop : (play self now allowance script sink exchange).stop = .waits rest wait holds) :
    ∀ instant ∈ instants (play self now allowance script sink exchange).effects,
      wait = .clock instant := by
  fun_induction play self now allowance script sink exchange with
  | case1 | case14 | case15 => cases stop
  | case2 | case3 | case4 | case5 | case6 | case8 | case12 | case13 =>
    rename_i ih
    exact ih stop
  | case7 | case10 | case11 => exact List.forall_mem_nil _
  | case9 =>
    cases stop
    exact List.forall_mem_singleton.2 rfl

/-- A transport that waits after a poll waits for what a timer was set for, and for what it waited
for before unless that has come. -/
theorem wait_of_poll {transport : Transport}
    (stop : (exchange.poll self now allowance transport).stop = .waits rest wait holds) :
    (∀ instant ∈ instants (exchange.poll self now allowance transport).effects,
      wait = .clock instant) ∧
    ∀ instant, transport.wait = .clock instant → now ≤ instant →
      instant = now ∨ wait = .clock instant := by
  obtain ⟨script, waits, since, sink⟩ := transport
  rw [poll] at stop ⊢
  cases waits with
  | turn => exact ⟨wait_of_play stop, fun _ clock => Wait.noConfusion clock⟩
  | forever => exact ⟨List.forall_mem_nil _, fun _ clock => Wait.noConfusion clock⟩
  | clock awaited =>
    dsimp only at stop ⊢
    split at stop
    · rename_i spent
      cases stop
      rw [if_pos spent]
      exact ⟨List.forall_mem_nil _, fun _ same _ => .inr same⟩
    · rename_i left
      rw [if_neg left]
      split at stop
      · rename_i due
        rw [if_pos due]
        refine ⟨wait_of_play stop, ?_⟩
        rintro _ ⟨⟩ later
        exact .inl (Nat.le_antisymm due later)
      · rename_i early
        cases stop
        rw [if_neg early]
        exact ⟨List.forall_mem_nil _, fun _ same _ => .inr same⟩

/-! ### Waiting on -/

/-- An exchange that goes on waiting does so for the same transport until the same instant, for
which it sets a timer if it sets one. -/
theorem await_of_present {transport : Transport} {deadline : Option Deadline}
    (present : (exchange.await now allowance transport deadline).exchange.isOver = false) :
    ∃ last, (exchange.await now allowance transport deadline).exchange.phase =
        .waiting transport last ∧
      last.map Deadline.instant = deadline.map Deadline.instant ∧
      ∀ instant ∈ instants (exchange.await now allowance transport deadline).effects,
        deadline.map Deadline.instant = some instant := by
  cases deadline with
  | none => exact ⟨none, rfl, rfl, List.forall_mem_nil _⟩
  | some set =>
    simp only [await] at present ⊢
    split at present
    · rename_i spent
      rw [if_pos spent]
      exact ⟨some set, rfl, rfl, List.forall_mem_nil _⟩
    · rename_i left
      rw [if_neg left]
      split at present
      · rw [isOver_complete] at present
        cases present
      · rename_i early
        rw [if_neg early]
        refine ⟨_, rfl, rfl, ?_⟩
        split
        · exact List.forall_mem_nil _
        · exact List.forall_mem_singleton.2 rfl

/-- What was awaited before a run at `now` and has not come is awaited after it by a transport and
a deadline, and so is whatever the run set a timer for. -/
structure Renews (exchange : Exchange) (now : Nat) (timers : List Nat) (transport : Transport)
    (deadline : Option Deadline) : Prop where
  timers : ∀ instant ∈ timers,
    transport.wait = .clock instant ∨ deadline.map Deadline.instant = some instant
  transport : ∀ earlier set, exchange.phase = .waiting earlier set → ∀ instant,
    earlier.wait = .clock instant → now ≤ instant → instant = now ∨ transport.wait = .clock instant
  /-- The deadline stays. -/
  deadline : ∀ earlier set, exchange.phase = .waiting earlier set →
    deadline.map Deadline.instant = set.map Deadline.instant

/-- What a poll goes on to wait for. -/
theorem Poll.exists_renews {poll : Poll} (untimed : instants poll.told = [])
    (waiting : ∀ transport deadline, exchange.phase = .waiting transport deadline →
      poll.transport = transport ∧ poll.deadline = deadline)
    (present : (poll.turn self now).exchange.isOver = false) :
    ∃ transport deadline, (poll.turn self now).exchange.phase = .waiting transport deadline ∧
      exchange.Renews now (instants (poll.turn self now).effects) transport deadline := by
  have polled := @wait_of_poll poll.exchange self now poll.allowance
  rw [turn] at present ⊢
  dsimp only [Turn.after] at present ⊢
  cases stop : (poll.played self now).stop with
  | returns result =>
    rw [stop, proceed, isOver_complete] at present
    cases present
  | waits script wait sink =>
    rw [stop] at present
    obtain ⟨played, still⟩ := polled stop
    obtain ⟨last, phase, same, sets⟩ := await_of_present present
    refine ⟨_, last, phase, ?_, ?_, ?_⟩
    · rw [instants_append, instants_append, untimed, List.nil_append]
      exact List.forall_mem_append.2 ⟨fun instant member => .inl (played instant member),
        fun instant member => .inr (same.trans (sets instant member))⟩
    · intro earlier set known
      rw [← (waiting earlier set known).1]
      exact still
    · intro earlier set known
      rw [← (waiting earlier set known).2]
      exact same

/-- An exchange that does not poll and goes on waiting waits for the same. -/
theorem exists_renews_pass (present : exchange.pass.exchange.isOver = false)
    (going : exchange.isOver = false) :
    ∃ transport deadline, exchange.pass.exchange.phase = .waiting transport deadline ∧
      exchange.Renews now (instants exchange.pass.effects) transport deadline := by
  have alike := alike_deliverTicks fullAllowance exchange.ticks { exchange with woken := false }
  have silent := silent_deliverTicks fullAllowance exchange.ticks { exchange with woken := false }
  cases phase : exchange.phase with
  | ended => simp [isOver, phase] at going
  | fresh =>
    rw [pass_of_fresh phase] at present
    split at present
    · cases present
    · cases (isOver_complete _ _).symm.trans present
  | waiting transport deadline =>
    rw [pass_of_waiting phase] at present ⊢
    dsimp only at present ⊢
    split at present
    · rename_i spent
      rw [if_pos spent]
      have untimed : instants (.moment .began :: (deliverTicks fullAllowance exchange.ticks
          { exchange with woken := false }).effects ++ [.giveWay]) = [] := by
        rw [instants_append]
        exact congrArg (· ++ []) silent.instants_eq_nil
      refine ⟨transport, deadline, alike.phase.trans phase, ?_, ?_, ?_⟩
      · dsimp only [Turn.after]
        rw [untimed]
        exact List.forall_mem_nil _
      · intro earlier set same instant clock _
        cases phase.symm.trans same
        exact .inr clock
      · intro earlier set same
        cases phase.symm.trans same
        rfl
    · cases present

theorem exists_renews_run (present : (exchange.run self now).exchange.isOver = false) :
    ∃ transport deadline, (exchange.run self now).exchange.phase = .waiting transport deadline ∧
      exchange.Renews now (instants (exchange.run self now).effects) transport deadline := by
  have going := present_of_run present
  rw [run_eq] at present ⊢
  cases polls : exchange.poll? now with
  | none =>
    rw [polls] at present
    exact exists_renews_pass present going
  | some poll =>
    rw [polls] at present
    have silent := silent_deliverTicks fullAllowance exchange.ticks { exchange with woken := false }
    cases phase : exchange.phase with
    | ended => simp [isOver, phase] at going
    | fresh =>
      rw [poll?_of_fresh phase] at polls
      split at polls <;> cases polls
      exact Poll.exists_renews rfl (by simp [phase]) present
    | waiting transport deadline =>
      rw [poll?_of_waiting phase] at polls
      dsimp only at polls
      split at polls <;> cases polls
      exact Poll.exists_renews silent.instants_eq_nil (by simp [phase]) present

/-- After a run that is not the last, what it set timers for is awaited, and what was awaited
before, unless that is there. -/
theorem awaits_run (present : (exchange.run self now).exchange.isOver = false) :
    (∀ instant ∈ instants (exchange.run self now).effects,
      (exchange.run self now).exchange.Awaits instant) ∧
    ∀ instant, exchange.Awaits instant → now ≤ instant →
      instant = now ∨ (exchange.run self now).exchange.Awaits instant := by
  obtain ⟨transport, deadline, phase, renews⟩ := exists_renews_run present
  constructor
  · exact fun instant member => ⟨transport, deadline, phase, renews.timers instant member⟩
  · rintro instant ⟨earlier, set, waiting, clock | due⟩ later
    · rcases renews.transport earlier set waiting instant clock later with here | still
      · exact .inl here
      · exact .inr ⟨transport, deadline, phase, .inl still⟩
    · exact .inr ⟨transport, deadline, phase,
        .inr ((renews.deadline earlier set waiting).trans due)⟩

/-! ### Dormant exchanges -/

/-- Nothing that the exchange waits for is there before `limit`, and no progress will come. -/
structure Dormant (limit : Nat) (exchange : Exchange) : Prop where
  sinks : exchange.sinks = 0
  waits : ∃ transport deadline, exchange.phase = .waiting transport deadline ∧
    transport.wait ≠ .turn
  ahead : ∀ instant, exchange.Awaits instant → limit ≤ instant

theorem Alike.dormant {left right : Exchange} (alike : Alike left right) {limit : Nat}
    (dormant : left.Dormant limit) : right.Dormant limit := by
  refine ⟨alike.sinks.trans dormant.sinks, ?_, fun instant awaited => ?_⟩
  · rw [alike.phase]
    exact dormant.waits
  · exact dormant.ahead instant (alike.kin.awaits.1 awaited)

theorem Dormant.present {limit : Nat} (dormant : exchange.Dormant limit) :
    exchange.isOver = false := by
  obtain ⟨transport, deadline, waiting, -⟩ := dormant.waits
  simp [isOver, waiting]

theorem lookOut_sinks (exchange : Exchange) (allowance : Nat) :
    (exchange.lookOut allowance).1.sinks = exchange.sinks := by
  rw [lookOut]
  split
  · rfl
  · split <;> rfl

/-- A transport that waits for something to come stays as it is. -/
theorem poll_of_early {transport : Transport} (moves : transport.wait ≠ .turn)
    (early : ∀ instant, transport.wait = .clock instant → now < instant) :
    (exchange.poll self now allowance transport).exchange = exchange ∧
      (exchange.poll self now allowance transport).stop =
        .waits transport.script transport.wait transport.sink := by
  unfold poll
  dsimp only
  split
  · contradiction
  · exact ⟨rfl, rfl⟩
  · rename_i instant clock
    split
    · exact ⟨rfl, rfl⟩
    · rw [if_neg (Nat.not_le.2 (early instant clock))]
      exact ⟨rfl, rfl⟩

theorem await_of_early {transport : Transport} {deadline : Option Deadline}
    (early : ∀ set, deadline = some set → now < set.instant) :
    ∃ last, (exchange.await now allowance transport deadline).exchange =
        { exchange with phase := .waiting transport last } ∧
      last.map Deadline.instant = deadline.map Deadline.instant := by
  cases deadline with
  | none => exact ⟨none, rfl, rfl⟩
  | some set =>
    simp only [await]
    split
    · exact ⟨some set, rfl, rfl⟩
    · rw [if_neg (Nat.not_le.2 (early set rfl))]
      exact ⟨_, rfl, rfl⟩

/-- A dormant exchange that runs before anything is there stays dormant, unless its callback aborts
it at progress that was queued. -/
theorem dormant_run {limit : Nat} (dormant : exchange.Dormant limit) (early : now < limit)
    (self : Nat) : (exchange.run self now).exchange.interrupted = true ∨
      (exchange.run self now).exchange.Dormant limit := by
  obtain ⟨transport, deadline, waiting, moves⟩ := dormant.waits
  have alike := alike_deliverTicks fullAllowance exchange.ticks { exchange with woken := false }
  have slept : Alike exchange { exchange with woken := false } := ⟨rfl, rfl, rfl, rfl, rfl⟩
  have delivered := (slept.trans alike).dormant dormant
  rw [run_eq, poll?_of_waiting waiting]
  generalize delivery_eq :
    deliverTicks fullAllowance exchange.ticks { exchange with woken := false } = delivery at *
  dsimp only
  split
  · rename_i stops
    change exchange.pass.exchange.interrupted = true ∨ exchange.pass.exchange.Dormant limit
    rw [pass_of_waiting waiting, delivery_eq]
    dsimp only
    split
    · exact .inr delivered
    · rename_i left
      exact .inl (stops.resolve_left left)
  · obtain ⟨kept, stop⟩ := @poll_of_early (delivery.exchange.lookOut delivery.allowance).1 self now
      (delivery.exchange.lookOut delivery.allowance).2 transport moves fun instant clock =>
        Nat.lt_of_lt_of_le early (dormant.ahead instant ⟨transport, deadline, waiting, .inl clock⟩)
    simp only [Option.elim_some, Poll.turn, Poll.played, Turn.after, stop, proceed]
    obtain ⟨last, same, due⟩ := @await_of_early _ now _ transport deadline fun set known =>
      Nat.lt_of_lt_of_le early (dormant.ahead set.instant
        ⟨transport, deadline, waiting, .inr (congrArg (Option.map _) known)⟩)
    rw [same, kept]
    refine .inr ⟨(lookOut_sinks _ _).trans delivered.sinks, ⟨transport, last, rfl, moves⟩, ?_⟩
    rintro instant ⟨_, _, ⟨⟩, clock | awaited⟩
    · exact dormant.ahead instant ⟨transport, deadline, waiting, .inl clock⟩
    · exact dormant.ahead instant ⟨transport, deadline, waiting, .inr (due.symm.trans awaited)⟩

end

end Exchange
end HttpExchange
