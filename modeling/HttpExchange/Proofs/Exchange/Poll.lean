import HttpExchange.Proofs.Exchange.Inside

/-!
# Polls

A run polls its transport once or not at all (`run_eq`).
-/

namespace HttpExchange
namespace Exchange

open Effect

/-! ### Polls -/

/-- The poll of its transport that an exchange makes in a run. -/
structure Poll where
  /-- The exchange when it polls. -/
  exchange : Exchange
  /-- What is left of the allowance of the run. -/
  allowance : Nat
  /-- The transport. -/
  transport : Transport
  /-- The deadline, which is looked at afterwards. -/
  deadline : Option Deadline
  /-- What the run did before. -/
  told : List Effect

/-- How far the transport gets. -/
def Poll.played (poll : Poll) (self now : Nat) : Played :=
  poll.exchange.poll self now poll.allowance poll.transport

/-- A run that polls. -/
def Poll.turn (poll : Poll) (self now : Nat) : Turn :=
  let played := poll.played self now
  (played.exchange.proceed now played.allowance poll.transport.since poll.deadline
    played.stop).after (poll.told ++ played.effects)

/-- The poll in a run at `now`, if there is one. -/
def poll? (exchange : Exchange) (now : Nat) : Option Poll :=
  match exchange.phase with
  | .fresh =>
    if exchange.calls then
      let ready := { exchange with woken := false, status := .running }.lookOut fullAllowance
      some ⟨ready.1, ready.2, exchange.called now, exchange.plan.deadline? now,
        [.moment .began, .moment exchange.call]⟩
    else none
  | .waiting transport deadline =>
    let delivery := deliverTicks fullAllowance exchange.ticks { exchange with woken := false }
    if delivery.allowance = 0 ∨ delivery.exchange.interrupted then none
    else
      let ready := delivery.exchange.lookOut delivery.allowance
      some ⟨ready.1, ready.2, transport, deadline, .moment .began :: delivery.effects⟩
  | .ended => none

/-- A run that does not poll. -/
def pass (exchange : Exchange) : Turn :=
  let exchange := { exchange with woken := false }
  match exchange.phase with
  | .fresh =>
    (if exchange.interrupted then exchange.finish
    else exchange.complete (.error (.transport "destination is empty"))).after [.moment .began]
  | .waiting .. =>
    let delivery := deliverTicks fullAllowance exchange.ticks exchange
    (if delivery.allowance = 0 then Turn.mk delivery.exchange [.giveWay]
    else { delivery.exchange with status := .dropped }.finish).after
      (.moment .began :: delivery.effects)
  | .ended => ⟨exchange, []⟩

theorem Turn.after_after (first second : List Effect) (turn : Turn) :
    (turn.after second).after first = turn.after (first ++ second) := by
  simp [Turn.after]

theorem poll?_of_fresh {exchange : Exchange} {now : Nat} (fresh : exchange.phase = .fresh) :
    exchange.poll? now =
      if exchange.calls then
        let ready := { exchange with woken := false, status := .running }.lookOut fullAllowance
        some ⟨ready.1, ready.2, exchange.called now, exchange.plan.deadline? now,
          [.moment .began, .moment exchange.call]⟩
      else none := by
  simp only [poll?, fresh]

theorem poll?_of_waiting {exchange : Exchange} {now : Nat} {transport : Transport}
    {deadline : Option Deadline} (waiting : exchange.phase = .waiting transport deadline) :
    exchange.poll? now =
      let delivery := deliverTicks fullAllowance exchange.ticks { exchange with woken := false }
      if delivery.allowance = 0 ∨ delivery.exchange.interrupted then none
      else
        let ready := delivery.exchange.lookOut delivery.allowance
        some ⟨ready.1, ready.2, transport, deadline, .moment .began :: delivery.effects⟩ := by
  rw [poll?]
  split <;> simp_all

theorem pass_of_fresh {exchange : Exchange} (fresh : exchange.phase = .fresh) :
    exchange.pass =
      (if exchange.interrupted then { exchange with woken := false }.finish
      else { exchange with woken := false }.complete
        (.error (.transport "destination is empty"))).after [.moment .began] := by
  rw [pass]
  dsimp only
  split <;> simp_all

theorem pass_of_waiting {exchange : Exchange} {transport : Transport}
    {deadline : Option Deadline} (waiting : exchange.phase = .waiting transport deadline) :
    exchange.pass =
      let delivery := deliverTicks fullAllowance exchange.ticks { exchange with woken := false }
      (if delivery.allowance = 0 then Turn.mk delivery.exchange [.giveWay]
      else { delivery.exchange with status := .dropped }.finish).after
        (.moment .began :: delivery.effects) := by
  rw [pass]
  dsimp only
  split <;> simp_all

/-- A run polls once or not at all. -/
theorem run_eq (exchange : Exchange) (self now : Nat) :
    exchange.run self now = (exchange.poll? now).elim exchange.pass (·.turn self now) := by
  cases phase : exchange.phase with
  | ended =>
    rw [run_of_ended phase, poll?, pass]
    simp only [phase]
    rfl
  | fresh =>
    rw [run_of_fresh phase, firstRun, poll?_of_fresh phase, pass_of_fresh phase]
    have called : exchange.calls =
        (!exchange.interrupted && !exchange.plan.destination.isEmpty) := by
      simp only [calls, phase]
    rw [called]
    cases interrupted : exchange.interrupted with
    | true => rfl
    | false =>
      cases addressed : exchange.plan.destination.isEmpty with
      | true => simp
      | false =>
        simp [Poll.turn, Turn.after_after, goOn]
        rfl
  | waiting transport deadline =>
    rw [run_of_waiting phase, laterRun, poll?_of_waiting phase, pass_of_waiting phase]
    generalize deliverTicks fullAllowance exchange.ticks { exchange with woken := false } =
      delivery
    dsimp only
    split
    · rename_i spent
      simp [spent, Turn.after]
    · rename_i left
      split
      · rename_i interrupted
        simp [left, interrupted, Turn.after]
      · rename_i calm
        simp [left, calm, Turn.after, goOn, Poll.turn, Poll.played]

/-! ### What becomes of the transport -/

/-- The result that the transport returns when it is polled, if it does. -/
def Poll.returned? (poll : Poll) (self now : Nat) : Option (Except String RawResponse) :=
  match (poll.played self now).stop with
  | .returns result => some result
  | .waits .. => none

/-- The result that the transport returns in a run, if it does. -/
def returned? (exchange : Exchange) (self now : Nat) : Option (Except String RawResponse) :=
  (exchange.poll? now).bind (·.returned? self now)

/-- The status of a transport that was called and did not return: it is dropped once the exchange
is over. -/
def unreturned (exchange : Exchange) : TransportStatus :=
  if exchange.isOver then .dropped else .running

theorem unreturned_await (exchange : Exchange) (now allowance : Nat) (transport : Transport)
    (deadline : Option Deadline) (running : exchange.status = .running) :
    (exchange.await now allowance transport deadline).exchange.status =
      (exchange.await now allowance transport deadline).exchange.unreturned := by
  simp only [await]
  split
  · exact running
  · split
    · exact running
    · split
      · rw [(complete_kept _ _).2, unreturned, isOver_complete]
        rfl
      · exact running

variable {exchange : Exchange} {poll : Poll} {result : Except String RawResponse} {self now : Nat}

theorem Poll.status_of_returned (returned : poll.returned? self now = some result) :
    (poll.turn self now).exchange.isOver = true ∧
      (poll.turn self now).exchange.status = statusOf result := by
  cases stop : (poll.played self now).stop with
  | returns last =>
    obtain rfl : last = result := by simpa [returned?, stop] using returned
    have turn : (poll.turn self now).exchange =
        ((poll.played self now).exchange.proceed now (poll.played self now).allowance
          poll.transport.since poll.deadline (.returns last)).exchange := by
      rw [Poll.turn, stop]
      rfl
    rw [turn, proceed]
    exact ⟨isOver_complete _ _, (complete_kept _ _).2⟩
  | waits script wait sink => simp [returned?, stop] at returned

theorem Poll.status_of_unreturned (waits : poll.returned? self now = none)
    (running : poll.exchange.status = .running) :
    (poll.turn self now).exchange.status = (poll.turn self now).exchange.unreturned := by
  cases stop : (poll.played self now).stop with
  | returns last => simp [returned?, stop] at waits
  | waits script wait sink =>
    have turn : (poll.turn self now).exchange =
        ((poll.played self now).exchange.proceed now (poll.played self now).allowance
          poll.transport.since poll.deadline (.waits script wait sink)).exchange := by
      rw [Poll.turn, stop]
      rfl
    rw [turn, proceed]
    exact unreturned_await _ _ _ _ _ ((kin_poll _ _ _ _ _).status.trans running)

/-- An exchange that polls has called its transport. -/
theorem running_of_poll? (polls : exchange.poll? now = some poll)
    (waiting : exchange.calls = false → exchange.status = .running) :
    poll.exchange.status = .running := by
  cases phase : exchange.phase with
  | ended => simp [poll?, phase] at polls
  | fresh =>
    rw [poll?_of_fresh phase] at polls
    split at polls
    · cases polls
      exact (kin_lookOut _ _).status
    · cases polls
  | waiting transport deadline =>
    rw [poll?_of_waiting phase] at polls
    dsimp only at polls
    split at polls
    · cases polls
    · cases polls
      have kept := alike_deliverTicks fullAllowance exchange.ticks { exchange with woken := false }
      have uncalled : exchange.calls = false := by simp only [calls, phase]
      exact (kin_lookOut _ _).status.trans (kept.status.trans (waiting uncalled))

/-- A transport that returns ends the exchange. -/
theorem status_run_of_returned (returned : exchange.returned? self now = some result) :
    (exchange.run self now).exchange.isOver = true ∧
      (exchange.run self now).exchange.status = statusOf result := by
  obtain ⟨poll, polls, returns⟩ := Option.bind_eq_some_iff.1 returned
  rw [run_eq, polls]
  exact poll.status_of_returned returns

/-- A transport that was called and does not return is dropped if the run is the last. -/
theorem status_run_of_unreturned (waits : exchange.returned? self now = none)
    (called : exchange.calls = true ∨
      (∃ transport deadline, exchange.phase = .waiting transport deadline) ∧
        exchange.status = .running) :
    (exchange.run self now).exchange.status = (exchange.run self now).exchange.unreturned := by
  rw [run_eq]
  cases polls : exchange.poll? now with
  | some poll =>
    rw [returned?, polls] at waits
    refine poll.status_of_unreturned waits (running_of_poll? polls fun uncalled => ?_)
    rcases called with called | ⟨-, running⟩
    · cases uncalled.symm.trans called
    · exact running
  | none =>
    rcases called with called | ⟨⟨transport, deadline, waiting⟩, running⟩
    · cases phase : exchange.phase with
      | fresh =>
        rw [poll?_of_fresh phase, if_pos called] at polls
        cases polls
      | waiting | ended => simp [calls, phase] at called
    · have kept := alike_deliverTicks fullAllowance exchange.ticks { exchange with woken := false }
      change exchange.pass.exchange.status = exchange.pass.exchange.unreturned
      rw [pass_of_waiting waiting]
      dsimp only
      split
      · have going : (deliverTicks fullAllowance exchange.ticks
            { exchange with woken := false }).exchange.isOver = false := by
          rw [kept.kin.isOver]
          simp [isOver, waiting]
        change (deliverTicks _ _ _).exchange.status = unreturned (deliverTicks _ _ _).exchange
        rw [unreturned, going, kept.status]
        exact running
      · rfl

/-- An exchange that does not call its transport in its first run never does. -/
theorem status_run_of_uncalled (fresh : exchange.phase = .fresh)
    (uncalled : exchange.calls = false) :
    (exchange.run self now).exchange.isOver = true ∧
      (exchange.run self now).exchange.status = exchange.status := by
  rw [run_eq, poll?_of_fresh fresh, if_neg (by simp [uncalled])]
  change exchange.pass.exchange.isOver = true ∧ exchange.pass.exchange.status = exchange.status
  rw [pass_of_fresh fresh]
  split
  · exact ⟨rfl, rfl⟩
  · exact ⟨isOver_complete _ _, (complete_kept _ _).2⟩

theorem phase_proceed_ne_fresh (exchange : Exchange) (now allowance since : Nat)
    (deadline : Option Deadline) (stop : Stop) :
    (exchange.proceed now allowance since deadline stop).exchange.phase ≠ .fresh := by
  simp only [proceed]
  split
  · simp [complete_phase]
  · simp only [await]
    split
    · simp
    · split
      · simp
      · split
        · simp [complete_phase]
        · simp

/-- Only the first run finds an exchange fresh. -/
theorem phase_run_ne_fresh (exchange : Exchange) (self now : Nat) :
    (exchange.run self now).exchange.phase ≠ .fresh := by
  rw [run_eq]
  cases polls : exchange.poll? now with
  | some poll => exact phase_proceed_ne_fresh _ _ _ _ _ _
  | none =>
    change exchange.pass.exchange.phase ≠ .fresh
    cases phase : exchange.phase with
    | ended =>
      rw [pass]
      simp [phase]
    | fresh =>
      rw [pass_of_fresh phase]
      split
      · simp [finish, Turn.after]
      · change (complete _ _).exchange.phase ≠ .fresh
        simp [complete_phase]
    | waiting transport deadline =>
      have kept := alike_deliverTicks fullAllowance exchange.ticks { exchange with woken := false }
      rw [pass_of_waiting phase]
      dsimp only
      split
      · change (deliverTicks _ _ _).exchange.phase ≠ .fresh
        rw [kept.phase, phase]
        simp
      · simp [finish, Turn.after]

/-- An exchange that was interrupted does not poll any longer. -/
theorem poll?_of_interrupted (interrupted : exchange.interrupted = true) (now : Nat) :
    exchange.poll? now = none := by
  cases phase : exchange.phase with
  | ended => simp only [poll?, phase]
  | fresh => simp [poll?_of_fresh phase, calls, phase, interrupted]
  | waiting transport deadline =>
    have still : (deliverTicks fullAllowance exchange.ticks
        { exchange with woken := false }).exchange.interrupted = true := by
      cases exchange.ticks <;> simp [fullAllowance, deliverTicks, interrupted]
    rw [poll?_of_waiting phase]
    simp only [still, or_true, if_true]

/-- An exchange that is over does not poll any longer. -/
theorem poll?_of_over (closed : exchange.isOver = true) (now : Nat) :
    exchange.poll? now = none := by
  unfold isOver at closed
  unfold poll?
  split at closed <;> simp_all

end Exchange
end HttpExchange
