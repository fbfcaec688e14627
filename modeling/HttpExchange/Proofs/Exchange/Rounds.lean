import HttpExchange.Exchange.Run
import HttpExchange.Proofs.Exchange.Poll

/-!
# The rounds of a run

A run is the loop (`exists_loops_run`), and each round but the last takes a tick from the queue
(`Loops.rounds_le`).
-/

namespace HttpExchange
namespace Exchange

/-! ### The queue while progress is delivered -/

theorem wake_withTicks (exchange : Exchange) (ticks : List Progress) :
    { exchange with ticks := ticks }.wake = { exchange.wake with ticks := ticks } := by
  have same : { exchange with ticks := ticks }.isOver = exchange.isOver := rfl
  rw [wake, wake, same]
  cases exchange.isOver <;> rfl

theorem interrupt_withTicks (exchange : Exchange) (ticks : List Progress) :
    { exchange with ticks := ticks }.interrupt =
      ({ exchange.interrupt.1 with ticks := ticks }, exchange.interrupt.2) := by
  cases pending : exchange.pending with
  | false => simp [interrupt, pending]
  | true =>
    have woken := wake_withTicks { exchange with pending := false, interrupted := true } ticks
    simpa [interrupt, pending] using woken

/-- A turn that leaves another queue. -/
def Turn.withTicks (turn : Turn) (ticks : List Progress) : Turn :=
  { turn with exchange := { turn.exchange with ticks := ticks } }

theorem insist_withTicks (exchange : Exchange) (ticks : List Progress) (times : Nat) :
    { exchange with ticks := ticks }.insist times = (exchange.insist times).withTicks ticks := by
  induction times generalizing exchange with
  | zero => rfl
  | succ times ih =>
    rw [insist, interrupt_withTicks]
    dsimp only
    rw [ih]
    rfl

/-- The callback does not touch the queue. -/
theorem deliver_withTicks (exchange : Exchange) (ticks : List Progress) (outcome : Outcome) :
    { exchange with ticks := ticks }.deliver outcome =
      (exchange.deliver outcome).withTicks ticks := by
  rw [deliver, deliver]
  dsimp only
  split
  · rfl
  · rfl
  · have counted := interrupt_withTicks { exchange with received := exchange.received + 1 } ticks
    have insisted := insist_withTicks { exchange with received := exchange.received + 1 } ticks
    dsimp only at counted insisted
    rw [insisted, counted]
    rfl

/-! ### Rounds -/

section

variable {self now allowance rounds polls : Nat} {exchange : Exchange} {turn : Turn}

/-- The loop polls the transport only in its last round. -/
theorem Loops.polls_le (loops : Loops self now allowance exchange rounds polls turn) :
    polls ≤ 1 := by
  induction loops with
  | pauses last => exact Bool.toNat_le _
  | delivers first further ih => exact ih

/-- There is only one way for the loop to go. -/
theorem Loops.unique (loops : Loops self now allowance exchange rounds polls turn)
    {others more : Nat} {other : Turn}
    (again : Loops self now allowance exchange others more other) :
    others = rounds ∧ more = polls ∧ other = turn := by
  induction loops generalizing others more other with
  | pauses last =>
    cases again with
    | pauses also =>
      cases last.symm.trans also
      exact ⟨rfl, rfl, rfl⟩
    | delivers first => cases last.symm.trans first
  | delivers first further ih =>
    cases again with
    | pauses last => cases first.symm.trans last
    | delivers also rest =>
      cases first.symm.trans also
      obtain ⟨rfl, rfl, rfl⟩ := ih rest
      exact ⟨rfl, rfl, rfl⟩

theorem attend_ne_delivers (exchange : Exchange) (self now allowance : Nat) (stretch : Stretch) :
    exchange.attend self now allowance ≠ .delivers stretch := by
  rw [attend]
  split
  · split <;> exact Round.noConfusion
  · exact Round.noConfusion
  · exact Round.noConfusion

/-- A round that is not the last takes one tick from the queue. -/
theorem length_ticks_of_delivers {stretch : Stretch}
    (delivers : exchange.round self now allowance = .delivers stretch) :
    stretch.exchange.ticks.length + 1 = exchange.ticks.length := by
  rw [round] at delivers
  split at delivers
  · cases delivers
  · split at delivers
    · cases delivers
    · split at delivers
      · rename_i tick ticks queue
        cases delivers
        rw [queue, deliver_withTicks]
        rfl
      · exact absurd delivers (attend_ne_delivers _ _ _ _ _)

/-- The loop makes at most one round for each tick in the queue, and one more. -/
theorem Loops.rounds_le (loops : Loops self now allowance exchange rounds polls turn) :
    rounds ≤ exchange.ticks.length + 1 := by
  induction loops with
  | pauses last => exact Nat.le_add_left _ _
  | delivers first further ih =>
    have taken := length_ticks_of_delivers first
    omega

end

/-! ### A run is the loop -/

/-- What a later run does after it delivered progress. -/
def Stretch.goesOn (delivery : Stretch) (self now : Nat) (transport : Transport)
    (deadline : Option Deadline) : Turn :=
  (if delivery.allowance = 0 then Turn.mk delivery.exchange [.giveWay]
  else if delivery.exchange.interrupted then { delivery.exchange with status := .dropped }.finish
  else delivery.exchange.goOn self now delivery.allowance transport deadline).after delivery.effects

section

variable {self now : Nat} {exchange : Exchange} {transport : Transport}
  {deadline : Option Deadline}

theorem laterRun_eq : exchange.laterRun self now transport deadline =
    (deliverTicks fullAllowance exchange.ticks exchange).goesOn self now transport deadline := by
  rw [laterRun, Stretch.goesOn]
  dsimp only
  split
  · rfl
  · split <;> rfl

theorem Stretch.goesOn_after (earlier : List Effect) (delivery : Stretch) :
    (delivery.after earlier).goesOn self now transport deadline =
      (delivery.goesOn self now transport deadline).after earlier :=
  (Turn.after_after earlier delivery.effects _).symm

/-- A round in which nothing is delivered does what is left to do. -/
theorem exists_round_eq {allowance : Nat} (waiting : exchange.phase = .waiting transport deadline)
    (none : exchange.ticks = [] ∨ allowance = 0 ∨ exchange.interrupted = true) :
    ∃ polled, exchange.round self now allowance =
      .pauses polled
        ((Stretch.mk ⟨exchange, []⟩ allowance).goesOn self now transport deadline) := by
  simp only [round, Stretch.goesOn]
  split
  · exact ⟨false, rfl⟩
  · rename_i left
    split
    · refine ⟨false, ?_⟩
      simp only [leave, waiting]
      rfl
    · rename_i calm
      have drained : exchange.ticks = [] := by simpa [left, calm] using none
      refine ⟨true, ?_⟩
      simp only [drained, attend, waiting]
      rfl

/-- A round that finds progress delivers it. -/
theorem round_of_tick {allowance : Nat} {tick : Progress} {ticks : List Progress}
    (calm : ¬exchange.interrupted = true) :
    { exchange with ticks := tick :: ticks }.round self now (allowance + 1) =
      .delivers ⟨(exchange.deliver (.progress tick)).withTicks ticks, allowance⟩ := by
  rw [round, if_neg (Nat.succ_ne_zero allowance), if_neg (by exact calm), ← deliver_withTicks]
  rfl

/-- The loop delivers progress and then does what is left to do. -/
theorem exists_loops_deliverTicks (allowance : Nat) (ticks : List Progress)
    (waiting : exchange.phase = .waiting transport deadline) :
    ∃ rounds polls, Loops self now allowance { exchange with ticks := ticks } rounds polls
      ((deliverTicks allowance ticks exchange).goesOn self now transport deadline) := by
  fun_induction deliverTicks allowance ticks exchange with
  | case1 allowance exchange =>
    obtain ⟨polled, last⟩ := @exists_round_eq self now { exchange with ticks := [] } _ _ allowance
      waiting (.inl rfl)
    exact ⟨1, polled.toNat, .pauses last⟩
  | case2 tick ticks exchange =>
    obtain ⟨polled, last⟩ := @exists_round_eq self now { exchange with ticks := tick :: ticks } _ _
      0 waiting (.inr (.inl rfl))
    exact ⟨1, polled.toNat, .pauses last⟩
  | case3 allowance tick ticks exchange interrupted =>
    obtain ⟨polled, last⟩ := @exists_round_eq self now { exchange with ticks := tick :: ticks } _ _
      (allowance + 1) waiting (.inr (.inr interrupted))
    exact ⟨1, polled.toNat, .pauses last⟩
  | case4 allowance tick ticks exchange calm first ih =>
    obtain ⟨rounds, polls, further⟩ := ih ((deliver_phase _ _).trans waiting)
    rw [Stretch.goesOn_after]
    exact ⟨rounds + 1, polls, .delivers (round_of_tick calm) further⟩

/-- The first run is one round. -/
theorem exists_round_firstRun (fresh : exchange.phase = .fresh) (none : exchange.ticks = []) :
    ∃ polled, exchange.round self now fullAllowance =
      .pauses polled (exchange.firstRun self now) := by
  simp only [round, firstRun, attend, leave, none, fresh]
  split
  · contradiction
  · split
    · exact ⟨false, rfl⟩
    · split
      · exact ⟨false, rfl⟩
      · exact ⟨true, rfl⟩

/-- Every run of an exchange that is not over is the loop. -/
theorem exists_loops_run (present : exchange.isOver = false)
    (fresh : exchange.phase = .fresh → exchange.ticks = []) (self now : Nat) :
    ∃ rounds polls turn,
      Loops self now fullAllowance { exchange with woken := false } rounds polls turn ∧
        exchange.run self now = turn.after [.moment .began] := by
  have phases : exchange.phase = .fresh ∨
      ∃ transport deadline, exchange.phase = .waiting transport deadline := by
    cases phase : exchange.phase <;> simp_all [isOver]
  rcases phases with first | ⟨transport, deadline, waiting⟩
  · obtain ⟨polled, last⟩ := @exists_round_firstRun self now { exchange with woken := false }
      first (fresh first)
    exact ⟨1, polled.toNat, _, .pauses last, run_of_fresh first⟩
  · obtain ⟨rounds, polls, loops⟩ := @exists_loops_deliverTicks self now
      { exchange with woken := false } transport deadline fullAllowance exchange.ticks waiting
    refine ⟨rounds, polls, _, loops, ?_⟩
    rw [run_of_waiting waiting, laterRun_eq]

end

end Exchange
end HttpExchange
