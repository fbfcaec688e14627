import HttpExchange.Proofs.Exchange.Rest

/-!
# Inside a run

What follows in a run neither begins nor calls anything, and aborts only what the script says that
is still ahead (`inside_run`).
-/

namespace HttpExchange

namespace Moment

/-- A run begins, or the transport is called. -/
def opens : Moment → Bool
  | .began | .event (.called ..) => true
  | .event _ | .interrupted _ | .resolved _ | .ended => false

/-- The request with which the transport is called, and whether it gets a sink for progress. -/
def call? : Moment → Option (Request × Bool)
  | .event (.called request progress) => some (request, progress)
  | _ => none

theorem call?_of_opens {moment : Moment} (closed : moment.opens = false) : moment.call? = none := by
  cases moment with
  | event event => cases event <;> simp_all [opens, call?]
  | _ => rfl

end Moment

namespace Effect

/-- An effect inside a run at `now`, of an exchange whose transport has `script` ahead. -/
def Inside (now : Nat) (script : List Step) : Effect → Prop
  | .moment told => told.opens = false
  | .timer instant => now < instant
  | .abort request => .abort request ∈ script
  | .giveWay | .lateTick .. => True

/-- Effects inside a run. -/
def AllInside (now : Nat) (script : List Step) (effects : List Effect) : Prop :=
  ∀ effect ∈ effects, Inside now script effect

namespace AllInside

variable {now : Nat} {script longer : List Step} {effects : List Effect}

theorem nil : AllInside now script [] := nofun

theorem cons {effect : Effect} (first : Inside now script effect)
    (rest : AllInside now script effects) : AllInside now script (effect :: effects) :=
  List.forall_mem_cons.2 ⟨first, rest⟩

theorem append {front back : List Effect} (first : AllInside now script front)
    (last : AllInside now script back) : AllInside now script (front ++ back) :=
  List.forall_mem_append.2 ⟨first, last⟩

theorem mono (inside : AllInside now script effects) (within : script ⊆ longer) :
    AllInside now longer effects := by
  intro effect member
  have first := inside effect member
  cases effect with
  | abort request => exact within first
  | moment | timer => exact first
  | giveWay | lateTick => trivial

theorem opens_eq_false (inside : AllInside now script effects) :
    ∀ told ∈ moments effects, told.opens = false := by
  intro told member
  obtain ⟨effect, present, same⟩ := List.mem_filterMap.1 member
  have first := inside effect present
  cases effect <;> cases same
  exact first

theorem lt_of_mem_instants (inside : AllInside now script effects) :
    ∀ instant ∈ instants effects, now < instant := by
  intro instant member
  obtain ⟨effect, present, same⟩ := List.mem_filterMap.1 member
  have first := inside effect present
  cases effect <;> cases same
  exact first

end AllInside
end Effect

/-- What a transport that waits has still to do is a last part of a script. -/
def Stop.Within (script : List Step) : Stop → Prop
  | .waits rest _ _ => rest <:+ script
  | .returns _ => True

theorem Stop.Within.mono {script longer : List Step} {stop : Stop} (within : stop.Within script)
    (shorter : script <:+ longer) : stop.Within longer := by
  cases stop with
  | waits rest wait sink => exact List.IsSuffix.trans within shorter
  | returns result => trivial

namespace Exchange

open Effect

/-- What the transport has still to do. -/
def ahead (exchange : Exchange) : List Step :=
  match exchange.phase with
  | .fresh => exchange.plan.script
  | .waiting transport _ => transport.script
  | .ended => []

theorem ahead_of_over {exchange : Exchange} (closed : exchange.isOver = true) :
    exchange.ahead = [] := by
  unfold isOver at closed
  unfold ahead
  split at closed <;> simp_all

/-! ### Delivering -/

section

variable (now : Nat) (script : List Step)

theorem inside_insist (exchange : Exchange) (times : Nat) :
    AllInside now script (exchange.insist times).effects := by
  induction times generalizing exchange with
  | zero => exact .nil
  | succ times ih => exact .cons rfl (ih _)

theorem inside_deliver (exchange : Exchange) (outcome : Outcome) :
    AllInside now script (exchange.deliver outcome).effects := by
  rw [deliver]
  split
  · exact .nil
  · exact .nil
  · exact .cons rfl (inside_insist now script _ _)

theorem inside_deliverTicks (allowance : Nat) (ticks : List Progress) (exchange : Exchange) :
    AllInside now script (deliverTicks allowance ticks exchange).effects := by
  fun_induction deliverTicks allowance ticks exchange with
  | case1 | case2 | case3 => exact .nil
  | case4 allowance tick ticks exchange calm first ih =>
    exact (inside_deliver now script _ _).append ih

theorem inside_conclude (exchange : Exchange) (result : RequestResult) :
    AllInside now script (exchange.conclude result).effects := by
  rw [conclude]
  split
  · exact .cons rfl .nil
  · exact inside_deliver now script _ _
  · exact .nil

theorem inside_finish (exchange : Exchange) : AllInside now script exchange.finish.effects :=
  .cons rfl .nil

theorem inside_complete (exchange : Exchange) (result : RequestResult) :
    AllInside now script (exchange.complete result).effects := by
  rw [complete]
  split
  · exact inside_finish now script _
  · refine .append (.cons rfl (.append ?_ ?_)) (inside_finish now script _)
    · exact inside_deliverTicks now script _ _ _
    · exact inside_conclude now script _ _

end

/-! ### Polling -/

theorem inside_play (self now allowance : Nat) (script : List Step) (sink : Bool)
    (exchange : Exchange) :
    AllInside now script (play self now allowance script sink exchange).effects ∧
      (play self now allowance script sink exchange).stop.Within script := by
  induction script generalizing allowance sink exchange with
  | nil => exact ⟨.nil, trivial⟩
  | cons step script ih =>
    have shorter : script <:+ step :: script := List.suffix_cons step script
    have later (allowance : Nat) (sink : Bool) (exchange : Exchange) :
        AllInside now (step :: script) (play self now allowance script sink exchange).effects ∧
          (play self now allowance script sink exchange).stop.Within (step :: script) := by
      obtain ⟨inside, within⟩ := ih allowance sink exchange
      exact ⟨inside.mono shorter.subset, within.mono shorter⟩
    cases step with
    | tick progress =>
      rw [play]
      split
      · exact ⟨.cons rfl (later _ _ _).1, (later _ _ _).2⟩
      · exact later _ _ _
    | lateTick delay progress =>
      rw [play]
      split
      · exact ⟨.cons trivial (later _ _ _).1, (later _ _ _).2⟩
      · exact later _ _ _
    | dropSink => exact later _ _ _
    | sleep duration =>
      rw [play]
      split
      · exact ⟨.cons trivial .nil, List.suffix_refl _⟩
      · split
        · exact later _ _ _
        · rename_i lasting
          exact ⟨.cons (Nat.lt_add_of_pos_right (Nat.pos_of_ne_zero lasting)) .nil, shorter⟩
    | yield => exact ⟨.cons trivial .nil, shorter⟩
    | hang => exact ⟨.nil, shorter⟩
    | abort request =>
      rw [play]
      split
      · exact ⟨.cons rfl (.cons rfl (later _ _ _).1), (later _ _ _).2⟩
      · exact ⟨.cons List.mem_cons_self (later _ _ _).1, (later _ _ _).2⟩
    | respond response => exact ⟨.nil, trivial⟩
    | fail message => exact ⟨.nil, trivial⟩

theorem inside_poll (exchange : Exchange) (self now allowance : Nat) (transport : Transport) :
    AllInside now transport.script (exchange.poll self now allowance transport).effects ∧
      (exchange.poll self now allowance transport).stop.Within transport.script := by
  unfold poll
  dsimp only
  split
  · exact inside_play _ _ _ _ _ _
  · exact ⟨.nil, List.suffix_refl _⟩
  · split
    · exact ⟨.cons trivial .nil, List.suffix_refl _⟩
    · split
      · exact inside_play _ _ _ _ _ _
      · exact ⟨.nil, List.suffix_refl _⟩

theorem inside_await (exchange : Exchange) (now allowance : Nat) (transport : Transport)
    (deadline : Option Deadline) (script : List Step) :
    AllInside now script (exchange.await now allowance transport deadline).effects ∧
      (exchange.await now allowance transport deadline).exchange.ahead <:+ transport.script := by
  simp only [await]
  split
  · exact ⟨.nil, List.suffix_refl _⟩
  · split
    · exact ⟨.cons trivial .nil, List.suffix_refl _⟩
    · split
      · rw [ahead_of_over (isOver_complete _ _)]
        exact ⟨inside_complete _ _ _ _, List.nil_suffix⟩
      · rename_i early
        refine ⟨?_, List.suffix_refl _⟩
        dsimp only
        split
        · exact .nil
        · exact .cons (Nat.lt_of_not_le early) .nil

theorem inside_proceed (exchange : Exchange) (now allowance since : Nat)
    (deadline : Option Deadline) {stop : Stop} {script : List Step} (within : stop.Within script) :
    AllInside now script (exchange.proceed now allowance since deadline stop).effects ∧
      (exchange.proceed now allowance since deadline stop).exchange.ahead <:+ script := by
  cases stop with
  | returns result =>
    simp only [proceed]
    rw [ahead_of_over (isOver_complete _ _)]
    exact ⟨inside_complete _ _ _ _, List.nil_suffix⟩
  | waits rest wait sink =>
    obtain ⟨inside, shorter⟩ :=
      inside_await exchange now allowance ⟨rest, wait, since, sink⟩ deadline script
    exact ⟨inside, List.IsSuffix.trans shorter within⟩

theorem inside_goOn (exchange : Exchange) (self now allowance : Nat) (transport : Transport)
    (deadline : Option Deadline) :
    AllInside now transport.script
        (exchange.goOn self now allowance transport deadline).effects ∧
      (exchange.goOn self now allowance transport deadline).exchange.ahead <:+
        transport.script := by
  obtain ⟨inside, within⟩ := inside_poll (exchange.lookOut allowance).1 self now
    (exchange.lookOut allowance).2 transport
  obtain ⟨later, shorter⟩ := inside_proceed ((exchange.lookOut allowance).1.poll self now
    (exchange.lookOut allowance).2 transport).exchange now ((exchange.lookOut allowance).1.poll
      self now (exchange.lookOut allowance).2 transport).allowance transport.since deadline within
  exact ⟨inside.append later, shorter⟩

/-! ### Runs -/

/-- The transport is called by the run of an exchange. -/
def calls (exchange : Exchange) : Bool :=
  match exchange.phase with
  | .fresh => !exchange.interrupted && !exchange.plan.destination.isEmpty
  | .waiting .. | .ended => false

/-- The moment at which the transport is called. -/
def call (exchange : Exchange) : Moment :=
  .event (.called exchange.plan.request exchange.plan.wantsProgress)

/-- What a run does, and what it leaves of the script: it begins, calls the transport if it is to,
and all the rest happens inside. -/
def RunsInside (exchange : Exchange) (now : Nat) (turn : Turn) : Prop :=
  ∃ inside, turn.effects =
      .moment .began :: ((if exchange.calls then [.moment exchange.call] else []) ++ inside) ∧
    AllInside now exchange.ahead inside ∧ turn.exchange.ahead <:+ exchange.ahead

section

variable {exchange : Exchange}

/-- A first run calls the transport unless it finds an interruption or no destination. -/
theorem runsInside_of_fresh (fresh : exchange.phase = .fresh) (self now : Nat) :
    exchange.RunsInside now (exchange.run self now) := by
  have script : exchange.ahead = exchange.plan.script := by simp only [ahead, fresh]
  have called : exchange.calls =
      (!exchange.interrupted && !exchange.plan.destination.isEmpty) := by
    simp only [calls, fresh]
  rw [RunsInside, run_of_fresh fresh, firstRun, script]
  split
  next interrupted =>
    have uncalled : exchange.calls = false := by
      rw [called, show exchange.interrupted = true from interrupted]
      rfl
    rw [uncalled]
    exact ⟨_, rfl, inside_finish _ _ _, List.nil_suffix⟩
  next calm =>
    split
    next unaddressed =>
      have uncalled : exchange.calls = false := by
        rw [called, show exchange.plan.destination.isEmpty = true from unaddressed]
        exact Bool.and_false _
      rw [uncalled]
      refine ⟨_, rfl, inside_complete _ _ _ _, ?_⟩
      change (complete _ _).exchange.ahead <:+ _
      rw [ahead_of_over (isOver_complete _ _)]
      exact List.nil_suffix
    next addressed =>
      have calling : exchange.calls = true := by
        rw [called, show exchange.interrupted = false from eq_false_of_ne_true calm,
          show exchange.plan.destination.isEmpty = false from eq_false_of_ne_true addressed]
        rfl
      obtain ⟨inside, shorter⟩ := inside_goOn { exchange with woken := false, status := .running }
        self now fullAllowance (Exchange.called { exchange with woken := false } now)
          (exchange.plan.deadline? now)
      rw [calling]
      exact ⟨_, rfl, inside, shorter⟩

/-- A later run calls nothing. -/
theorem runsInside_of_waiting {transport : Transport} {deadline : Option Deadline}
    (waiting : exchange.phase = .waiting transport deadline) (self now : Nat) :
    exchange.RunsInside now (exchange.run self now) := by
  have script : exchange.ahead = transport.script := by simp only [ahead, waiting]
  have told := inside_deliverTicks now transport.script fullAllowance exchange.ticks
    { exchange with woken := false }
  have alike := alike_deliverTicks fullAllowance exchange.ticks { exchange with woken := false }
  have uncalled : exchange.calls = false := by simp only [calls, waiting]
  rw [RunsInside, run_of_waiting waiting, laterRun, script, uncalled]
  generalize deliverTicks fullAllowance exchange.ticks { exchange with woken := false } =
    delivery at *
  split
  next =>
    have same : delivery.exchange.ahead = transport.script := by
      simp only [ahead, alike.phase, waiting]
    refine ⟨_, rfl, told.append (.cons trivial .nil), ?_⟩
    change delivery.exchange.ahead <:+ _
    simp only [same, List.suffix_refl]
  next =>
    split
    next => exact ⟨_, rfl, told.append (inside_finish _ _ _), List.nil_suffix⟩
    next =>
      obtain ⟨inside, shorter⟩ := inside_goOn delivery.exchange self now delivery.allowance
        transport deadline
      exact ⟨_, rfl, told.append inside, shorter⟩

theorem inside_run (present : exchange.isOver = false) (self now : Nat) :
    exchange.RunsInside now (exchange.run self now) := by
  cases phase : exchange.phase with
  | fresh => exact runsInside_of_fresh phase self now
  | waiting transport deadline => exact runsInside_of_waiting phase self now
  | ended => simp [isOver, phase] at present

end

end Exchange
end HttpExchange
