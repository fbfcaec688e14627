import HttpExchange.Proofs.Exchange.Poll
import HttpExchange.Proofs.Ledger.Basic

/-!
# The stages of a run

The callback receives what was queued, then the transport is polled, and at last the result may
become known (`staged_run`).
-/

namespace HttpExchange

namespace Moment

/-- The result that becomes known at a moment. -/
def result? : Moment → Option RequestResult
  | .resolved result => some result
  | _ => none

/-- The answer that the callback gets as it aborts its own request. -/
def answer? : Moment → Option Bool
  | .event (.delivered _ _ answer) => answer
  | _ => none

/-- The callback receives an outcome, or the result becomes known. -/
def handsOver : Moment → Bool
  | .event (.delivered ..) | .resolved _ => true
  | .began | .event _ | .interrupted _ | .ended => false

end Moment

namespace Effect

/-- Effects by which nothing is reported and no result becomes known, and an abort from within the
callback is noted next. -/
inductive Receives : List Effect → Prop
  | nil : Receives []
  | cons {moment : Moment} {effects : List Effect} (unreported : moment.report? = none)
      (unresolved : moment.result? = none) (unanswered : moment.answer? = none)
      (further : Receives effects) : Receives (.moment moment :: effects)
  | answered {pending success : Bool} {outcome : Outcome} {effects : List Effect}
      (further : Receives effects) :
      Receives (.moment (.event (.delivered pending outcome (some success))) ::
        .moment (.interrupted success) :: effects)

/-- The last stage of a run, after `first`: the run is not the last, or all that was owed was
received, the result becomes known, and what is left is received. -/
inductive Concludes (owed : List Progress) (first : List Effect) : List Effect → Prop
  | goesOn : Concludes owed first []
  | resolved {result : RequestResult} {effects : List Effect}
      (paid : (moments first).filterMap Moment.receipt? = owed) (receives : Receives effects) :
      Concludes owed first (.moment (.resolved result) :: effects)

/-- The stages of a run that begins while `owed` is queued. -/
inductive Staged (owed : List Progress) : List Effect → Prop
  | intro {first polled last : List Effect} (receives : Receives first)
      (polls : ∀ moment ∈ moments polled, moment.handsOver = false)
      (concludes : Concludes owed first last) : Staged owed (first ++ (polled ++ last))

namespace Receives

variable {effects front back : List Effect}

theorem append (first : Receives front) (last : Receives back) : Receives (front ++ back) := by
  induction first with
  | nil => exact last
  | cons unreported unresolved unanswered _ ih => exact .cons unreported unresolved unanswered ih
  | answered _ ih => exact .answered ih

theorem unreported (receives : Receives effects) :
    ∀ moment ∈ moments effects, moment.report? = none := by
  induction receives with
  | nil => exact List.forall_mem_nil _
  | cons unreported _ _ _ ih => exact List.forall_mem_cons.2 ⟨unreported, ih⟩
  | answered _ ih => exact List.forall_mem_cons.2 ⟨rfl, List.forall_mem_cons.2 ⟨rfl, ih⟩⟩

theorem unresolved (receives : Receives effects) :
    ∀ moment ∈ moments effects, moment.result? = none := by
  induction receives with
  | nil => exact List.forall_mem_nil _
  | cons _ unresolved _ _ ih => exact List.forall_mem_cons.2 ⟨unresolved, ih⟩
  | answered _ ih => exact List.forall_mem_cons.2 ⟨rfl, List.forall_mem_cons.2 ⟨rfl, ih⟩⟩

theorem began : Receives [.moment .began] :=
  .cons rfl rfl rfl .nil

end Receives

theorem handsOver_nil : ∀ moment ∈ moments [], moment.handsOver = false :=
  List.forall_mem_nil _

/-- A run that is not the last. -/
theorem Staged.goesOn {owed : List Progress} {first polled : List Effect}
    (receives : Receives first) (polls : ∀ moment ∈ moments polled, moment.handsOver = false) :
    Staged owed (first ++ polled) := by
  rw [← List.append_nil polled]
  exact .intro receives polls .goesOn

end Effect

namespace Exchange

open Effect

/-! ### Delivering -/

theorem receives_insist (exchange : Exchange) (times : Nat) :
    Receives (exchange.insist times).effects := by
  induction times generalizing exchange with
  | zero => exact .nil
  | succ times ih => exact .cons rfl rfl rfl (ih _)

theorem receives_deliver (exchange : Exchange) (outcome : Outcome) :
    Receives (exchange.deliver outcome).effects := by
  rw [deliver]
  split
  · exact .nil
  · exact .nil
  · dsimp only
    split
    next none =>
      rw [none]
      exact .cons rfl rfl rfl .nil
    next some =>
      obtain ⟨times, same⟩ := Nat.exists_eq_add_one_of_ne_zero some
      rw [same]
      exact .answered (receives_insist _ times)

theorem receives_deliverTicks (allowance : Nat) (ticks : List Progress) (exchange : Exchange) :
    Receives (deliverTicks allowance ticks exchange).effects := by
  fun_induction deliverTicks allowance ticks exchange with
  | case1 | case2 | case3 => exact .nil
  | case4 allowance tick ticks exchange calm first ih => exact (receives_deliver _ _).append ih

theorem receives_conclude (exchange : Exchange) (result : RequestResult) :
    Receives (exchange.conclude result).effects := by
  rw [conclude]
  split
  · exact .cons rfl rfl rfl .nil
  · exact receives_deliver _ _
  · exact .nil

theorem receives_finish (exchange : Exchange) : Receives exchange.finish.effects :=
  .cons rfl rfl rfl .nil

theorem receives_call (exchange : Exchange) :
    Receives [.moment .began, .moment exchange.call] :=
  .cons rfl rfl rfl (.cons rfl rfl rfl .nil)

theorem receipt?_insist (exchange : Exchange) (times : Nat) :
    (moments (exchange.insist times).effects).filterMap Moment.receipt? = [] := by
  induction times generalizing exchange with
  | zero => rfl
  | succ times ih => exact ih _

theorem receipt?_deliver {exchange : Exchange} (attended : exchange.plan.mode.Attended)
    (tick : Progress) :
    (moments (exchange.deliver (.progress tick)).effects).filterMap Moment.receipt? = [tick] := by
  rw [deliver]
  split
  next fetch =>
    rw [fetch] at attended
    exact attended.elim
  next absent =>
    rw [absent] at attended
    exact attended.elim
  next => exact congrArg (tick :: ·) (receipt?_insist _ _)

/-- A delivery that neither uses its allowance up nor is interrupted delivers everything. -/
theorem receipt?_deliverTicks {allowance : Nat} {ticks : List Progress} {exchange : Exchange}
    (attended : exchange.plan.mode.Attended)
    (left : (deliverTicks allowance ticks exchange).allowance ≠ 0)
    (calm : (deliverTicks allowance ticks exchange).exchange.interrupted = false) :
    (moments (deliverTicks allowance ticks exchange).effects).filterMap Moment.receipt? =
      ticks := by
  fun_induction deliverTicks allowance ticks exchange with
  | case1 => rfl
  | case2 => exact absurd rfl left
  | case3 allowance tick ticks exchange interrupted => cases calm.symm.trans interrupted
  | case4 allowance tick ticks exchange _ first ih =>
    have still : first.exchange.plan.mode.Attended := by
      rwa [(alike_deliver exchange (.progress tick)).plan]
    have others := ih still left calm
    change (moments (first.effects ++ _)).filterMap Moment.receipt? = _
    rw [moments_append, List.filterMap_append, receipt?_deliver attended, others]
    rfl

/-! ### Polling -/

theorem handsOver_play (self now allowance : Nat) (script : List Step) (sink : Bool)
    (exchange : Exchange) :
    ∀ moment ∈ moments (play self now allowance script sink exchange).effects,
      moment.handsOver = false := by
  induction script generalizing allowance sink exchange with
  | nil => exact List.forall_mem_nil _
  | cons step script ih =>
    cases step with
    | tick progress =>
      rw [play]
      split
      · exact List.forall_mem_cons.2 ⟨rfl, ih _ _ _⟩
      · exact ih _ _ _
    | lateTick delay progress =>
      rw [play]
      split <;> exact ih _ _ _
    | dropSink => exact ih _ _ _
    | sleep duration =>
      rw [play]
      split
      · exact List.forall_mem_nil _
      · split
        · exact ih _ _ _
        · exact List.forall_mem_nil _
    | abort request =>
      rw [play]
      split
      · exact List.forall_mem_cons.2 ⟨rfl, List.forall_mem_cons.2 ⟨rfl, ih _ _ _⟩⟩
      · exact ih _ _ _
    | yield | hang | respond | fail => exact List.forall_mem_nil _

theorem handsOver_poll (exchange : Exchange) (self now allowance : Nat) (transport : Transport) :
    ∀ moment ∈ moments (exchange.poll self now allowance transport).effects,
      moment.handsOver = false := by
  unfold poll
  dsimp only
  split
  · exact handsOver_play _ _ _ _ _ _
  · exact List.forall_mem_nil _
  · split
    · exact List.forall_mem_nil _
    · split
      · exact handsOver_play _ _ _ _ _ _
      · exact List.forall_mem_nil _

/-! ### Runs -/

section

variable {owed : List Progress} {first : List Effect}

/-- The result becomes known, unless an interruption came first. -/
theorem staged_complete (receives : Receives first)
    (paid : (moments first).filterMap Moment.receipt? = owed) {polled : List Effect}
    (polls : ∀ moment ∈ moments polled, moment.handsOver = false) (exchange : Exchange)
    (result : RequestResult) :
    Staged owed (first ++ (polled ++ (exchange.complete result).effects)) := by
  rw [complete]
  split
  · refine .goesOn receives ?_
    rw [moments_append]
    exact List.forall_mem_append.2 ⟨polls, List.forall_mem_singleton.2 rfl⟩
  · refine .intro receives polls (.resolved paid (.append (.append ?_ ?_) (receives_finish _)))
    · exact receives_deliverTicks _ _ _
    · exact receives_conclude _ _

theorem Poll.staged_turn {poll : Poll} (receives : Receives poll.told)
    (paid : (moments poll.told).filterMap Moment.receipt? = owed) (self now : Nat) :
    Staged owed (poll.turn self now).effects := by
  have polls := handsOver_poll poll.exchange self now poll.allowance poll.transport
  have waits {effects : List Effect} (quiet : moments effects = []) :
      Staged owed (poll.told ++ ((poll.played self now).effects ++ effects)) := by
    refine .goesOn receives ?_
    rw [moments_append, quiet, List.append_nil]
    exact polls
  rw [turn]
  dsimp only [Turn.after]
  rw [List.append_assoc]
  simp only [proceed]
  split
  · exact staged_complete receives paid polls _ _
  · simp only [await]
    split
    · exact waits rfl
    · split
      · exact waits rfl
      · split
        · exact staged_complete receives paid polls _ _
        · refine waits ?_
          split <;> rfl

/-- A run goes through the stages.  Before the first run nothing is queued. -/
theorem staged_run {exchange : Exchange} (attended : exchange.plan.mode.Attended)
    (fresh : exchange.phase = .fresh → exchange.ticks = []) (self now : Nat) :
    Staged exchange.ticks (exchange.run self now).effects := by
  rw [run_eq]
  cases phase : exchange.phase with
  | ended =>
    simp only [poll?, pass, phase, Option.elim_none]
    exact .goesOn .nil handsOver_nil
  | fresh =>
    rw [fresh phase, poll?_of_fresh phase]
    split
    · dsimp only [Option.elim_some]
      refine Poll.staged_turn ?_ ?_ self now
      · exact receives_call exchange
      · rfl
    · rw [Option.elim_none, pass_of_fresh phase]
      split
      · exact .goesOn .began (List.forall_mem_singleton.2 rfl)
      · exact staged_complete .began rfl handsOver_nil _ _
  | waiting transport deadline =>
    have receives := receives_deliverTicks fullAllowance exchange.ticks
      { exchange with woken := false }
    have all := @receipt?_deliverTicks fullAllowance exchange.ticks
      { exchange with woken := false } attended
    rw [poll?_of_waiting phase, pass_of_waiting phase]
    generalize deliverTicks fullAllowance exchange.ticks { exchange with woken := false } =
      delivery at *
    have told := Receives.began.append receives
    dsimp only
    split
    · dsimp only [Option.elim_none]
      split
      · exact .goesOn told handsOver_nil
      · exact .goesOn told (List.forall_mem_singleton.2 rfl)
    · rename_i goesOn
      rw [not_or] at goesOn
      dsimp only [Option.elim_some]
      exact Poll.staged_turn told (all goesOn.1 (eq_false_of_ne_true goesOn.2)) self now

end

end Exchange
end HttpExchange
