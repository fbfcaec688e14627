import HttpExchange.Proofs.Exchange.Course
import HttpExchange.Proofs.Exchange.Poll
import HttpExchange.Proofs.Exchange.Sinkless

/-!
# Runs of an upload

However the script of an upload is cut into runs, they report its progress in order
(`uploads_run_of_fresh`, `uploads_run_of_waiting`).
-/

namespace HttpExchange

/-- A script reports progress in order and waits now and then, for `delay` in all, before it returns
a result. -/
inductive Carries : Except String RawResponse → List Progress → Nat → List Step → Prop where
  | responds (response : RawResponse) : Carries (.ok response) [] 0 [.respond response]
  | fails (message : String) : Carries (.error message) [] 0 [.fail message]
  | tick (progress : Progress) {result : Except String RawResponse} {ticks : List Progress}
      {delay : Nat} {script : List Step} (rest : Carries result ticks delay script) :
      Carries result (progress :: ticks) delay (.tick progress :: script)
  | sleep (duration : Nat) {result : Except String RawResponse} {ticks : List Progress}
      {delay : Nat} {script : List Step} (rest : Carries result ticks delay script) :
      Carries result ticks (duration + delay) (.sleep duration :: script)
  | yield {result : Except String RawResponse} {ticks : List Progress} {delay : Nat}
      {script : List Step} (rest : Carries result ticks delay script) :
      Carries result ticks delay (.yield :: script)

/-- What a script returns that carries a result, and when. -/
theorem Carries.course? {result : Except String RawResponse} {ticks : List Progress} {delay : Nat}
    {script : List Step} (carries : Carries result ticks delay script) :
    ∃ yields, Course.of? script = some ⟨delay, yields, result⟩ := by
  induction carries with
  | responds | fails => exact ⟨false, rfl⟩
  | tick progress rest ih => exact ih
  | sleep duration rest ih =>
    obtain ⟨yields, course⟩ := ih
    exact ⟨yields, by simp [Course.of?, course, Course.delayed]⟩
  | yield rest ih =>
    obtain ⟨yields, course⟩ := ih
    exact ⟨_, by rw [Course.of?, course]; rfl⟩

/-- A transport got as far as `stop`, and `ticks` are still to be reported. -/
def Stop.Carries (result : Except String RawResponse) (ticks : List Progress) : Stop → Prop
  | .returns returned => returned = result ∧ ticks = []
  | .waits script _ sink => sink = true ∧ ∃ delay, HttpExchange.Carries result ticks delay script

namespace Effect

/-- Effects of a part of a run in which `ticks` are reported, and which is not the end. -/
structure Reports (ticks : List Progress) (effects : List Effect) : Prop where
  reports : (moments effects).filterMap Moment.report? = ticks
  lateTicks : lateTicks effects = []
  unended : ∀ moment ∈ moments effects, moment.isEnd = false

namespace Reports

variable {ticks first last : List Progress} {effects front back : List Effect}

theorem nil : Reports [] [] := ⟨rfl, rfl, nofun⟩

theorem append (left : Reports first front) (right : Reports last back) :
    Reports (first ++ last) (front ++ back) := by
  constructor
  · rw [moments_append, List.filterMap_append, left.reports, right.reports]
  · rw [lateTicks_append, left.lateTicks, right.lateTicks, List.append_nil]
  · rw [moments_append]
    exact List.forall_mem_append.2 ⟨left.unended, right.unended⟩

theorem of_silent (silent : Silent effects)
    (unended : ∀ moment ∈ moments effects, moment.isEnd = false) : Reports [] effects :=
  ⟨List.filterMap_eq_nil_iff.2 silent.report?_eq_none, silent.lateTicks_eq_nil, unended⟩

theorem moment {moment : Moment} (unreported : moment.report? = none)
    (unended : moment.isEnd = false) : Reports [] [.moment moment] :=
  of_silent (.cons unreported .nil) (List.forall_mem_singleton.2 unended)

theorem reported (progress : Progress) :
    Reports [progress] [.moment (.event (.reported progress))] :=
  ⟨rfl, rfl, List.forall_mem_singleton.2 rfl⟩

theorem giveWay : Reports [] [.giveWay] := ⟨rfl, rfl, nofun⟩

theorem timer (instant : Nat) : Reports [] [.timer instant] := ⟨rfl, rfl, nofun⟩

end Reports
end Effect

namespace Exchange

open Effect

/-! ### Delivering -/

theorem reports_insist (exchange : Exchange) (times : Nat) :
    Reports [] (exchange.insist times).effects := by
  induction times generalizing exchange with
  | zero => exact .nil
  | succ times ih => exact .append (.moment rfl rfl) (ih _)

theorem reports_deliver (exchange : Exchange) (outcome : Outcome) :
    Reports [] (exchange.deliver outcome).effects := by
  rw [deliver]
  split
  · exact .nil
  · exact .nil
  · exact .append (.moment rfl rfl) (reports_insist _ _)

theorem reports_deliverTicks (allowance : Nat) (ticks : List Progress) (exchange : Exchange) :
    Reports [] (deliverTicks allowance ticks exchange).effects := by
  fun_induction deliverTicks allowance ticks exchange with
  | case1 | case2 | case3 => exact .nil
  | case4 allowance tick ticks exchange calm first ih => exact (reports_deliver _ _).append ih

/-! ### Polling -/

/-- To play the script of an upload is to report a first part of the progress that is ahead. -/
theorem carries_play {result : Except String RawResponse} {ticks : List Progress} {delay : Nat}
    {script : List Step} (carries : Carries result ticks delay script)
    (self now allowance : Nat) (exchange : Exchange) :
    ∃ front back, ticks = front ++ back ∧
      Reports front (play self now allowance script true exchange).effects ∧
      (play self now allowance script true exchange).stop.Carries result back := by
  induction carries generalizing allowance exchange with
  | responds | fails => exact ⟨[], [], rfl, .nil, rfl, rfl⟩
  | tick progress rest ih =>
    obtain ⟨front, back, rfl, reports, carries⟩ := ih allowance (exchange.report progress)
    exact ⟨progress :: front, back, rfl, (Reports.reported progress).append reports, carries⟩
  | @sleep duration _ ticks _ _ rest ih =>
    rw [play]
    split
    · exact ⟨[], ticks, rfl, .giveWay, rfl, _, .sleep duration rest⟩
    · split
      · exact ih _ _
      · exact ⟨[], ticks, rfl, .timer _, rfl, _, rest⟩
  | @yield _ ticks _ _ rest ih => exact ⟨[], ticks, rfl, .giveWay, rfl, _, rest⟩

theorem carries_poll {result : Except String RawResponse} {ticks : List Progress} {delay : Nat}
    {transport : Transport} (carries : Carries result ticks delay transport.script)
    (sink : transport.sink = true) (exchange : Exchange) (self now allowance : Nat) :
    ∃ front back, ticks = front ++ back ∧
      Reports front (exchange.poll self now allowance transport).effects ∧
      (exchange.poll self now allowance transport).stop.Carries result back := by
  unfold poll
  dsimp only
  split
  · rw [sink]
    exact carries_play carries self now allowance exchange
  · exact ⟨[], ticks, rfl, .nil, sink, _, carries⟩
  · split
    · exact ⟨[], ticks, rfl, .giveWay, sink, _, carries⟩
    · split
      · rw [sink]
        exact carries_play carries self now _ exchange
      · exact ⟨[], ticks, rfl, .nil, sink, _, carries⟩

/-! ### Runs -/

/-- What a run of an upload leads to: it reports `front`, before anything that may end the exchange,
and `back` is ahead of it. -/
structure Uploads (result : Except String RawResponse) (front back : List Progress) (turn : Turn) :
    Prop where
  told : ∃ own after, turn.effects = own ++ after ∧ Reports front own ∧ Mute after
  waiting : ∀ transport deadline, turn.exchange.phase = .waiting transport deadline →
    transport.sink = true ∧ ∃ delay, Carries result back delay transport.script
  /-- Nothing is ahead if the transport returned. -/
  ended : turn.exchange.phase = .ended → turn.exchange.status = statusOf result → back = []

section

variable {exchange : Exchange} {result : Except String RawResponse} {front back : List Progress}

theorem Uploads.after {turn : Turn} (uploads : Uploads result front back turn)
    {earlier : List Effect} {sooner : List Progress} (reports : Reports sooner earlier) :
    Uploads result (sooner ++ front) back (turn.after earlier) := by
  obtain ⟨⟨own, after, effects, own', mute⟩, waiting, ended⟩ := uploads
  refine ⟨⟨earlier ++ own, after, ?_, reports.append own', mute⟩, waiting, ended⟩
  rw [Turn.after, effects, List.append_assoc]

theorem statusOf_ne_dropped (result : Except String RawResponse) : statusOf result ≠ .dropped := by
  cases result <;> nofun

theorem statusOf_ne_idle (result : Except String RawResponse) : statusOf result ≠ .idle := by
  cases result <;> nofun

/-- An exchange that ends without the return of its transport. -/
theorem uploads_of_unreturned {turn : Turn} (silent : Silent turn.effects)
    (closed : turn.exchange.phase = .ended)
    (unreturned : turn.exchange.status ≠ statusOf result) : Uploads result [] back turn := by
  refine ⟨⟨[], _, rfl, .nil, .of_silent silent⟩, fun transport deadline waiting => ?_,
    fun _ same => absurd same unreturned⟩
  cases closed.symm.trans waiting

theorem uploads_await (exchange : Exchange) (now allowance : Nat) (deadline : Option Deadline)
    {transport : Transport} {delay : Nat} (sink : transport.sink = true)
    (carries : Carries result back delay transport.script) :
    Uploads result [] back (exchange.await now allowance transport deadline) := by
  have waits (deadline : Option Deadline) {effects : List Effect} (reports : Reports [] effects) :
      Uploads result [] back
        ⟨{ exchange with phase := .waiting transport deadline }, effects⟩ := by
    refine ⟨⟨effects, [], (List.append_nil _).symm, reports, .nil⟩, ?_, nofun⟩
    rintro _ _ ⟨⟩
    exact ⟨sink, delay, carries⟩
  simp only [await]
  split
  · exact waits _ .nil
  · split
    · exact waits _ .giveWay
    · split
      · refine uploads_of_unreturned (silent_complete _ _) (complete_phase _ _) ?_
        rw [(complete_kept _ _).2]
        exact (statusOf_ne_dropped result).symm
      · refine waits _ ?_
        split
        · exact .nil
        · exact .timer _

theorem uploads_proceed (exchange : Exchange) (now allowance since : Nat)
    (deadline : Option Deadline) {stop : Stop} (carries : stop.Carries result back) :
    Uploads result [] back (exchange.proceed now allowance since deadline stop) := by
  cases stop with
  | returns returned =>
    obtain ⟨-, drained⟩ := carries
    refine ⟨⟨[], _, rfl, .nil, .of_silent (silent_complete _ _)⟩, fun transport other waiting => ?_,
      fun _ _ => drained⟩
    cases (complete_phase _ _).symm.trans waiting
  | waits script wait sink =>
    obtain ⟨sink, delay, carries⟩ := carries
    exact uploads_await exchange now allowance deadline sink carries

theorem uploads_turn {poll : Poll} {ticks : List Progress} {delay : Nat}
    (told : Reports [] poll.told) (sink : poll.transport.sink = true)
    (carries : Carries result ticks delay poll.transport.script) (self now : Nat) :
    ∃ front back, ticks = front ++ back ∧ Uploads result front back (poll.turn self now) := by
  obtain ⟨front, back, split, reports, stop⟩ :=
    carries_poll carries sink poll.exchange self now poll.allowance
  have proceeds := uploads_proceed (poll.played self now).exchange now
    (poll.played self now).allowance poll.transport.since poll.deadline stop
  have uploads := proceeds.after (told.append reports)
  rw [List.nil_append, List.append_nil] at uploads
  exact ⟨front, back, split, uploads⟩

/-- The first run. -/
theorem uploads_run_of_fresh (fresh : exchange.phase = .fresh) (idle : exchange.status = .idle)
    (wanted : exchange.plan.wantsProgress = true) {ticks : List Progress} {delay : Nat}
    (carries : Carries result ticks delay exchange.plan.script) (self now : Nat) :
    ∃ front back, ticks = front ++ back ∧ Uploads result front back (exchange.run self now) := by
  rw [run_eq, poll?_of_fresh fresh]
  split
  · refine uploads_turn ?_ wanted carries self now
    exact .append (.moment rfl rfl) (.moment rfl rfl)
  · have began : Reports [] [.moment .began] := .moment rfl rfl
    refine ⟨[], ticks, rfl, ?_⟩
    rw [Option.elim_none, pass_of_fresh fresh]
    have unreturned : exchange.status ≠ statusOf result := by
      rw [idle]
      exact (statusOf_ne_idle result).symm
    have uploads : Uploads result [] ticks
        (if exchange.interrupted then { exchange with woken := false }.finish
        else { exchange with woken := false }.complete
          (.error (.transport "destination is empty"))) := by
      split
      · exact uploads_of_unreturned (silent_finish _) rfl unreturned
      · refine uploads_of_unreturned (silent_complete _ _) (complete_phase _ _) ?_
        rwa [(complete_kept _ _).2]
    exact uploads.after began

/-- Any other run. -/
theorem uploads_run_of_waiting {transport : Transport} {deadline : Option Deadline}
    (waiting : exchange.phase = .waiting transport deadline) (sink : transport.sink = true)
    {ticks : List Progress} {delay : Nat} (carries : Carries result ticks delay transport.script)
    (self now : Nat) :
    ∃ front back, ticks = front ++ back ∧ Uploads result front back (exchange.run self now) := by
  have alike := alike_deliverTicks fullAllowance exchange.ticks { exchange with woken := false }
  have reports := reports_deliverTicks fullAllowance exchange.ticks { exchange with woken := false }
  rw [run_eq, poll?_of_waiting waiting, pass_of_waiting waiting]
  generalize deliverTicks fullAllowance exchange.ticks { exchange with woken := false } =
    delivery at *
  have told : Reports [] (.moment .began :: delivery.effects) :=
    Reports.append (.moment rfl rfl) reports
  dsimp only
  split
  · refine ⟨[], ticks, rfl, ?_⟩
    have uploads : Uploads result [] ticks
        (if delivery.allowance = 0 then Turn.mk delivery.exchange [.giveWay]
        else { delivery.exchange with status := .dropped }.finish) := by
      split
      · refine ⟨⟨_, [], (List.append_nil _).symm, .giveWay, .nil⟩, fun other due there => ?_,
          fun closed => ?_⟩
        · cases (alike.phase.trans waiting).symm.trans there
          exact ⟨sink, delay, carries⟩
        · cases (alike.phase.trans waiting).symm.trans closed
      · exact uploads_of_unreturned (silent_finish _) rfl
          (statusOf_ne_dropped result).symm
    exact uploads.after told
  · exact uploads_turn told sink carries self now

end

end Exchange
end HttpExchange
