import HttpExchange.Proofs.Exchange.Awaiting
import HttpExchange.Proofs.Schedule.Moves
import HttpExchange.Proofs.Transport

/-!
# An exchange that sleeps

While an exchange is dormant none of its timers goes off (`Leads.sleeps`).
-/

namespace HttpExchange
namespace View

open Effect

/-- A timer that wakes the exchange does so now, or when something that it awaits is there. -/
def Accounted (view : View) (exchange : Exchange) : Prop :=
  ∀ instant ∈ view.rings, instant = view.now ∨ exchange.Awaits instant

theorem Accounted.kin {before after : View} {left right : Exchange}
    (accounted : before.Accounted left) (kin : Exchange.Kin left right)
    (now : after.now = before.now) (rings : ∀ instant ∈ after.rings, instant ∈ before.rings) :
    after.Accounted right := by
  intro instant member
  rw [now, kin.awaits]
  exact accounted instant (rings instant member)

/-- An exchange that is not over is woken by timers for nothing else. -/
theorem Reachable.accounted {number : Nat} {view : View} (reached : view.Reachable number)
    {record : Record} (found : view.record = some record)
    (present : record.exchange.isOver = false) : view.Accounted record.exchange := by
  refine reached.acts_induction (motive := fun view record => record.exchange.isOver = false →
    view.Accounted record.exchange) ?_ ?_ found present
  · intro view plan tidy absent _ instant member
    simp [rings, (tidy absent).2.2] at member
  · intro before left after right arrived _ _ acts ih present
    cases acts with
    | interrupt =>
      have kin := (Exchange.alike_interrupt left.exchange).kin
      obtain ⟨now, -, rings, -⟩ := stir_rest number before (·.interrupt.1)
      exact (ih (kin.isOver.symm.trans present)).kin kin now fun _ => (rings ▸ ·)
    | callBack =>
      have kin := (Exchange.alike_wake left.exchange).kin
      obtain ⟨now, -, rings, -⟩ := stir_rest number before Exchange.wake
      exact (ih (kin.isOver.symm.trans present)).kin kin now fun _ => (rings ▸ ·)
    | @run jobs moments queue told =>
      obtain ⟨now, -, rings, -⟩ := ran_rest number { before with jobs := jobs }
        (left.exchange.run number before.now) moments
      obtain ⟨sets, keeps⟩ := Exchange.awaits_run present
      intro instant member
      rw [now]
      rw [rings, List.mem_append] at member
      rcases member with set | new
      · rcases ih (Exchange.present_of_run present) instant set with here | awaited
        · exact .inl here
        · exact keeps instant awaited (le_of_mem_rings arrived.ahead instant set)
      · exact .inr (sets instant new)
    | postpone => exact (ih present).kin (.refl _) rfl (by simp [rings, Timer.ring?])
    | @reportLate progress delay jobs =>
      have kin := (left.exchange.kin_report progress).trans (Exchange.kin_release _)
      rw [reportLate]
      obtain ⟨now, -, rings, -⟩ := stir_rest number
        ({ before with jobs := jobs }.note (.event (.reported progress))) fun exchange =>
          (exchange.report progress).release
      exact (ih (kin.isOver.symm.trans present)).kin kin now fun _ => (rings ▸ ·)
    | @elapse limit jobs aside later silent =>
      intro instant member
      have ahead := le_of_mem_rings silent instant member
      rcases ih present instant member with rfl | awaited
      · exact .inl (Nat.le_antisymm later ahead)
      · exact .inr awaited
    | @ring front back timers =>
      have kin := (Exchange.alike_wake left.exchange).kin
      obtain ⟨now, -, rings, -⟩ := stir_rest number { before with timers := front ++ back }
        Exchange.wake
      refine (ih (kin.isOver.symm.trans present)).kin kin now fun instant member => ?_
      rw [rings] at member
      have fewer : (front ++ back).Sublist before.timers := by
        rw [timers]
        exact (List.sublist_cons_self _ _).append_left front
      exact (fewer.filterMap Timer.ring?).mem member
    | fall timers =>
      exact (ih present).kin (.refl _) rfl (by simp [rings, Timer.ring?, timers])

/-! ### Sleeping -/

/-- The exchange last ran by `since` and will not run before `limit`. -/
structure Sleeps (since limit : Nat) (view : View) (record : Record) : Prop where
  dormant : record.exchange.Dormant limit
  /-- It has not run after `since`. -/
  still : ∀ instant, (instant, .began) ∈ record.history → instant ≤ since
  /-- After `since` nothing of it can run, and no timer goes off before `limit`. -/
  quiet : since < view.now → view.Quiet limit

section

variable {number since limit : Nat} {before after : View} {left right : Record}

/-- When nothing can run, the timers of a dormant exchange are for later. -/
theorem quiet_of_dormant {instant : Nat} (reached : before.Reachable number)
    (found : before.record = some left) (dormant : left.exchange.Dormant limit)
    (quiet : before.Quiet instant) (later : before.now < instant) : before.Quiet limit := by
  have watched := reached.watched found dormant.present
  have counted := watched.steady.attends.count
  rw [dormant.sinks] at counted
  have unlate : before.late = 0 := by omega
  refine ⟨quiet.jobs, quiet.stayed, fun timer member => ?_⟩
  have wakes : timer.job.isLate = false := by
    have none := (Nat.add_eq_zero_iff.1 unlate).2
    rw [List.countP_eq_zero] at none
    simpa using none timer member
  have ring : timer.instant ∈ before.rings :=
    List.mem_filterMap.2 ⟨timer, member, by rw [Timer.ring?, wakes]; rfl⟩
  rcases reached.accounted found dormant.present _ ring with here | awaited
  · exact absurd (Nat.lt_of_lt_of_le later (quiet.silent timer member)) (here ▸ Nat.lt_irrefl _)
  · exact dormant.ahead _ awaited

theorem Sleeps.quiet_of_quiet {instant : Nat} (sleeps : Sleeps since limit before left)
    (reached : before.Reachable number) (found : before.record = some left)
    (quiet : before.Quiet instant) (later : since < instant) : before.Quiet limit := by
  by_cases past : since < before.now
  · exact sleeps.quiet past
  · exact quiet_of_dormant reached found sleeps.dormant quiet
      (Nat.lt_of_le_of_lt (Nat.not_lt.1 past) later)

/-- While an exchange has a job or gave way, the clock stands. -/
theorem Sleeps.now_le (sleeps : Sleeps since limit before left)
    (busy : before.jobs ≠ [] ∨ before.aside = true) : before.now ≤ since := by
  by_contra past
  have quiet := sleeps.quiet (Nat.not_le.1 past)
  rcases busy with queued | gave
  · exact queued quiet.jobs
  · cases quiet.stayed.symm.trans gave

/-! ### Interruptions -/

theorem steps_interrupt (number : Nat) (view : View) :
    Steps number view (view.interrupt number) := by
  cases found : view.record with
  | none =>
    rw [interrupt_of_absent found]
    exact .refl
  | some record =>
    have step := @Step.interrupt number view record found
    simp only [interrupt, found]
    exact .single step

theorem Interrupts.steps (interrupts : Interrupts number before after) :
    Steps number before after := by
  obtain ⟨times, rfl⟩ := interrupts
  induction times with
  | zero => exact .refl
  | succ times ih =>
    rw [Function.iterate_succ_apply']
    exact ih.trans (steps_interrupt number _)

/-- An interruption of a request that is not over and was not interrupted succeeds.  So a request
that is not interrupted afterwards was left alone. -/
theorem Interrupts.eq_of_calm (interrupts : Interrupts number before after)
    (reached : before.Reachable number) (found : before.record = some left)
    (present : left.exchange.isOver = false) (there : after.record = some right)
    (calm : .interrupted true ∉ right.moments) : after = before := by
  obtain ⟨times, rfl⟩ := interrupts
  cases times with
  | zero => rfl
  | succ times =>
    have first := @interrupt_record number _ _ found left.exchange.interrupt.2
    have interrupted : before.interrupt number =
        (before.stir number (·.interrupt.1)).note (.interrupted left.exchange.interrupt.2) := by
      simp only [interrupt, found]
    rw [← interrupted] at first
    rw [Function.iterate_succ_apply] at there
    obtain ⟨last, more, same, -, history⟩ :=
      (Interrupts.steps ⟨times, rfl⟩ : Steps number (before.interrupt number) _).history first
    cases same.symm.trans there
    have uncalled := Record.not_mem_of_extend history calm
    obtain ⟨ledger, accounts⟩ := Ledger.exists_accounts reached found
    have unstopped : .interrupted true ∉ left.moments :=
      @Record.not_mem_of_extend left _ _ _ rfl uncalled
    have free : left.exchange.interrupted = false :=
      Bool.eq_false_iff.2 fun stopped => unstopped (accounts.interrupted_iff.1 stopped)
    have pending := accounts.fits.pending.2 (accounts.pending_of_calm present free)
    rw [left.exchange.interrupt_answer, pending] at uncalled
    exact absurd (by simp [Record.moments]) uncalled

/-! ### Moves -/

theorem record_callBack (found : before.record = some left) :
    ∃ exchange, (before.callBack number).record = some ⟨exchange, left.history⟩ ∧
      Exchange.Alike left.exchange exchange := by
  rw [callBack]
  split
  · refine ⟨left.exchange.wake, ?_, Exchange.alike_wake _⟩
    rw [stir_record, found]
    rfl
  · exact ⟨left.exchange, found, .refl _⟩

theorem record_foldl_goOff (found : before.record = some left) (timers : List Timer) :
    ∃ exchange, (timers.foldl (goOff number) before).record = some ⟨exchange, left.history⟩ ∧
      Exchange.Alike left.exchange exchange := by
  induction timers generalizing before left with
  | nil => exact ⟨left.exchange, found, .refl _⟩
  | cons timer timers ih =>
    rw [List.foldl_cons, goOff]
    split
    · have woken : (before.stir number Exchange.wake).record =
          some ⟨left.exchange.wake, left.history⟩ := by
        rw [stir_record, found]
        rfl
      obtain ⟨exchange, there, alike⟩ := ih woken
      exact ⟨exchange, there, (Exchange.alike_wake _).trans alike⟩
    · exact @ih { before with jobs := before.jobs ++ [timer.job] } left found

theorem advance_now (number : Nat) (view : View) (instant : Nat) :
    (view.advance number instant).now = instant := by
  rw [View.advance]
  refine List.foldlRecOn (motive := fun view : View => view.now = instant) _ _ rfl ?_
  intro view same timer _
  rw [goOff]
  split
  · rw [stir_now]
    exact same
  · exact same

theorem Steps.now_le (steps : Steps number before after) : before.now ≤ after.now := by
  induction steps with
  | refl => exact Nat.le_refl _
  | tail _ step ih => exact ih.trans step.now_le

theorem Sleeps.alike (sleeps : Sleeps since limit before left) {exchange : Exchange}
    (alike : Exchange.Alike left.exchange exchange)
    (quiet : since < after.now → after.Quiet limit) :
    Sleeps since limit after ⟨exchange, left.history⟩ :=
  ⟨alike.dormant sleeps.dormant, sleeps.still, quiet⟩

theorem Sleeps.callBack (sleeps : Sleeps since limit before left)
    (found : before.record = some left) (there : (before.callBack number).record = some right) :
    Sleeps since limit (before.callBack number) right := by
  obtain ⟨exchange, same, alike⟩ := @record_callBack number _ _ found
  cases same.symm.trans there
  refine sleeps.alike alike ?_
  rw [View.callBack]
  split
  · rename_i gave
    dsimp only
    rw [stir_now]
    exact fun past => absurd (sleeps.now_le (.inr gave)) (Nat.not_le.2 past)
  · exact sleeps.quiet

/-- A run of a dormant exchange is one in the instant in which it became dormant. -/
theorem Sleeps.ran {jobs : List Job} {moments : List Moment}
    (sleeps : Sleeps since limit before left) (found : before.record = some left)
    (queue : before.jobs = .exchange number :: jobs)
    (arrived : ({ before with jobs := jobs }.ran number (left.exchange.run number before.now)
      moments).Reachable number) (early : before.now < limit)
    (there : ({ before with jobs := jobs }.ran number (left.exchange.run number before.now)
      moments).record = some right) (calm : .interrupted true ∉ right.moments) :
    Sleeps since limit ({ before with jobs := jobs }.ran number
      (left.exchange.run number before.now) moments) right := by
  have now := sleeps.now_le (.inl (queue ▸ List.cons_ne_nil _ _))
  obtain ⟨ledger, accounts⟩ := Ledger.exists_accounts arrived there
  have same := ran_record number { before with jobs := jobs } found
    (left.exchange.run number before.now) moments
  cases same.symm.trans there
  refine ⟨?_, ?_, ?_⟩
  · exact (Exchange.dormant_run sleeps.dormant early number).resolve_left
      fun stopped => calm (accounts.interrupted_iff.1 stopped)
  · intro instant member
    rcases List.mem_append.1 member with old | new
    · exact sleeps.still instant old
    · obtain ⟨moment, -, same⟩ := List.mem_map.1 new
      cases same
      exact now
  · rw [ran_now]
    exact fun past => absurd now (Nat.not_le.2 past)

theorem Sleeps.advance {instant : Nat} (sleeps : Sleeps since limit before left)
    (reached : before.Reachable number) (found : before.record = some left)
    (quiet : before.Quiet instant) (early : instant < limit)
    (there : (before.advance number instant).record = some right) :
    Sleeps since limit (before.advance number instant) right := by
  by_cases later : since < instant
  · have still := sleeps.quiet_of_quiet reached found quiet later
    have none : ∀ timer ∈ before.timers, timer.instant ≠ instant := by
      rintro timer member rfl
      exact Nat.not_le.2 early (still.silent timer member)
    rw [advance_of_silent none] at there ⊢
    cases found.symm.trans there
    exact sleeps.alike (.refl _) fun _ => ⟨still.jobs, still.stayed, still.silent⟩
  · obtain ⟨exchange, same, alike⟩ := @record_foldl_goOff number { before with
      now := instant
      timers := before.timers.filter fun timer => timer.instant != instant } left found
        (before.timers.filter fun timer => timer.instant == instant)
    cases same.symm.trans there
    refine sleeps.alike alike ?_
    rw [advance_now]
    exact fun past => absurd past later

/-- A dormant exchange that is not interrupted sleeps on. -/
theorem Move.sleeps (move : Move number before after) (reached : before.Reachable number)
    (arrived : after.Reachable number) (sleeps : Sleeps since limit before left)
    (found : before.record = some left) (there : after.record = some right)
    (early : after.now < limit) (calm : .interrupted true ∉ right.moments) :
    Sleeps since limit after right := by
  have present := sleeps.dormant.present
  cases move with
  | start plan absent => cases absent.symm.trans found
  | interrupts interrupts =>
    obtain rfl := interrupts.eq_of_calm reached found present there calm
    cases found.symm.trans there
    exact sleeps
  | callBack => exact sleeps.callBack found there
  | run known queue told =>
    cases known.symm.trans found
    rw [ran_now] at early
    exact sleeps.ran found queue arrived early there calm
  | @late job jobs queue late =>
    -- A late tick would hold a sink.
    have counted := (reached.watched found present).steady.attends.count
    rw [sleeps.dormant.sinks, View.late, queue, List.countP_cons, late, if_pos rfl] at counted
    omega
  | @advance instant quiet later =>
    rw [advance_now] at early
    exact sleeps.advance reached found quiet early there
  | elapse quiet later =>
    cases found.symm.trans there
    refine sleeps.alike (.refl _) fun past => ?_
    have still := sleeps.quiet_of_quiet reached found quiet past
    exact ⟨still.jobs, still.stayed, still.silent⟩

/-! ### Deadlines -/

/-- An exchange that goes on waiting does so until the same instant. -/
theorem Change.deadline {now : Nat} (change : Change number now (some left) (some right))
    {transport : Transport} {deadline : Option Deadline}
    (waiting : left.exchange.phase = .waiting transport deadline)
    (present : right.exchange.isOver = false) :
    ∃ next last, right.exchange.phase = .waiting next last ∧
      last.map Deadline.instant = deadline.map Deadline.instant := by
  have kept {exchange : Exchange} (kin : Exchange.Kin left.exchange exchange) :
      ∃ next last, exchange.phase = .waiting next last ∧
        last.map Deadline.instant = deadline.map Deadline.instant :=
    ⟨transport, deadline, kin.phase.trans waiting, rfl⟩
  cases change with
  | none => exact kept (.refl _)
  | wake => exact kept (Exchange.alike_wake _).kin
  | interrupt => exact kept (Exchange.alike_interrupt _).kin
  | report _ progress =>
    exact kept ((left.exchange.kin_report progress).trans (Exchange.kin_release _))
  | run _ told =>
    obtain ⟨next, last, phase, renews⟩ := Exchange.exists_renews_run present
    exact ⟨next, last, phase, renews.deadline transport deadline waiting⟩

/-- What is over stays so. -/
theorem Change.present {now : Nat} (change : Change number now (some left) (some right))
    (present : right.exchange.isOver = false) : left.exchange.isOver = false := by
  cases change with
  | none => exact present
  | wake => exact (Exchange.alike_wake _).kin.isOver.symm.trans present
  | interrupt => exact (Exchange.alike_interrupt _).kin.isOver.symm.trans present
  | report _ progress =>
    exact ((left.exchange.kin_report progress).trans
      (Exchange.kin_release _)).isOver.symm.trans present
  | run _ told => exact Exchange.present_of_run present

theorem Steps.deadline (steps : Steps number before after) (found : before.record = some left)
    {transport : Transport} {deadline : Option Deadline}
    (waiting : left.exchange.phase = .waiting transport deadline)
    (there : after.record = some right) (present : right.exchange.isOver = false) :
    ∃ next last, right.exchange.phase = .waiting next last ∧
      last.map Deadline.instant = deadline.map Deadline.instant := by
  induction steps generalizing right with
  | refl =>
    cases found.symm.trans there
    exact ⟨transport, deadline, waiting, rfl⟩
  | tail steps step ih =>
    obtain ⟨middle, -, known, -⟩ := Steps.history steps found
    have change := step.change
    rw [known, there] at change
    obtain ⟨next, last, phase, same⟩ := ih known (change.present present)
    obtain ⟨final, due, still, kept⟩ := change.deadline phase present
    exact ⟨final, due, still, kept.trans same⟩

end

end View

namespace Schedule

/-- A dormant exchange runs no longer, until what it waits for is there or it is interrupted. -/
theorem Leads.sleeps {before after : Schedule} {number since limit : Nat} {record later : Record}
    (leads : before.Leads after) (reached : before.Reachable)
    (found : before.records[number]? = some record)
    (sleeps : View.Sleeps since limit (before.view number) record)
    (there : after.records[number]? = some later) (early : after.now < limit)
    (calm : .interrupted true ∉ later.moments) :
    View.Sleeps since limit (after.view number) later := by
  induction leads generalizing later with
  | refl =>
    cases found.symm.trans there
    exact sleeps
  | @tail between last leads move ih =>
    have arrived := reached.leads leads
    obtain ⟨middle, -, present, -⟩ := (Leads.views leads reached.view number).history found
    have steps := Leads.views (.single move) arrived.view number
    obtain ⟨final, more, same, -, history⟩ := steps.history present
    cases same.symm.trans there
    exact (move_view move arrived number).sleeps (arrived.view number)
      ((arrived.leads (.single move)).view number)
      (ih present (Nat.lt_of_le_of_lt (View.Steps.now_le steps) early)
        (Record.not_mem_of_extend history calm))
      present there early calm

end Schedule
end HttpExchange
