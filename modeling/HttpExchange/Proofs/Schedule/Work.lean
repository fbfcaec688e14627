import HttpExchange.Proofs.Completion
import HttpExchange.Proofs.Schedule.Moves
import HttpExchange.Proofs.Transport

/-!
# The runs that are left

Every run uses up work of the view, and whatever else happens adds none (`Move.spends`).
-/

namespace HttpExchange

open Effect

/-- The number of runs of an exchange. -/
def Record.runs (record : Record) : Nat :=
  record.history.countP fun entry => entry.2.isBegan

/-- What an exchange can still ask for, and that it can be interrupted. -/
def Exchange.potential (exchange : Exchange) : Nat :=
  exchange.work + exchange.pending.toNat

namespace Exchange

theorem wake_pending (exchange : Exchange) : exchange.wake.pending = exchange.pending := by
  rw [wake]
  split <;> rfl

theorem alert_pending (exchange : Exchange) : exchange.alert.pending = exchange.pending := by
  rw [alert]
  split
  · exact wake_pending _
  · rfl
  · rfl

theorem report_pending (exchange : Exchange) (progress : Progress) :
    (exchange.report progress).pending = exchange.pending := by
  rw [report]
  split
  · rfl
  · exact alert_pending _

theorem release_pending (exchange : Exchange) : exchange.release.pending = exchange.pending := by
  rw [release]
  dsimp only
  split
  · exact alert_pending _
  · rfl

theorem potential_wake (exchange : Exchange) : exchange.wake.potential = exchange.potential := by
  rw [potential, potential, work_wake, wake_pending]

/-- An interruption that wakes an exchange is the last one that does. -/
theorem potential_interrupt_le (exchange : Exchange) :
    exchange.interrupt.1.potential + (exchange.interrupt.1.woken && !exchange.woken).toNat ≤
      exchange.potential := by
  have woken := Bool.toNat_le (exchange.interrupt.1.woken && !exchange.woken)
  rw [potential, potential, work_interrupt]
  cases pending : exchange.pending with
  | false =>
    have still : exchange.interrupt.1 = exchange := by simp [interrupt, pending]
    simp [still, pending]
  | true =>
    have decided : exchange.interrupt.1.pending = false := by
      rw [interrupt, if_pos pending, wake_pending]
    rw [decided, Bool.toNat_false, Bool.toNat_true]
    omega

/-- A tick that is reported is worth a unit of the allowance. -/
theorem potential_report_release_le (exchange : Exchange) (progress : Progress) :
    (exchange.report progress).release.potential ≤ exchange.potential + unitWork := by
  have reported := exchange.work_report_le progress
  rw [potential, potential, work_release, release_pending, report_pending]
  omega

end Exchange

namespace View

/-- The number of runs of the exchange. -/
def runs (view : View) : Nat :=
  view.record.elim 0 Record.runs

/-- A bound on the runs of the exchange that are left. -/
def work (view : View) : Nat :=
  view.record.elim 0 (fun record => record.exchange.potential) + total Job.work view.jobs +
    2 * view.aside.toNat + total Timer.work view.timers

/-- The runs that happen are paid for with work. -/
def Spends (before after : View) : Prop :=
  after.runs + after.work ≤ before.runs + before.work

theorem Spends.refl (view : View) : Spends view view :=
  Nat.le_refl _

theorem Spends.trans {first second third : View} (front : Spends first second)
    (back : Spends second third) : Spends first third :=
  Nat.le_trans back front

section

variable {number : Nat} {view : View} {record : Record}

/-! ### What is done to an exchange -/

theorem runs_stir (change : Exchange → Exchange) :
    (view.stir number change).runs = view.runs := by
  cases found : view.record <;> simp [runs, stir, found, Record.runs]

theorem work_note (moment : Moment) : (view.note moment).work = view.work := by
  cases found : view.record <;> simp [work, note, found]

theorem runs_note {moment : Moment} (begun : moment.isBegan = false) :
    (view.note moment).runs = view.runs := by
  cases found : view.record <;> simp [runs, note, found, Record.runs, begun]

/-- A change of an exchange changes the work as it changes what the exchange can lead to, and by a
run if it wakes the exchange. -/
theorem work_stir (found : view.record = some record) (change : Exchange → Exchange) :
    (view.stir number change).work + record.exchange.potential =
      view.work + (change record.exchange).potential +
        ((change record.exchange).woken && !record.exchange.woken).toNat := by
  simp only [work, stir, found, Option.elim_some]
  cases (change record.exchange).woken && !record.exchange.woken with
  | false => simp; omega
  | true =>
    simp only [if_true, Total.total_append, Total.total_cons, Total.total_nil, Job.work,
      Bool.toNat_true]
    omega

theorem work_stir_wake_le (number : Nat) (view : View) :
    (view.stir number Exchange.wake).work ≤ view.work + 1 := by
  cases found : view.record with
  | none =>
    rw [stir_none found]
    exact Nat.le_succ _
  | some record =>
    have changed := @work_stir number _ _ found Exchange.wake
    have same := record.exchange.potential_wake
    have woken := Bool.toNat_le (record.exchange.wake.woken && !record.exchange.woken)
    omega

theorem spends_interrupt (number : Nat) (view : View) : Spends view (view.interrupt number) := by
  cases found : view.record with
  | none =>
    rw [interrupt]
    simp only [found]
    exact .refl view
  | some record =>
    have changed := @work_stir number _ _ found (·.interrupt.1)
    have paid := record.exchange.potential_interrupt_le
    simp only [Spends, interrupt, found]
    rw [runs_note rfl, work_note, runs_stir]
    omega

theorem spends_interrupts {before after : View} (interrupts : Interrupts number before after) :
    Spends before after := by
  obtain ⟨times, rfl⟩ := interrupts
  induction times with
  | zero => exact .refl before
  | succ times ih =>
    rw [Function.iterate_succ_apply']
    exact ih.trans (spends_interrupt number _)

theorem spends_callBack (number : Nat) (view : View) : Spends view (view.callBack number) := by
  rw [callBack]
  split
  · rename_i gave
    have woken := work_stir_wake_le number view
    have still : (view.stir number Exchange.wake).aside = true :=
      (stir_rest number view _).2.2.2.trans gave
    have paid : { view.stir number Exchange.wake with aside := false }.work + 2 =
        (view.stir number Exchange.wake).work := by
      simp only [work, still, Bool.toNat_false, Bool.toNat_true]
      omega
    have same : { view.stir number Exchange.wake with aside := false }.runs = view.runs :=
      runs_stir Exchange.wake
    rw [Spends]
    omega
  · exact .refl view

/-! ### Runs -/

/-- What an exchange asks for has its weight. -/
theorem work_asked_le (effects : List Effect) :
    9 * (lateTicks effects).length + 2 * (instants effects).length +
      2 * (givesWay effects).toNat ≤ total Effect.work effects := by
  induction effects with
  | nil => exact Nat.le_refl _
  | cons effect effects ih =>
    have late := lateTicks_append [effect] effects
    have timed := instants_append [effect] effects
    have gives := givesWay_append [effect] effects
    rw [List.singleton_append] at late timed gives
    rw [late, timed, gives, Total.total_cons, List.length_append, List.length_append]
    cases effect with
    | giveWay =>
      have least := Bool.toNat_le (givesWay [.giveWay] || givesWay effects)
      simp only [lateTicks, instants, Effect.work] at ih ⊢
      simp only [List.filterMap_cons, List.filterMap_nil, List.length_nil] at ih ⊢
      omega
    | moment | timer | lateTick | abort =>
      simp only [lateTicks, instants, Effect.work] at ih ⊢
      simp [givesWay] at ih ⊢
      omega

/-- A run begins once. -/
theorem countP_isBegan_le {exchange : Exchange} {now : Nat} {moments : List Moment}
    (told : Told (exchange.run number now).effects moments) :
    moments.countP Moment.isBegan ≤ 1 := by
  cases closed : exchange.isOver with
  | true =>
    rw [Exchange.run_of_over closed] at told
    cases told
    exact Nat.zero_le _
  | false =>
    obtain ⟨inside, effects, all, -⟩ := Exchange.inside_run closed number now
    rw [effects] at told
    obtain ⟨rest, rfl, later⟩ := told.of_cons
    have unbegun : ∀ moment ∈ rest, moment.isBegan = false := by
      refine later.forall ?_ fun _ => rfl
      rw [moments_append, List.forall_mem_append]
      constructor
      · split
        · exact List.forall_mem_singleton.2 rfl
        · exact List.forall_mem_nil _
      · intro moment member
        have closed := all.opens_eq_false moment member
        cases moment <;> first | rfl | cases closed
    rw [List.countP_cons,
      List.countP_eq_zero.2 fun moment member => by simp [unbegun moment member]]
    split <;> omega

/-- The work after a run: what the exchange can still lead to, what it asked for, and that it runs
again if it was woken. -/
theorem work_ran (found : view.record = some record) (turn : Exchange.Turn)
    (moments : List Moment) : (view.ran number turn moments).work + record.exchange.potential +
      2 * view.aside.toNat = view.work + turn.exchange.potential +
        9 * (lateTicks turn.effects).length + 2 * (instants turn.effects).length +
          2 * (view.aside || givesWay turn.effects).toNat + turn.exchange.woken.toNat := by
  have late : total Job.work (lateJobs number (lateTicks turn.effects)) =
      9 * (lateTicks turn.effects).length := by
    rw [lateJobs]
    exact Total.total_map_of_eq Job.work _ (by intro tick; rfl) _
  have alarms : total Timer.work (View.alarms number (instants turn.effects)) =
      2 * (instants turn.effects).length := by
    rw [View.alarms]
    exact Total.total_map_of_eq Timer.work _ (by intro instant; rfl) _
  cases woken : turn.exchange.woken <;>
    simp only [work, ran, carryOut, woken, found, Option.map_some, Option.elim_some,
      Total.total_append, Total.total_cons, Total.total_nil, Job.work, late, alarms,
      Bool.false_eq_true, if_true, if_false, Bool.toNat_false, Bool.toNat_true] <;> omega

/-- A run does not make an exchange pending. -/
theorem pending_run_le (reached : view.Reachable number) (found : view.record = some record)
    {jobs : List Job} (queue : view.jobs = .exchange number :: jobs) {moments : List Moment}
    (told : Told (record.exchange.run number view.now).effects moments) :
    (record.exchange.run number view.now).exchange.pending.toNat ≤
      record.exchange.pending.toNat := by
  have step : Step number view _ := .run found queue told
  have there := ran_record number { view with jobs := jobs } found
    (record.exchange.run number view.now) moments
  obtain ⟨ledger, accounts⟩ := Ledger.exists_accounts reached found
  obtain ⟨last, accounted⟩ := Ledger.exists_accounts (Steps.reachable reached (.single step)) there
  have still := accounts.pending_of_extend accounted rfl
  cases pending : (record.exchange.run number view.now).exchange.pending with
  | false => exact Nat.zero_le _
  | true =>
    rw [still pending]

theorem spends_run (reached : view.Reachable number) (found : view.record = some record)
    {jobs : List Job} (queue : view.jobs = .exchange number :: jobs) {moments : List Moment}
    (told : Told (record.exchange.run number view.now).effects moments) :
    Spends view
      ({ view with jobs := jobs }.ran number (record.exchange.run number view.now) moments) := by
  have cost := record.exchange.cost_run number view.now
  have asked := work_asked_le (record.exchange.run number view.now).effects
  have began := countP_isBegan_le told
  have pending := pending_run_le reached found queue told
  have worked := @work_ran number { view with jobs := jobs } record found
    (record.exchange.run number view.now) moments
  have popped : view.work = { view with jobs := jobs }.work + 1 := by
    simp only [work, queue, Total.total_cons, Job.work]
    omega
  have there := ran_record number { view with jobs := jobs } found
    (record.exchange.run number view.now) moments
  generalize record.exchange.run number view.now = turn at *
  have runs : ({ view with jobs := jobs }.ran number turn moments).runs =
      view.runs + moments.countP Moment.isBegan := by
    rw [View.runs, there, View.runs, found]
    simp only [Option.elim_some, Record.runs, List.countP_append, List.countP_map]
    rfl
  have gave : (view.aside || givesWay turn.effects).toNat ≤
      view.aside.toNat + (givesWay turn.effects).toNat := by
    cases view.aside <;> simp
  simp only [Exchange.Turn.work, Exchange.cost, Exchange.wakefulness] at cost
  simp only [Exchange.potential] at worked
  rw [Spends]
  cases woken : turn.exchange.woken <;>
    simp only [woken, Bool.false_eq_true, if_true, if_false, Bool.toNat_false,
      Bool.toNat_true] at cost worked <;> omega

/-! ### Late ticks and timers -/

theorem work_reportLate_le (number : Nat) (view : View) (progress : Progress) :
    (view.reportLate number progress).work ≤ view.work + 6 := by
  have noted := view.work_note (.event (.reported progress))
  rw [reportLate]
  cases found : (view.note (.event (.reported progress))).record with
  | none =>
    rw [stir_none found]
    omega
  | some record =>
    have changed := @work_stir number _ _ found fun exchange =>
      (exchange.report progress).release
    have reported := record.exchange.potential_report_release_le progress
    have woken := Bool.toNat_le
      ((record.exchange.report progress).release.woken && !record.exchange.woken)
    rw [unitWork] at reported
    omega

theorem spends_late {job : Job} {jobs : List Job} (queue : view.jobs = job :: jobs)
    (late : job.isLate = true) : Spends view ({ view with jobs := jobs }.runJob number job) := by
  have popped : view.work = { view with jobs := jobs }.work + job.work := by
    simp only [work, queue, Total.total_cons]
    omega
  have reported (progress : Progress) :
      ({ view with jobs := jobs }.reportLate number progress).runs = view.runs ∧
        ({ view with jobs := jobs }.reportLate number progress).work ≤
          { view with jobs := jobs }.work + 6 := by
    refine ⟨?_, work_reportLate_le number _ progress⟩
    rw [reportLate, runs_stir, runs_note rfl]
    rfl
  cases job with
  | exchange other => cases late
  | lateTick other progress delay =>
    obtain ⟨same, le⟩ := reported progress
    cases delay with
    | none =>
      rw [Job.work] at popped
      simp only [Spends, runJob]
      omega
    | some delay =>
      rw [Job.work] at popped
      simp only [Spends, runJob]
      split
      · omega
      · simp only [work, runs, Total.total_append, Total.total_cons, Total.total_nil, Timer.work,
          Job.work] at popped ⊢
        omega

theorem spends_goOff (number : Nat) (view : View) (timer : Timer) :
    (view.goOff number timer).runs = view.runs ∧
      (view.goOff number timer).work ≤ view.work + timer.work := by
  rw [goOff, Timer.work]
  split
  · rename_i other job
    rw [job]
    exact ⟨runs_stir _, Nat.le_succ_of_le (work_stir_wake_le number view)⟩
  · refine ⟨rfl, ?_⟩
    simp only [work, Total.total_append, Total.total_cons, Total.total_nil]
    omega

theorem spends_foldl_goOff (number : Nat) (timers : List Timer) (view : View) :
    (timers.foldl (goOff number) view).runs = view.runs ∧
      (timers.foldl (goOff number) view).work ≤ view.work + total Timer.work timers := by
  induction timers generalizing view with
  | nil => exact ⟨rfl, Nat.le_refl _⟩
  | cons timer timers ih =>
    obtain ⟨same, le⟩ := spends_goOff number view timer
    obtain ⟨still, less⟩ := ih (view.goOff number timer)
    rw [List.foldl_cons, Total.total_cons]
    exact ⟨still.trans same, by omega⟩

theorem spends_advance (number : Nat) (view : View) (instant : Nat) :
    Spends view (view.advance number instant) := by
  have parts := Total.total_filter_add_total_filter_not Timer.work
    (fun timer => timer.instant == instant) view.timers
  obtain ⟨same, le⟩ := spends_foldl_goOff number
    (view.timers.filter fun timer => timer.instant == instant)
    { view with
      now := instant
      timers := view.timers.filter fun timer => timer.instant != instant }
  rw [Spends, advance]
  simp only [work, runs, bne] at parts same le ⊢
  omega

/-! ### Moves -/

/-- Whatever happens to an exchange that was started, its runs are paid for. -/
theorem Move.spends {before after : View} (move : Move number before after)
    (reached : before.Reachable number) (started : before.record ≠ none) :
    Spends before after := by
  cases move with
  | start plan absent => exact absurd absent started
  | interrupts interrupts => exact spends_interrupts interrupts
  | callBack => exact spends_callBack number before
  | run found queue told => exact spends_run reached found queue told
  | late queue late => exact spends_late queue late
  | advance => exact spends_advance number before _
  | elapse => exact .refl before

/-- What an exchange can come to when it is started. -/
theorem work_start_le {view : View} (plan : Plan) (tidy : view.Tidy) (absent : view.record = none) :
    View.work { view with
      record := some ⟨.start plan, []⟩
      jobs := view.jobs ++ [.exchange number] } ≤ stepWork * (plan.script.length + 1) := by
  obtain ⟨jobs, aside, timers⟩ := tidy absent
  have attention : (Exchange.start plan).attention.work ≤ unitWork := by
    simp only [Exchange.start]
    split <;> simp [Attention.work]
  have fresh : (Exchange.start plan).work =
      stepWork * plan.script.length + 2 + (Exchange.start plan).attention.work := rfl
  have pending : (Exchange.start plan).pending = true := rfl
  rw [unitWork] at attention
  simp only [work, jobs, aside, timers, Option.elim_some, Exchange.potential, fresh, pending,
    List.nil_append, Total.total_cons, Total.total_nil, Job.work, Bool.toNat_true,
    Bool.toNat_false, Nat.mul_add]
  simp only [stepWork]
  omega

end

end View

namespace Schedule

variable {number : Nat} {before after : Schedule} {record : Record}

/-- Whatever happens, the runs of an exchange that was started are paid for. -/
theorem Leads.spends (leads : before.Leads after) (reached : before.Reachable)
    (found : before.records[number]? = some record) :
    View.Spends (before.view number) (after.view number) := by
  induction leads with
  | refl => exact .refl _
  | tail leads move ih =>
    obtain ⟨later, -, present, -⟩ := (Leads.views leads reached.view number).history found
    have arrived := reached.leads leads
    refine ih.trans ((move_view move arrived number).spends (arrived.view number) ?_)
    rw [present]
    exact Option.some_ne_none later

/-- The script of an exchange bounds the runs it had and the work that is left. -/
theorem Reachable.runs_add_work_le {schedule : Schedule} (reached : schedule.Reachable)
    (found : schedule.records[number]? = some record) :
    record.runs + (schedule.view number).work ≤
      stepWork * (record.exchange.plan.script.length + 1) := by
  induction reached generalizing record with
  | refl => cases found
  | @tail earlier last leads move ih =>
    have arrived : earlier.Reachable := leads
    have moved := move_view move arrived number
    have runs : (last.view number).runs = record.runs :=
      congrArg (fun record => Option.elim record 0 Record.runs) found
    cases previous : earlier.records[number]? with
    | some first =>
      have spends := Leads.spends (.single move) arrived previous
      obtain ⟨later, -, present, plan, -⟩ :=
        (Leads.views (.single move) arrived.view number).history previous
      cases present.symm.trans found
      have before : (earlier.view number).runs = first.runs :=
        congrArg (fun record => Option.elim record 0 Record.runs) previous
      rw [View.Spends, runs, before] at spends
      rw [plan]
      exact spends.trans (ih previous)
    | none =>
      have tidy := (arrived.view number).tidy
      have there : (last.view number).record = some record := found
      rcases moved.of_absent tidy previous with absent | ⟨plan, started⟩
      · cases absent.symm.trans there
      · rw [started] at there ⊢
        cases there
        exact (Nat.zero_add _).trans_le (View.work_start_le plan tidy previous)

end Schedule
end HttpExchange
