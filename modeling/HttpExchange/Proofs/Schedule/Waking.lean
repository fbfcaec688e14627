import HttpExchange.Proofs.Schedule.Own
import HttpExchange.Proofs.Schedule.Rest

/-!
# Waking an exchange sooner or later

It makes no difference whether an exchange is woken before or after late progress is reported to it
(`callBack_runJob`).
-/

namespace HttpExchange
namespace View

open Effect

/-! ### The queue -/

/-- An exchange is queued once if it was woken, and not at all if not. -/
def Queued (number : Nat) (view : View) (exchange : Exchange) : Prop :=
  view.jobs.count (.exchange number) = exchange.woken.toNat

section

variable {number : Nat} {view : View} {record : Record}

/-- What is done to an exchange leaves it queued, if it does not put it to sleep. -/
theorem Queued.stir {change : Exchange → Exchange} (queued : view.Queued number record.exchange)
    (found : view.record = some record)
    (keeps : record.exchange.woken = true → (change record.exchange).woken = true) :
    (view.stir number change).Queued number (change record.exchange) := by
  rw [Queued, stir_jobs found]
  rw [Queued] at queued
  cases woken : record.exchange.woken with
  | true =>
    rw [woken] at queued
    simp [keeps woken, queued]
  | false =>
    rw [woken] at queued
    cases (change record.exchange).woken <;> simp [queued]

end

theorem woken_wake {exchange : Exchange} (woken : exchange.woken = true) :
    exchange.wake.woken = true := by
  rw [Exchange.wake]
  split
  · exact woken
  · rfl

theorem woken_interrupt {exchange : Exchange} (woken : exchange.woken = true) :
    exchange.interrupt.1.woken = true := by
  rw [Exchange.interrupt]
  split
  · exact woken_wake woken
  · exact woken

theorem woken_reportLate {exchange : Exchange} (progress : Progress)
    (woken : exchange.woken = true) : (exchange.report progress).release.woken = true :=
  Exchange.woken_release (Exchange.woken_report woken progress)

theorem count_lateJobs (number : Nat) (ticks : List (Nat × Progress)) :
    (lateJobs number ticks).count (.exchange number) = 0 := by
  rw [List.count_eq_zero]
  simp [lateJobs]

theorem Reachable.queued {number : Nat} {view : View} (reached : view.Reachable number)
    {record : Record} (found : view.record = some record) :
    view.Queued number record.exchange := by
  refine reached.acts_induction
    (motive := fun view record => view.Queued number record.exchange) ?_ ?_ found
  · intro view plan tidy absent
    simp [Queued, (tidy absent).1, Exchange.start]
  · intro before left after right _ found _ acts queued
    cases acts with
    | interrupt => exact queued.stir found woken_interrupt
    | callBack => exact queued.stir found woken_wake
    | @run jobs moments queue told =>
      rw [Queued, queue, List.count_cons_self] at queued
      have none : jobs.count (.exchange number) = 0 := by
        have := Bool.toNat_le left.exchange.woken
        omega
      rw [Queued, ran]
      dsimp only
      cases woken : (left.exchange.run number before.now).exchange.woken <;>
        simp [carryOut, none, count_lateJobs]
    | postpone queue =>
      rw [Queued, queue, List.count_cons_of_ne (by simp)] at queued
      exact queued
    | @reportLate progress delay jobs queue =>
      rw [Queued, queue, List.count_cons_of_ne (by simp)] at queued
      let noted := { before with jobs := jobs }.note (.event (.reported progress))
      have told : noted.record =
          some ⟨left.exchange, left.history ++ [(before.now, .event (.reported progress))]⟩ := by
        simp [noted, note, found]
      have still : noted.Queued number left.exchange := queued
      exact @Queued.stir number noted ⟨left.exchange, left.history ++ _⟩
        (fun exchange => (exchange.report progress).release) still told
        (woken_reportLate progress)
    | elapse => exact queued
    | @ring front back timers =>
      have still : Queued number { before with timers := front ++ back } left.exchange := queued
      exact still.stir found woken_wake
    | fall timers first =>
      rw [Queued, List.count_append, List.count_singleton]
      simpa [Queued] using queued

/-! ### Waking -/

/-- Two changes of an exchange, none of which puts it to sleep, are as good as one. -/
theorem stir_stir (number : Nat) (view : View) {first second : Exchange → Exchange}
    (keeps : ∀ exchange, exchange.woken = true → (first exchange).woken = true)
    (still : ∀ exchange, exchange.woken = true → (second exchange).woken = true) :
    (view.stir number first).stir number second =
      view.stir number fun exchange => second (first exchange) := by
  cases found : view.record with
  | none => simp only [stir_none found]
  | some record =>
    have once := keeps record.exchange
    have twice := still (first record.exchange)
    cases woken : record.exchange.woken <;> cases next : (first record.exchange).woken <;>
      cases last : (second (first record.exchange)).woken <;>
        simp_all [stir]

theorem wake_of_woken {exchange : Exchange} (woken : exchange.woken = true) :
    exchange.wake = exchange := by
  rw [Exchange.wake]
  split
  · rfl
  · rw [← woken]

theorem wake_of_over {exchange : Exchange} (closed : exchange.isOver = true) :
    exchange.wake = exchange := by
  rw [Exchange.wake, if_pos closed]

/-- It makes no difference to wake an exchange that was woken or is over. -/
theorem stir_wake_of_idle {number : Nat} {view : View} {record : Record}
    (found : view.record = some record) (same : record.exchange.wake = record.exchange) :
    view.stir number Exchange.wake = view := by
  simp only [stir, found, same]
  cases view
  cases record
  simp_all

theorem alert_woken {exchange : Exchange} (present : exchange.isOver = false) :
    { exchange with woken := true }.alert = { exchange.alert with woken := true } := by
  rw [Exchange.alert, Exchange.alert]
  dsimp only
  split
  · have going : { exchange with attention := .away }.isOver = false := present
    have still : { exchange with attention := .away, woken := true }.isOver = false := present
    rw [Exchange.wake_of_present going, Exchange.wake_of_present still]
  · rfl
  · rfl

/-- It makes no difference whether an exchange is woken before or after progress is reported. -/
theorem reportLate_wake (exchange : Exchange) (progress : Progress) :
    (exchange.wake.report progress).release = ((exchange.report progress).release).wake := by
  have kin := (exchange.kin_report progress).trans (Exchange.kin_release _)
  cases closed : exchange.isOver with
  | true =>
    rw [wake_of_over closed, wake_of_over (kin.isOver.trans closed)]
  | false =>
    have going : { exchange with woken := true }.isOver = false := closed
    have queued : { exchange with ticks := exchange.ticks ++ [progress] }.isOver = false := closed
    have told : { exchange with woken := true }.report progress =
        { exchange.report progress with woken := true } := by
      rw [Exchange.report, Exchange.report, if_neg (by simp [going]), if_neg (by simp [closed])]
      exact alert_woken queued
    have fewer : { exchange.report progress with
        sinks := (exchange.report progress).sinks - 1 }.isOver = false :=
      (exchange.kin_report progress).isOver.trans closed
    rw [Exchange.wake_of_present closed, Exchange.wake_of_present (kin.isOver.trans closed), told,
      Exchange.release, Exchange.release]
    dsimp only
    split
    · exact alert_woken fewer
    · rfl

@[simp] theorem callBack_aside (number : Nat) (view : View) :
    (view.callBack number).aside = false := by
  rw [callBack]
  split
  · rfl
  · simp_all

theorem callBack_of_stayed {number : Nat} {view : View} (stayed : view.aside = false) :
    view.callBack number = view := by
  rw [callBack, if_neg (by simp [stayed])]

@[simp] theorem callBack_callBack (number : Nat) (view : View) :
    (view.callBack number).callBack number = view.callBack number :=
  callBack_of_stayed (callBack_aside number view)

theorem withAside_eq {view : View} {aside : Bool} (same : view.aside = aside) :
    { view with aside := aside } = view := by
  rw [← same]

theorem callBack_of_same {number : Nat} {view : View} {record : Record}
    (found : view.record = some record) (same : record.exchange.wake = record.exchange) :
    view.callBack number = { view with aside := false } := by
  rw [callBack, stir_wake_of_idle found same]
  split
  · rfl
  · rename_i stayed
    exact (withAside_eq (Bool.eq_false_iff.2 stayed)).symm

theorem Reachable.callBack {number : Nat} {view : View} (reached : view.Reachable number) :
    (view.callBack number).Reachable number := by
  rw [View.callBack]
  split
  · exact Steps.reachable reached (.single (.callBack view))
  · exact reached

/-! ### What giving way does not change -/

theorem stir_withAside (number : Nat) (view : View) (aside : Bool)
    (change : Exchange → Exchange) :
    { view with aside := aside }.stir number change =
      { view.stir number change with aside := aside } := by
  cases found : view.record <;> simp [stir, found]

theorem ran_withAside (number : Nat) (view : View) (aside : Bool) (turn : Exchange.Turn)
    (moments : List Moment) :
    { view with aside := aside }.ran number turn moments =
      { view.ran number turn moments with aside := aside || givesWay turn.effects } := by
  unfold ran
  dsimp only
  split <;> rfl

theorem ran_aside (number : Nat) (view : View) (turn : Exchange.Turn) (moments : List Moment) :
    (view.ran number turn moments).aside = (view.aside || givesWay turn.effects) := by
  unfold ran
  dsimp only
  split <;> rfl

theorem foldl_goOff_aside (number : Nat) (timers : List Timer) (view : View) :
    (timers.foldl (goOff number) view).aside = view.aside := by
  induction timers generalizing view with
  | nil => rfl
  | cons timer timers ih =>
    rw [List.foldl_cons, ih, goOff]
    split
    · exact (stir_rest number view _).2.2.2
    · rfl

/-! ### Late progress -/

theorem note_stir (number : Nat) (view : View) (change : Exchange → Exchange) (moment : Moment) :
    (view.stir number change).note moment = (view.note moment).stir number change := by
  cases found : view.record <;> simp [stir, note, found]

theorem reportLate_stir_wake (number : Nat) (view : View) (progress : Progress) :
    (view.stir number Exchange.wake).reportLate number progress =
      (view.reportLate number progress).stir number Exchange.wake := by
  have late := fun exchange => @woken_reportLate exchange progress
  have same : (fun exchange => (Exchange.wake exchange |>.report progress).release) =
      fun exchange => ((exchange.report progress).release).wake :=
    funext fun exchange => reportLate_wake exchange progress
  rw [reportLate, reportLate, note_stir, stir_stir number _ (fun _ => woken_wake) late,
    stir_stir number _ late fun _ => woken_wake, same]

/-- It makes no difference whether an exchange is woken before or after late progress runs. -/
theorem runJob_stir_wake {job : Job} (late : job.isLate = true) (number : Nat) (view : View) :
    (view.stir number Exchange.wake).runJob number job =
      (view.runJob number job).stir number Exchange.wake := by
  cases job with
  | exchange other => cases late
  | lateTick other progress delay =>
    cases delay with
    | none => exact reportLate_stir_wake number view progress
    | some delay =>
      simp only [runJob]
      split
      · exact reportLate_stir_wake number view progress
      · cases found : view.record <;> simp [stir, found]

theorem reportLate_aside (number : Nat) (view : View) (progress : Progress) :
    (view.reportLate number progress).aside = view.aside := by
  rw [reportLate, (stir_rest number _ _).2.2.2]
  rfl

theorem runJob_aside {job : Job} (late : job.isLate = true) (number : Nat) (view : View) :
    (view.runJob number job).aside = view.aside := by
  cases job with
  | exchange other => cases late
  | lateTick other progress delay =>
    cases delay with
    | none => exact reportLate_aside number view progress
    | some delay =>
      simp only [runJob]
      split
      · exact reportLate_aside number view progress
      · rfl

theorem runJob_withAside {job : Job} (late : job.isLate = true) (number : Nat) (view : View)
    (aside : Bool) :
    { view with aside := aside }.runJob number job =
      { view.runJob number job with aside := aside } := by
  have reported (progress : Progress) : { view with aside := aside }.reportLate number progress =
      { view.reportLate number progress with aside := aside } := by
    cases found : view.record <;> simp [reportLate, stir, note, found]
  cases job with
  | exchange other => cases late
  | lateTick other progress delay =>
    cases delay with
    | none => exact reported progress
    | some delay =>
      simp only [runJob]
      split
      · exact reported progress
      · rfl

/-- It makes no difference whether what gave way is woken before or after late progress runs. -/
theorem callBack_runJob {job : Job} (late : job.isLate = true) (number : Nat) (view : View) :
    (view.callBack number).runJob number job = (view.runJob number job).callBack number := by
  rw [callBack, callBack, runJob_aside late]
  split
  · rw [runJob_withAside late, runJob_stir_wake late]
  · rfl

/-! ### Jobs in the queue -/

/-- A view with one more job, ahead of all others. -/
def behind (view : View) (job : Job) : View :=
  { view with jobs := job :: view.jobs }

theorem behind_eq {view : View} {job : Job} {jobs : List Job} (queue : view.jobs = job :: jobs) :
    { view with jobs := jobs }.behind job = view := by
  rw [behind, ← queue]

theorem stir_behind (view : View) (job : Job) (number : Nat) (change : Exchange → Exchange) :
    (view.behind job).stir number change = (view.stir number change).behind job := by
  simp only [stir, behind]
  split
  · rfl
  · split <;> rfl

theorem callBack_behind (view : View) (job : Job) (number : Nat) :
    (view.behind job).callBack number = (view.callBack number).behind job := by
  rw [callBack, callBack, stir_behind]
  cases aside : view.aside <;> simp [behind, aside]

theorem shown_behind (view : View) (job : Job) :
    (view.behind job).shown = view.shown.behind job := rfl

theorem behind_inj {left right : View} {job : Job} (same : left.behind job = right.behind job) :
    left = right := by
  cases left
  cases right
  simpa [behind] using same

theorem woken_of_queued {number : Nat} {view : View} {record : Record}
    (queued : (view.behind (.exchange number)).Queued number record.exchange) :
    record.exchange.woken = true := by
  rw [Queued, behind, List.count_cons_self] at queued
  cases woken : record.exchange.woken with
  | true => rfl
  | false => simp [woken] at queued

end View
end HttpExchange
