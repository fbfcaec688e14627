import HttpExchange.Exchange.Scenario
import HttpExchange.Proofs.Exchange.Cost

/-!
# Every schedule settles

A step makes `Schedule.work` less (`work_step?_lt`), so nothing is left to happen before the limit
once a schedule has settled (`step?_settle`).
-/

namespace HttpExchange
namespace Schedule

theorem work_note (schedule : Schedule) (number : Nat) (moment : Moment) :
    (schedule.note number moment).work = schedule.work := by
  unfold note work
  dsimp only
  rw [Total.total_modify_of_eq]
  intro record
  rfl

theorem work_update (schedule : Schedule) (number : Nat) (change : Exchange → Exchange)
    {record : Record} (found : schedule.records[number]? = some record) :
    (schedule.update number change).work + record.exchange.work =
      schedule.work + (change record.exchange).work := by
  have := Total.total_modify (fun record : Record => record.exchange.work)
    (fun record => { record with exchange := change record.exchange }) schedule.records number found
  simp only [update, work]
  dsimp only at this ⊢
  omega

theorem work_enqueue (schedule : Schedule) (job : Job) :
    (schedule.enqueue job).work = schedule.work + job.work := by
  simp only [enqueue, work]
  simp
  omega

/-- A change that adds at most `more` to what an exchange can ask for adds at most that and one more
step, if the exchange is woken. -/
theorem work_stir_le (schedule : Schedule) (number : Nat) (change : Exchange → Exchange)
    (more : Nat) (le : ∀ exchange, (change exchange).work ≤ exchange.work + more) :
    (schedule.stir number change).work ≤ schedule.work + more + 1 := by
  rw [stir]
  split
  · omega
  · rename_i record found
    have updated := work_update schedule number change found
    have := le record.exchange
    have := work_enqueue (schedule.update number change) (.exchange number)
    dsimp only
    split
    · simp only [Job.work] at this
      omega
    · omega

theorem work_wake_le (schedule : Schedule) (number : Nat) :
    (schedule.wake number).work ≤ schedule.work + 1 :=
  work_stir_le schedule number Exchange.wake 0 fun exchange => Nat.le_of_eq exchange.work_wake

theorem work_interrupt_le (schedule : Schedule) (number : Nat) (success : Bool) :
    (schedule.interrupt number success).work ≤ schedule.work + 1 := by
  rw [interrupt]
  rw [work_note]
  exact work_stir_le schedule number _ 0 fun exchange => Nat.le_of_eq exchange.work_interrupt

theorem work_putAside_le (schedule : Schedule) (number : Nat) :
    (schedule.putAside number).work ≤ schedule.work + 2 := by
  rw [putAside]
  split
  · omega
  · simp only [work, List.length_cons]
    omega

theorem work_wakeAll_le (numbers : List Nat) (schedule : Schedule) :
    (numbers.foldl wake schedule).work ≤ schedule.work + numbers.length := by
  induction numbers generalizing schedule with
  | nil => exact Nat.le_refl _
  | cons number numbers ih =>
    have := ih (schedule.wake number)
    have := work_wake_le schedule number
    rw [List.foldl_cons, List.length_cons]
    omega

/-- Waking what gave way uses work up. -/
theorem work_callBack_le (schedule : Schedule) :
    schedule.callBack.work + schedule.aside.length ≤ schedule.work := by
  have woken := work_wakeAll_le schedule.aside { schedule with aside := [] }
  rw [callBack]
  simp only [work, List.length_nil] at woken ⊢
  omega

theorem work_setTimer (schedule : Schedule) (instant : Nat) (job : Job) :
    (schedule.setTimer instant job).work = schedule.work + (job.work + 1) := by
  simp only [setTimer, work]
  simp [Timer.work]
  omega

theorem work_abort_le (schedule : Schedule) (number : Nat) :
    (schedule.abort number).1.work ≤ schedule.work + 1 := by
  rw [abort]
  split
  · dsimp only
    omega
  · split
    · exact work_interrupt_le schedule number _
    · dsimp only
      omega

theorem work_carryOut_le (number : Nat) (schedule : Schedule) (effect : Effect) :
    (carryOut number schedule effect).work ≤ schedule.work + effect.work := by
  cases effect with
  | moment moment => exact Nat.le_of_eq (work_note schedule number moment)
  | timer instant => exact Nat.le_of_eq (work_setTimer schedule instant _)
  | giveWay => exact work_putAside_le schedule number
  | lateTick delay progress => exact Nat.le_of_eq (work_enqueue schedule _)
  | abort request =>
    have := work_abort_le schedule request
    have := work_note (schedule.abort request).1 number
      (.event (.aborting (schedule.abort request).2))
    simp only [carryOut, Effect.work]
    omega

theorem work_carryOutAll_le (number : Nat) (effects : List Effect) (schedule : Schedule) :
    (effects.foldl (carryOut number) schedule).work ≤
      schedule.work + total Effect.work effects := by
  induction effects generalizing schedule with
  | nil => simp
  | cons effect effects ih =>
    have := ih (carryOut number schedule effect)
    have := work_carryOut_le number schedule effect
    rw [List.foldl_cons, Total.total_cons]
    omega

theorem work_runExchange_le (schedule : Schedule) (number : Nat) :
    (schedule.runExchange number).work ≤ schedule.work := by
  rw [runExchange]
  split
  · exact Nat.le_refl _
  · rename_i record found
    have ran := record.exchange.cost_run number schedule.now
    have updated := work_update schedule number
      (fun _ => (record.exchange.run number schedule.now).exchange) found
    have done := work_carryOutAll_le number (record.exchange.run number schedule.now).effects
      (schedule.update number fun _ => (record.exchange.run number schedule.now).exchange)
    dsimp only
    generalize record.exchange.run number schedule.now = turn at *
    generalize List.foldl (carryOut number) (schedule.update number fun _ => turn.exchange)
      turn.effects = after at *
    have queued := work_enqueue after (.exchange number)
    simp only [Exchange.Turn.work, Exchange.cost, Exchange.wakefulness, Job.work] at ran queued
    split <;> rename_i woken <;> simp only [woken, Bool.false_eq_true, ↓reduceIte] at ran <;> omega

theorem work_reportLate_le (schedule : Schedule) (number : Nat) (progress : Progress) :
    (schedule.reportLate number progress).work ≤ schedule.work + 6 := by
  have noted := work_note schedule number (.event (.reported progress))
  have stirred := work_stir_le (schedule.note number (.event (.reported progress))) number
    (fun exchange => (exchange.report progress).release) unitWork fun exchange =>
      (exchange.report progress).work_release ▸ exchange.work_report_le progress
  rw [noted] at stirred
  exact stirred

theorem work_runJob_lt (schedule : Schedule) (job : Job) :
    (schedule.runJob job).work < schedule.work + job.work := by
  simp only [runJob]
  split
  · rename_i number
    have := work_runExchange_le schedule number
    simp only [Job.work]
    omega
  · rename_i number progress
    have := work_reportLate_le schedule number progress
    simp only [Job.work]
    omega
  · rename_i number progress delay
    have := work_reportLate_le schedule number progress
    split
    · simp only [Job.work]
      omega
    · rw [work_setTimer]
      simp only [Job.work]
      omega

theorem work_goOff_lt (schedule : Schedule) (timer : Timer) :
    (schedule.goOff timer).work < schedule.work + timer.work := by
  rw [goOff, Timer.work]
  split
  · rename_i number job
    rw [job]
    exact Nat.lt_succ_of_le (work_wake_le schedule number)
  · exact Nat.lt_succ_of_le (Nat.le_of_eq (work_enqueue schedule timer.job))

/-- Every timer that goes off uses work up. -/
theorem work_goOffAll_le (timers : List Timer) (schedule : Schedule) :
    (timers.foldl goOff schedule).work + timers.length ≤
      schedule.work + total Timer.work timers := by
  induction timers generalizing schedule with
  | nil => exact Nat.le_refl _
  | cons timer timers ih =>
    have := ih (schedule.goOff timer)
    have := work_goOff_lt schedule timer
    rw [List.foldl_cons, List.length_cons, Total.total_cons]
    omega

theorem work_advance_lt (schedule : Schedule) {instant : Nat}
    (next : schedule.nextInstant? = some instant) :
    (schedule.advance instant).work < schedule.work := by
  have due : (schedule.timers.filter fun timer => timer.instant == instant) ≠ [] := by
    have := List.min?_mem next
    obtain ⟨timer, present, same⟩ := List.mem_map.1 this
    intro none
    have := List.filter_eq_nil_iff.1 none timer present
    simp [same] at this
  have some_due := List.length_pos_iff.2 due
  have parts := Total.total_filter_add_total_filter_not Timer.work
    (fun timer => timer.instant == instant) schedule.timers
  have gone := work_goOffAll_le (schedule.timers.filter fun timer => timer.instant == instant)
    { schedule with
      now := instant
      timers := schedule.timers.filter fun timer => timer.instant != instant
      runs := 0 }
  rw [advance]
  simp only [work, bne] at parts gone ⊢
  omega

theorem work_rest_le (schedule : Schedule) : schedule.rest.work ≤ schedule.work := by
  rw [rest]
  split
  · exact Nat.le_refl _
  · change schedule.callBack.work ≤ schedule.work
    exact Nat.le_of_add_right_le schedule.work_callBack_le

/-- Every step uses work up. -/
theorem work_step?_lt {limit : Nat} {schedule next : Schedule}
    (happens : schedule.step? limit = some next) : next.work < schedule.work := by
  rw [step?] at happens
  split at happens
  · rename_i job jobs queue
    obtain rfl := Option.some.inj happens
    have rested := work_rest_le { schedule with queue := jobs }
    generalize { schedule with queue := jobs }.rest = rest at rested ⊢
    have ran := work_runJob_lt { rest with runs := rest.runs + 1 } job
    have same : { rest with runs := rest.runs + 1 }.work = rest.work := rfl
    have popped : schedule.work = { schedule with queue := jobs }.work + job.work := by
      simp only [work, queue, Total.total_cons]
      omega
    omega
  · split at happens
    · split at happens
      · rename_i instant next
        split at happens
        · obtain rfl := Option.some.inj happens
          exact schedule.work_advance_lt next
        · simp at happens
      · simp at happens
    · rename_i someAside
      obtain rfl := Option.some.inj happens
      have woken := schedule.work_callBack_le
      have : schedule.aside.length ≠ 0 := by
        simpa [List.length_eq_zero_iff] using someAside
      change schedule.callBack.work < schedule.work
      omega

theorem step?_steps (limit fuel : Nat) (schedule : Schedule) (enough : schedule.work ≤ fuel) :
    (steps limit fuel schedule).step? limit = none := by
  induction fuel generalizing schedule with
  | zero =>
    rw [steps]
    cases happens : schedule.step? limit with
    | none => rfl
    | some next => have := work_step?_lt happens; omega
  | succ fuel ih =>
    rw [steps]
    cases happens : schedule.step? limit with
    | none => exact happens
    | some next =>
      have := work_step?_lt happens
      exact ih next (by omega)

/-- A settled schedule has nothing left to happen before the limit. -/
theorem step?_settle (schedule : Schedule) (limit : Nat) :
    (schedule.settle limit).step? limit = none :=
  step?_steps limit schedule.work schedule (Nat.le_refl _)

end Schedule
end HttpExchange
