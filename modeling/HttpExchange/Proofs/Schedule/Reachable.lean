import HttpExchange.Proofs.Schedule.Settling
import Mathlib.Logic.Relation

/-!
# Reachable schedules

Every schedule that a scenario leads to or through is reachable by moves from the one in which
nothing was started.
-/

namespace HttpExchange
namespace Schedule

/-- One thing that can happen to a schedule. -/
inductive Move : Schedule → Schedule → Prop where
  /-- An exchange is started. -/
  | start (schedule : Schedule) (plan : Plan) : Move schedule (schedule.start plan)
  /-- A request is aborted from outside. -/
  | abort (schedule : Schedule) (number : Nat) : Move schedule (schedule.abort number).1
  /-- A fetch is cancelled. -/
  | cancel (schedule : Schedule) (number : Nat) : Move schedule (schedule.cancel number)
  /-- A new stretch of runs begins. -/
  | stretch (schedule : Schedule) : Move schedule { schedule with runs := 0 }
  /-- What gave way is woken. -/
  | callBack (schedule : Schedule) : Move schedule { schedule.callBack with runs := 0 }
  /-- The first job in the queue runs. -/
  | run {schedule : Schedule} {job : Job} {jobs : List Job} (queue : schedule.queue = job :: jobs) :
      Move schedule ({ schedule with queue := jobs, runs := schedule.runs + 1 }.runJob job)
  /-- Nothing can run, and the clock moves to the next timer. -/
  | advance {schedule : Schedule} {instant : Nat} (queue : schedule.queue = [])
      (aside : schedule.aside = []) (next : schedule.nextInstant? = some instant) :
      Move schedule (schedule.advance instant)
  /-- Nothing can run, and the clock moves to an instant before which no timer goes off. -/
  | elapse {schedule : Schedule} {limit : Nat} (queue : schedule.queue = [])
      (aside : schedule.aside = []) (later : schedule.now ≤ limit)
      (silent : ∀ timer ∈ schedule.timers, limit ≤ timer.instant) :
      Move schedule { schedule with now := limit }

/-- One schedule comes from another by moves. -/
def Leads : Schedule → Schedule → Prop :=
  Relation.ReflTransGen Move

/-- A schedule that comes about from nothing. -/
def Reachable (schedule : Schedule) : Prop :=
  initial.Leads schedule

theorem Reachable.leads {before after : Schedule} (reached : before.Reachable)
    (leads : before.Leads after) : after.Reachable :=
  Relation.ReflTransGen.trans reached leads

/-! ### The clock -/

theorem now_stir (schedule : Schedule) (number : Nat) (change : Exchange → Exchange) :
    (schedule.stir number change).now = schedule.now := by
  rw [stir]
  split
  · rfl
  · dsimp only
    split <;> rfl

theorem now_foldl_wake (numbers : List Nat) (schedule : Schedule) :
    (numbers.foldl wake schedule).now = schedule.now := by
  induction numbers generalizing schedule with
  | nil => rfl
  | cons number numbers ih => exact (ih _).trans (now_stir schedule number _)

theorem now_interrupt (schedule : Schedule) (number : Nat) (success : Bool) :
    (schedule.interrupt number success).now = schedule.now :=
  now_stir schedule number _

theorem now_abort (schedule : Schedule) (number : Nat) :
    (schedule.abort number).1.now = schedule.now := by
  rw [abort]
  split
  · rfl
  · split
    · exact now_interrupt schedule number _
    · rfl

theorem now_carryOut (number : Nat) (schedule : Schedule) (effect : Effect) :
    (carryOut number schedule effect).now = schedule.now := by
  cases effect with
  | moment moment => rfl
  | timer instant => rfl
  | giveWay =>
    simp only [carryOut, putAside]
    split <;> rfl
  | lateTick delay progress => rfl
  | abort request => exact now_abort schedule request

theorem now_foldl_carryOut (number : Nat) (effects : List Effect) (schedule : Schedule) :
    (effects.foldl (carryOut number) schedule).now = schedule.now := by
  induction effects generalizing schedule with
  | nil => rfl
  | cons effect effects ih => exact (ih _).trans (now_carryOut number schedule effect)

theorem now_runJob (schedule : Schedule) (job : Job) :
    (schedule.runJob job).now = schedule.now := by
  simp only [runJob]
  split
  · rename_i number
    rw [runExchange]
    split
    · rfl
    · dsimp only
      split <;> exact now_foldl_carryOut _ _ _
  · exact now_stir _ _ _
  · split
    · exact now_stir _ _ _
    · rfl

theorem now_foldl_goOff (timers : List Timer) (schedule : Schedule) :
    (timers.foldl goOff schedule).now = schedule.now := by
  induction timers generalizing schedule with
  | nil => rfl
  | cons timer timers ih =>
    refine (ih _).trans ?_
    rw [goOff]
    split
    · exact now_stir _ _ _
    · rfl

theorem now_advance (schedule : Schedule) (instant : Nat) :
    (schedule.advance instant).now = instant :=
  now_foldl_goOff _ _

/-! ### Steps are moves -/

/-- A schedule with one more job, ahead of all others. -/
def behind (schedule : Schedule) (job : Job) : Schedule :=
  { schedule with queue := job :: schedule.queue }

theorem stir_behind (schedule : Schedule) (job : Job) (number : Nat)
    (change : Exchange → Exchange) :
    (schedule.behind job).stir number change = (schedule.stir number change).behind job := by
  simp only [stir, behind]
  split
  · rfl
  · split <;> rfl

theorem foldl_wake_behind (numbers : List Nat) (schedule : Schedule) (job : Job) :
    numbers.foldl wake (schedule.behind job) = (numbers.foldl wake schedule).behind job := by
  induction numbers generalizing schedule with
  | nil => rfl
  | cons number numbers ih =>
    have first : (schedule.behind job).wake number = (schedule.wake number).behind job :=
      stir_behind schedule job number _
    rw [List.foldl_cons, List.foldl_cons, first, ih]

/-- It makes no difference whether a job is taken from the queue before or after what gave way is
woken: that is queued behind it. -/
theorem callBack_behind (schedule : Schedule) (job : Job) :
    (schedule.behind job).callBack = schedule.callBack.behind job :=
  foldl_wake_behind schedule.aside { schedule with aside := [] } job

/-- One thing that happens of itself before `limit`. -/
inductive Beat (limit : Nat) : Schedule → Schedule → Prop where
  /-- What gave way is woken. -/
  | callBack (schedule : Schedule) : Beat limit schedule { schedule.callBack with runs := 0 }
  /-- The first job in the queue runs. -/
  | run {schedule : Schedule} {job : Job} {jobs : List Job} (queue : schedule.queue = job :: jobs) :
      Beat limit schedule ({ schedule with queue := jobs, runs := schedule.runs + 1 }.runJob job)
  /-- Nothing can run, and the clock moves to the next timer. -/
  | advance {schedule : Schedule} {instant : Nat} (queue : schedule.queue = [])
      (aside : schedule.aside = []) (next : schedule.nextInstant? = some instant)
      (soon : instant < limit) : Beat limit schedule (schedule.advance instant)

/-- Some things happen of themselves before `limit`, one after the other. -/
def Beats (limit : Nat) : Schedule → Schedule → Prop :=
  Relation.ReflTransGen (Beat limit)

theorem Beat.move {limit : Nat} {before after : Schedule} (beat : Beat limit before after) :
    Move before after := by
  cases beat with
  | callBack => exact .callBack before
  | run queue => exact .run queue
  | advance queue aside next => exact .advance queue aside next

theorem Beats.leads {limit : Nat} {before after : Schedule} (beats : Beats limit before after) :
    before.Leads after := by
  induction beats with
  | refl => exact .refl
  | tail _ beat ih => exact ih.tail beat.move

theorem beats_run (limit : Nat) {schedule : Schedule} {job : Job} {jobs : List Job}
    (queue : schedule.queue = job :: jobs) :
    Beats limit schedule ({ { schedule with queue := jobs }.rest with
      runs := { schedule with queue := jobs }.rest.runs + 1 }.runJob job) := by
  rw [rest]
  split
  · exact .single (.run queue)
  · have whole : schedule = { schedule with queue := jobs }.behind job := by
      rw [behind, ← queue]
    have woken := callBack_behind { schedule with queue := jobs } job
    rw [← whole] at woken
    refine .tail (.single (.callBack schedule)) ?_
    rw [woken]
    exact .run rfl

/-- A step of a schedule is one thing that happens of itself, or two. -/
theorem beats_step? {limit : Nat} {before after : Schedule}
    (step : before.step? limit = some after) : Beats limit before after := by
  rw [step?] at step
  split at step
  · rename_i job jobs queue
    obtain rfl := Option.some.inj step
    exact beats_run limit queue
  · rename_i queue
    split at step
    · rename_i aside
      split at step
      · rename_i instant next
        split at step
        · rename_i soon
          obtain rfl := Option.some.inj step
          exact .single (.advance queue (List.isEmpty_iff.1 aside) next soon)
        · simp at step
      · simp at step
    · obtain rfl := Option.some.inj step
      exact .single (.callBack before)

theorem now_step?_le {limit : Nat} {before after : Schedule}
    (step : before.step? limit = some after) (early : before.now ≤ limit) :
    after.now ≤ limit := by
  rw [step?] at step
  split at step
  · rename_i job jobs queue
    obtain rfl := Option.some.inj step
    rw [now_runJob]
    dsimp only
    rw [rest]
    split
    · exact early
    · exact Nat.le_trans (Nat.le_of_eq (now_foldl_wake _ _)) early
  · split at step
    · split at step
      · rename_i instant next
        split at step
        · rename_i soon
          obtain rfl := Option.some.inj step
          rw [now_advance]
          exact Nat.le_of_lt soon
        · simp at step
      · simp at step
    · obtain rfl := Option.some.inj step
      exact Nat.le_trans (Nat.le_of_eq (now_foldl_wake _ _)) early

theorem beats_steps (limit fuel : Nat) (schedule : Schedule) :
    Beats limit schedule (steps limit fuel schedule) := by
  induction fuel generalizing schedule with
  | zero => exact .refl
  | succ fuel ih =>
    rw [steps]
    split
    · rename_i next step
      exact Relation.ReflTransGen.trans (beats_step? step) (ih next)
    · exact .refl

theorem now_steps_le (limit fuel : Nat) (schedule : Schedule) (early : schedule.now ≤ limit) :
    (steps limit fuel schedule).now ≤ limit := by
  induction fuel generalizing schedule with
  | zero => exact early
  | succ fuel ih =>
    rw [steps]
    split
    · rename_i next step
      exact ih next (now_step?_le step early)
    · exact early

/-- When nothing is left to happen before a limit, nothing can run and no timer is due. -/
theorem step?_eq_none {limit : Nat} {schedule : Schedule} (idle : schedule.step? limit = none) :
    schedule.queue = [] ∧ schedule.aside = [] ∧
      ∀ timer ∈ schedule.timers, limit ≤ timer.instant := by
  rw [step?] at idle
  split at idle
  · simp at idle
  · rename_i queue
    split at idle
    · rename_i aside
      refine ⟨queue, List.isEmpty_iff.1 aside, ?_⟩
      intro timer member
      have present : timer.instant ∈ schedule.timers.map Timer.instant :=
        List.mem_map.2 ⟨timer, member, rfl⟩
      split at idle
      · rename_i instant next
        have least := (List.min?_eq_some_iff.1 next).2 timer.instant present
        split at idle
        · simp at idle
        · omega
      · rename_i nothing
        have empty : schedule.timers.map Timer.instant = [] := List.min?_eq_none_iff.1 nothing
        rw [empty] at present
        simp at present
    · simp at idle

/-- Once a schedule has settled, nothing can run and no timer is due before the limit. -/
theorem settled (schedule : Schedule) (limit : Nat) :
    (schedule.settle limit).queue = [] ∧ (schedule.settle limit).aside = [] ∧
      ∀ timer ∈ (schedule.settle limit).timers, limit ≤ timer.instant :=
  step?_eq_none (step?_settle schedule limit)

theorem leads_sleep (schedule : Schedule) (duration : Nat) :
    schedule.Leads (schedule.sleep duration) := by
  rw [sleep]
  split
  · exact .refl
  · dsimp only
    have early : { schedule with runs := 0 }.now ≤ schedule.now + duration :=
      Nat.le_add_right _ _
    have still := now_steps_le _ { schedule with runs := 0 }.work _ early
    have leads := (beats_steps (schedule.now + duration) { schedule with runs := 0 }.work
      { schedule with runs := 0 }).leads
    obtain ⟨queue, aside, silent⟩ :=
      settled { schedule with runs := 0 } (schedule.now + duration)
    have begun := Relation.ReflTransGen.head (.stretch schedule) leads
    exact begun.tail (.elapse queue aside still silent)

theorem leads_obey (schedule : Schedule) (command : Command) :
    schedule.Leads (schedule.obey command).1 := by
  cases command with
  | start plan => exact .single (.start schedule plan)
  | sleep duration => exact leads_sleep schedule duration
  | abort request => exact .single (.abort schedule request)
  | cancel request => exact .single (.cancel schedule request)

theorem leads_after (schedule : Schedule) (commands : List Command) :
    schedule.Leads (schedule.after commands) := by
  induction commands generalizing schedule with
  | nil => exact .refl
  | cons command commands ih =>
    rw [after_cons]
    exact Relation.ReflTransGen.trans (leads_obey schedule command) (ih _)

/-- What a scenario leads to is reachable. -/
theorem reachable_after (commands : List Command) : (initial.after commands).Reachable :=
  leads_after initial commands

end Schedule
end HttpExchange
