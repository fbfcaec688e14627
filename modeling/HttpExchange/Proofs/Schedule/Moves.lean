import HttpExchange.Proofs.Schedule.Alone
import Mathlib.Logic.Function.Iterate

/-!
# Moves as one exchange sees them

A move wakes an exchange only because it was interrupted, gave way, or waited for something that
came (`move_view`).
-/

namespace HttpExchange
namespace View

/-- An exchange is interrupted some number of times. -/
def Interrupts (number : Nat) (before after : View) : Prop :=
  ∃ times, after = (View.interrupt number)^[times] before

theorem Interrupts.refl {number : Nat} (view : View) : Interrupts number view view :=
  ⟨0, rfl⟩

theorem Interrupts.single {number : Nat} (view : View) :
    Interrupts number view (view.interrupt number) :=
  ⟨1, rfl⟩

theorem Interrupts.trans {number : Nat} {first second third : View}
    (front : Interrupts number first second) (back : Interrupts number second third) :
    Interrupts number first third := by
  obtain ⟨times, rfl⟩ := front
  obtain ⟨more, rfl⟩ := back
  exact ⟨more + times, (Function.iterate_add_apply _ more times first).symm⟩

/-- What a move of a schedule does to an exchange. -/
inductive Move (number : Nat) : View → View → Prop where
  /-- It is started. -/
  | start {view : View} (plan : Plan) (absent : view.record = none) :
      Move number view
        { view with
          record := some ⟨.start plan, []⟩
          jobs := view.jobs ++ [.exchange number] }
  /-- It is interrupted, or left alone. -/
  | interrupts {before after : View} (interrupts : Interrupts number before after) :
      Move number before after
  /-- It is woken if it gave way. -/
  | callBack (view : View) : Move number view (view.callBack number)
  /-- It runs. -/
  | run {view : View} {record : Record} {jobs : List Job} (found : view.record = some record)
      (queue : view.jobs = .exchange number :: jobs) {moments : List Moment}
      (told : Told (record.exchange.run number view.now).effects moments) :
      Move number view
        ({ view with jobs := jobs }.ran number (record.exchange.run number view.now) moments)
  /-- A late tick runs. -/
  | late {view : View} {job : Job} {jobs : List Job} (queue : view.jobs = job :: jobs)
      (late : job.isLate = true) : Move number view ({ view with jobs := jobs }.runJob number job)
  /-- The clock moves to an instant, and the timers of that instant go off. -/
  | advance {view : View} {instant : Nat} (quiet : view.Quiet instant)
      (later : view.now ≤ instant) : Move number view (view.advance number instant)
  /-- The clock moves, but not past a timer. -/
  | elapse {view : View} {limit : Nat} (quiet : view.Quiet limit) (later : view.now ≤ limit) :
      Move number view { view with now := limit }

theorem interrupt_of_absent {number : Nat} {view : View} (absent : view.record = none) :
    view.interrupt number = view := by
  simp only [interrupt, absent]

/-- An exchange that was not started is started, or still was not. -/
theorem Move.of_absent {number : Nat} {before after : View} (move : Move number before after)
    (tidy : before.Tidy) (absent : before.record = none) :
    after.record = none ∨ ∃ plan, after = { before with
      record := some ⟨.start plan, []⟩
      jobs := before.jobs ++ [.exchange number] } := by
  obtain ⟨jobs, aside, timers⟩ := tidy absent
  cases move with
  | start plan => exact .inr ⟨plan, rfl⟩
  | interrupts interrupts =>
    obtain ⟨times, rfl⟩ := interrupts
    rw [Function.iterate_fixed (interrupt_of_absent absent)]
    exact .inl absent
  | callBack =>
    rw [View.callBack, aside]
    exact .inl absent
  | run found => cases absent.symm.trans found
  | late queue => cases jobs.symm.trans queue
  | advance =>
    refine .inl ?_
    simp only [View.advance, timers, List.filter_nil, List.foldl_nil]
    exact absent
  | elapse => exact .inl absent

end View

namespace Schedule

open View

/-- An abort of a request is an interruption of it, or nothing. -/
theorem interrupts_abort (schedule : Schedule) (number other : Nat) :
    Interrupts number (schedule.view number) ((schedule.abort other).1.view number) := by
  by_cases same : other = number
  · subst same
    rw [view_abort_self, View.obey]
    split
    · exact .single _
    · exact .refl _
  · exact view_abort_of_ne schedule same ▸ .refl _

theorem interrupts_cancel (schedule : Schedule) (number other : Nat) :
    Interrupts number (schedule.view number) ((schedule.cancel other).view number) := by
  by_cases same : other = number
  · subst same
    rw [view_cancel_self, View.obey]
    split
    · exact .refl _
    · exact .single _
  · exact view_cancel_of_ne same schedule ▸ .refl _

/-- Whatever another exchange asks for is at most an interruption of this one. -/
theorem interrupts_carryOut {number other : Nat} (different : other ≠ number)
    (schedule : Schedule) (effect : Effect) :
    Interrupts number (schedule.view number) ((carryOut other schedule effect).view number) := by
  by_cases aborts : effect = .abort number
  · subst aborts
    simp only [carryOut]
    rw [view_note_of_ne _ different]
    exact interrupts_abort schedule number number
  · rw [view_carryOut_of_ne different schedule aborts]
    exact .refl _

theorem interrupts_foldl_carryOut {number other : Nat} (different : other ≠ number)
    (effects : List Effect) (schedule : Schedule) :
    Interrupts number (schedule.view number)
      ((effects.foldl (carryOut other) schedule).view number) := by
  induction effects generalizing schedule with
  | nil => exact .refl _
  | cons effect effects ih => exact (interrupts_carryOut different schedule effect).trans (ih _)

/-- So is whatever a job of another exchange does. -/
theorem interrupts_runJob {number : Nat} {job : Job} (different : job.number ≠ number)
    (schedule : Schedule) :
    Interrupts number (schedule.view number) ((schedule.runJob job).view number) := by
  cases job with
  | exchange other =>
    have apart : other ≠ number := different
    cases found : schedule.records[other]? with
    | none =>
      simp only [runJob, runExchange, found]
      exact .refl _
    | some record =>
      obtain ⟨updated, same, ran⟩ := view_runExchange_of_ne apart schedule found
      rw [runJob, ran, ← same]
      exact interrupts_foldl_carryOut apart _ updated
  | lateTick other progress delay =>
    exact view_runLate_of_ne different schedule progress delay ▸ .refl _

theorem move_runJob {schedule : Schedule} {job : Job} {jobs : List Job}
    (queue : schedule.queue = job :: jobs) (number : Nat) (tidy : (schedule.view number).Tidy) :
    View.Move number (schedule.view number)
      (({ schedule with queue := jobs, runs := schedule.runs + 1 }.runJob job).view number) := by
  by_cases own : job.number = number
  · have popped : { schedule with queue := jobs, runs := schedule.runs + 1 }.view number =
        { schedule.view number with jobs := ({ schedule with queue := jobs }.view number).jobs } :=
      rfl
    have first : (schedule.view number).jobs =
        job :: ({ schedule with queue := jobs }.view number).jobs := by
      simp [view, queue, own]
    cases job with
    | exchange other =>
      obtain rfl : other = number := own
      cases found : schedule.records[other]? with
      | none =>
        have none : (schedule.view other).jobs = [] := (tidy found).1
        cases none.symm.trans first
      | some record =>
        obtain ⟨moments, told, ran⟩ := view_runExchange_self
          { schedule with queue := jobs, runs := schedule.runs + 1 } other found
        rw [popped] at ran
        rw [runJob, ran]
        exact .run found first told
    | lateTick other progress delay =>
      obtain rfl : other = number := own
      rw [view_runLate_self, popped]
      exact .late first rfl
  · have same : { schedule with queue := jobs, runs := schedule.runs + 1 }.view number =
        schedule.view number := by
      simp [view, queue, own]
    have ran := interrupts_runJob own { schedule with queue := jobs, runs := schedule.runs + 1 }
    rw [same] at ran
    exact .interrupts ran

theorem quiet_view {schedule : Schedule} {limit : Nat} (queue : schedule.queue = [])
    (aside : schedule.aside = []) (silent : ∀ timer ∈ schedule.timers, limit ≤ timer.instant)
    (number : Nat) : (schedule.view number).Quiet limit := by
  refine ⟨?_, ?_, fun timer member => silent timer (List.mem_filter.1 member).1⟩
  · simp [view, queue]
  · simp [view, aside]

/-- A move of a schedule is one of each view. -/
theorem move_view {before after : Schedule} (move : Move before after) (reached : before.Reachable)
    (number : Nat) : View.Move number (before.view number) (after.view number) := by
  cases move with
  | start plan =>
    by_cases same : before.records.length = number
    · subst same
      rw [view_start_self]
      exact .start plan (by simp [view])
    · rw [view_start_of_ne same]
      exact .interrupts (.refl _)
  | abort other => exact .interrupts (interrupts_abort before number other)
  | cancel other => exact .interrupts (interrupts_cancel before number other)
  | stretch => exact .interrupts (.refl _)
  | callBack => exact view_callBack before number ▸ .callBack _
  | run queue => exact move_runJob queue number (reached.view number).tidy
  | @advance instant queue aside next =>
    obtain ⟨present, least⟩ := List.min?_eq_some_iff.1 next
    obtain ⟨timer, member, rfl⟩ := List.mem_map.1 present
    rw [view_advance]
    exact .advance (quiet_view queue aside (fun other there =>
      least other.instant (List.mem_map_of_mem there)) number)
        (ahead_of_views reached.view timer member)
  | elapse queue aside later silent => exact .elapse (quiet_view queue aside silent number) later

end Schedule
end HttpExchange
