import HttpExchange.Proofs.Exchange.Inside
import HttpExchange.Proofs.Schedule.Projection

/-!
# What happens to an exchange of itself

What a schedule does of itself is done to each exchange by an operation on its view alone
(`view_beat`).
-/

namespace HttpExchange

/-- What a moment tells of its exchange alone. -/
def Moment.shown? : Moment → Option Moment
  | .began => none
  | .event (.aborting _) => some (.event (.aborting none))
  | moment => some moment

/-- What a history tells of its exchange alone. -/
def Moment.shown (history : List (Nat × Moment)) : List (Nat × Moment) :=
  history.filterMap fun entry => entry.2.shown?.map fun moment => (entry.1, moment)

/-- A record without what depends on other exchanges. -/
def Record.shown (record : Record) : Record :=
  { record with history := Moment.shown record.history }

namespace Moment

theorem shown?_bind (moment : Moment) : moment.shown?.bind shown? = moment.shown? := by
  cases moment with
  | event event => cases event <;> rfl
  | began | interrupted | resolved | ended => rfl

theorem shown_append (front back : List (Nat × Moment)) :
    shown (front ++ back) = shown front ++ shown back :=
  List.filterMap_append

theorem shown_map (now : Nat) (moments : List Moment) :
    shown (moments.map fun moment => (now, moment)) =
      (moments.filterMap shown?).map fun moment => (now, moment) := by
  rw [shown, List.filterMap_map, List.map_filterMap]
  rfl

theorem shown_began (now : Nat) : shown [(now, .began)] = [] := rfl

@[simp] theorem shown_shown (history : List (Nat × Moment)) :
    shown (shown history) = shown history := by
  rw [shown, shown, List.filterMap_filterMap]
  congr
  funext entry
  have same := entry.2.shown?_bind
  cases told : entry.2.shown? <;> simp_all

end Moment

namespace View

/-- A view without what depends on other exchanges. -/
def shown (view : View) : View :=
  { view with record := view.record.map Record.shown }

/-- What is remembered of effects if no abort is answered. -/
def untold (effects : List Effect) : List Moment :=
  effects.flatMap (told none)

/-- A job runs. -/
def runJob (number : Nat) (view : View) : Job → View
  | .exchange _ =>
    match view.record with
    | none => view
    | some record =>
      let turn := record.exchange.run number view.now
      view.ran number turn (untold turn.effects)
  | .lateTick _ progress none => view.reportLate number progress
  | .lateTick _ progress (some delay) =>
    if delay = 0 then view.reportLate number progress
    else
      { view with
        timers := view.timers ++ [⟨view.now + delay, .lateTick number progress none⟩] }

/-- The clock moves, and the timers of that instant go off. -/
def advance (number : Nat) (view : View) (instant : Nat) : View :=
  (view.timers.filter fun timer => timer.instant == instant).foldl (goOff number)
    { view with
      now := instant
      timers := view.timers.filter fun timer => timer.instant != instant }

/-! ### What is shown -/

section

variable (number : Nat) (view : View)

@[simp] theorem shown_now : view.shown.now = view.now := rfl

@[simp] theorem shown_jobs : view.shown.jobs = view.jobs := rfl

@[simp] theorem shown_aside : view.shown.aside = view.aside := rfl

@[simp] theorem shown_timers : view.shown.timers = view.timers := rfl

@[simp] theorem shown_shown : view.shown.shown = view.shown := by
  cases found : view.record <;> simp [shown, Record.shown, found]

theorem shown_stir (change : Exchange → Exchange) :
    (view.stir number change).shown = view.shown.stir number change := by
  cases found : view.record <;> simp [stir, shown, Record.shown, found]

theorem shown_note {moment : Moment} (shows : moment.shown? = some moment) :
    (view.note moment).shown = view.shown.note moment := by
  cases found : view.record <;>
    simp [note, shown, Record.shown, found, shows, Moment.shown]

theorem shown_callBack : (view.callBack number).shown = view.shown.callBack number := by
  simp only [callBack, shown_aside, ← shown_stir]
  cases view.aside <;> rfl

theorem shown_goOff (timer : Timer) :
    (view.goOff number timer).shown = view.shown.goOff number timer := by
  simp only [goOff]
  split
  · exact shown_stir number view _
  · rfl

theorem shown_foldl_goOff (timers : List Timer) :
    (timers.foldl (goOff number) view).shown = timers.foldl (goOff number) view.shown := by
  induction timers generalizing view with
  | nil => rfl
  | cons timer timers ih => rw [List.foldl_cons, List.foldl_cons, ih, shown_goOff]

theorem shown_advance (instant : Nat) :
    (view.advance number instant).shown = view.shown.advance number instant :=
  shown_foldl_goOff number _ _

/-- What a run shows does not depend on the moments that it does not show. -/
theorem shown_ran (turn : Exchange.Turn) {moments others : List Moment}
    (same : moments.filterMap Moment.shown? = others.filterMap Moment.shown?) :
    (view.ran number turn moments).shown = (view.shown.ran number turn others).shown := by
  cases found : view.record <;> cases woken : turn.exchange.woken <;>
    simp [ran, carryOut, shown, Record.shown, found, woken, Moment.shown_append, Moment.shown_map,
      same]

theorem shown_reportLate (progress : Progress) :
    (view.reportLate number progress).shown = view.shown.reportLate number progress := by
  rw [reportLate, shown_stir, shown_note _ rfl, reportLate]

theorem shown_runJob (job : Job) :
    (view.runJob number job).shown = (view.shown.runJob number job).shown := by
  cases job with
  | exchange other =>
    cases found : view.record with
    | none =>
      have none : view.shown.record = none := by simp [shown, found]
      simp only [runJob, found, none, shown_shown]
    | some record =>
      have some : view.shown.record = some record.shown := by simp [shown, found]
      simp only [runJob, found, some]
      exact shown_ran number view _ rfl
  | lateTick other progress delay =>
    cases delay with
    | none => simp only [runJob, shown_reportLate, shown_shown]
    | some delay =>
      simp only [runJob]
      split
      · simp only [shown_reportLate, shown_shown]
      · exact (shown_shown _).symm

end

/-- The answers to the aborts that an exchange asked for are not shown. -/
theorem Told.shown {effects : List Effect} {moments : List Moment} (told : Told effects moments) :
    moments.filterMap Moment.shown? = (untold effects).filterMap Moment.shown? := by
  induction told with
  | nil => rfl
  | cons effect answer told ih =>
    rw [untold, List.flatMap_cons, List.filterMap_append, List.filterMap_append, ih]
    cases effect <;> rfl

end View

/-! ### Projections -/

namespace Schedule

open View

/-- No script of another request aborts the one with a number. -/
def Spares (number : Nat) (schedule : Schedule) : Prop :=
  ∀ other record, other ≠ number → schedule.records[other]? = some record →
    .abort number ∉ record.exchange.plan.script

theorem view_foldl_goOff (number : Nat) (timers : List Timer) (schedule : Schedule) :
    (timers.foldl goOff schedule).view number =
      (timers.filter fun timer => timer.job.number == number).foldl (View.goOff number)
        (schedule.view number) := by
  induction timers generalizing schedule with
  | nil => rfl
  | cons timer timers ih =>
    rw [List.foldl_cons, ih]
    by_cases own : timer.job.number = number
    · rw [view_goOff_self schedule own, List.filter_cons_of_pos (by simpa using own),
        List.foldl_cons]
    · rw [view_goOff_of_ne schedule own, List.filter_cons_of_neg (by simpa using own)]

theorem view_advance (schedule : Schedule) (instant number : Nat) :
    (schedule.advance instant).view number = (schedule.view number).advance number instant := by
  rw [advance, view_foldl_goOff, View.advance]
  simp only [view, List.filter_filter, Bool.and_comm]

/-! ### Running -/

theorem view_foldl_carryOut_of_ne {number other : Nat} (different : other ≠ number)
    {effects : List Effect} (schedule : Schedule) (spared : .abort number ∉ effects) :
    (effects.foldl (carryOut other) schedule).view number = schedule.view number := by
  induction effects generalizing schedule with
  | nil => rfl
  | cons effect effects ih =>
    rw [List.mem_cons, not_or] at spared
    rw [List.foldl_cons, ih _ spared.2, view_carryOut_of_ne different schedule (Ne.symm spared.1)]

theorem view_runJob_of_ne {number : Nat} {job : Job} (different : job.number ≠ number)
    (schedule : Schedule)
    (spared : ∀ other record, job = .exchange other → schedule.records[other]? = some record →
      .abort number ∉ (record.exchange.run other schedule.now).effects) :
    (schedule.runJob job).view number = schedule.view number := by
  cases job with
  | exchange other =>
    cases found : schedule.records[other]? with
    | none => simp only [runJob, runExchange, found]
    | some record =>
      have apart : other ≠ number := different
      obtain ⟨updated, same, ran⟩ := view_runExchange_of_ne apart schedule found
      rw [runJob, ran, view_foldl_carryOut_of_ne apart updated (spared other record rfl found),
        same]
  | lateTick other progress delay => exact view_runLate_of_ne different schedule progress delay

theorem view_runLate_self (schedule : Schedule) (number : Nat) (progress : Progress)
    (delay : Option Nat) :
    (schedule.runJob (.lateTick number progress delay)).view number =
      (schedule.view number).runJob number (.lateTick number progress delay) := by
  have reported := view_reportLate_self schedule number progress
  cases delay with
  | none => exact reported
  | some delay =>
    simp only [runJob, View.runJob]
    split
    · exact reported
    · exact view_setTimer_self schedule _ rfl

theorem view_runJob_self (schedule : Schedule) {number : Nat} {job : Job}
    (own : job.number = number) :
    ((schedule.runJob job).view number).shown =
      ((schedule.view number).runJob number job).shown := by
  cases job with
  | exchange other =>
    obtain rfl : other = number := own
    cases found : schedule.records[other]? with
    | none =>
      have none : (schedule.view other).record = none := found
      simp only [runJob, runExchange, View.runJob, found, none]
    | some record =>
      have some : (schedule.view other).record = some record := found
      obtain ⟨moments, told, ran⟩ := view_runExchange_self schedule other found
      simp only [runJob, View.runJob, some, ran]
      rw [shown_ran other _ _ told.shown]
      exact (shown_ran other _ _ rfl).symm
  | lateTick other progress delay =>
    obtain rfl : other = number := own
    exact congrArg shown (view_runLate_self schedule other progress delay)

end Schedule

/-! ### What others can do -/

namespace Exchange

theorem Kin.ahead {left right : Exchange} (kin : Kin left right) : right.ahead = left.ahead := by
  simp only [Exchange.ahead]
  rw [kin.phase, kin.plan]

theorem ahead_run (exchange : Exchange) (self now : Nat) :
    (exchange.run self now).exchange.ahead <:+ exchange.ahead := by
  cases closed : exchange.isOver with
  | true =>
    rw [run_of_over closed, ahead_of_over (by exact closed)]
    exact List.nil_suffix
  | false =>
    obtain ⟨-, -, -, shorter⟩ := inside_run closed self now
    exact shorter

/-- A run aborts only what the script that is ahead says. -/
theorem mem_ahead_of_abort {exchange : Exchange} {self now request : Nat}
    (aborts : .abort request ∈ (exchange.run self now).effects) :
    .abort request ∈ exchange.ahead := by
  cases closed : exchange.isOver with
  | true =>
    rw [run_of_over closed] at aborts
    cases aborts
  | false =>
    obtain ⟨inside, effects, all, -⟩ := inside_run closed self now
    rw [effects] at aborts
    have inner : .abort request ∈ inside := by
      cases called : exchange.calls <;> simpa [called] using aborts
    exact all _ inner

end Exchange

/-- What a transport has still to do is the last part of its script. -/
theorem View.Reachable.ahead_suffix {number : Nat} {view : View} (reached : view.Reachable number)
    {record : Record} (found : view.record = some record) :
    record.exchange.ahead <:+ record.exchange.plan.script := by
  refine reached.record_induction
    (motive := fun record => record.exchange.ahead <:+ record.exchange.plan.script)
    (fun plan => List.suffix_refl _) ?_ found
  intro now before after change shorter
  have kept {left right : Exchange} (kin : left.Kin right)
      (shorter : left.ahead <:+ left.plan.script) :
      right.ahead <:+ right.plan.script := by
    rw [kin.ahead, kin.plan]
    exact shorter
  cases change with
  | none => exact shorter
  | wake => exact kept (Exchange.alike_wake _).kin shorter
  | interrupt => exact kept (Exchange.alike_interrupt _).kin shorter
  | report _ progress =>
    exact kept ((Exchange.kin_report _ progress).trans (Exchange.kin_release _)) shorter
  | run =>
    rw [Exchange.run_plan]
    exact List.IsSuffix.trans (Exchange.ahead_run _ _ _) shorter

namespace View

/-- One thing that happens to an exchange of itself before `limit`, or to another one. -/
inductive Beat (number limit : Nat) : View → View → Prop where
  /-- It happens to another one. -/
  | still (view : View) : Beat number limit view view
  /-- What gave way is woken. -/
  | callBack (view : View) : Beat number limit view (view.callBack number)
  /-- The next job of the exchange runs. -/
  | run {before after : View} {job : Job} {jobs : List Job} (queue : before.jobs = job :: jobs)
      (own : job.number = number)
      (ran : after.shown = ({ before with jobs := jobs }.runJob number job).shown) :
      Beat number limit before after
  /-- Nothing can run, and the clock moves, but not past a timer. -/
  | advance {view : View} {instant : Nat} (jobs : view.jobs = []) (aside : view.aside = false)
      (later : view.now ≤ instant) (soon : instant < limit)
      (silent : ∀ timer ∈ view.timers, instant ≤ timer.instant) :
      Beat number limit view (view.advance number instant)

end View

namespace Schedule

theorem spares_run {number other : Nat} {schedule : Schedule} (reached : schedule.Reachable)
    (spares : schedule.Spares number) (different : other ≠ number) {record : Record}
    (found : schedule.records[other]? = some record) :
    .abort number ∉ (record.exchange.run other schedule.now).effects := by
  intro aborts
  have shorter := (reached.view other).ahead_suffix found
  exact spares other record different found
    (shorter.subset (Exchange.mem_ahead_of_abort aborts))

/-- What happens of itself to a schedule happens to each exchange that no other script aborts, or
does not touch it. -/
theorem view_beat {limit : Nat} {before after : Schedule} (beat : Beat limit before after)
    (reached : before.Reachable) {number : Nat} (spares : before.Spares number) :
    View.Beat number limit (before.view number) (after.view number) := by
  cases beat with
  | callBack =>
    rw [view_callBack]
    exact .callBack _
  | @run job jobs queue =>
    by_cases own : job.number = number
    · have first : (before.view number).jobs =
          job :: ({ before with queue := jobs }.view number).jobs := by
        simp [view, queue, own]
      exact .run first own
        (view_runJob_self { before with queue := jobs, runs := before.runs + 1 } own)
    · have same : { before with queue := jobs, runs := before.runs + 1 }.view number =
          before.view number := by
        simp [view, queue, own]
      rw [view_runJob_of_ne own, same]
      · exact .still _
      · rintro other record rfl found
        exact spares_run reached spares own found
  | advance queue aside next soon =>
    rw [view_advance]
    obtain ⟨present, least⟩ := List.min?_eq_some_iff.1 next
    obtain ⟨timer, member, rfl⟩ := List.mem_map.1 present
    refine .advance ?_ ?_ ?_ soon ?_
    · simp [view, queue]
    · simp [view, aside]
    · exact ahead_of_views reached.view timer member
    · intro other own
      exact least other.instant (List.mem_map_of_mem (List.mem_filter.1 own).1)

end Schedule
end HttpExchange
