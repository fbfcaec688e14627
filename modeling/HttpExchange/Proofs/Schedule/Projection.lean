import HttpExchange.Proofs.Schedule.View

/-!
# From schedules to views

A move of a schedule is a few steps of every view (`steps_move`).
-/

namespace HttpExchange

namespace View

/-- The exchange is woken if it gave way. -/
def callBack (number : Nat) (view : View) : View :=
  if view.aside then { view.stir number Exchange.wake with aside := false } else view

/-- A timer goes off. -/
def goOff (number : Nat) (view : View) (timer : Timer) : View :=
  match timer.job with
  | .exchange _ => view.stir number Exchange.wake
  | .lateTick .. => { view with jobs := view.jobs ++ [timer.job] }

end View

namespace Schedule

open View

/-! ### Single operations -/

theorem view_note_self (schedule : Schedule) (number : Nat) (moment : Moment) :
    (schedule.note number moment).view number = (schedule.view number).note moment := by
  simp [view, note, View.note]

theorem view_note_of_ne (schedule : Schedule) {number other : Nat} (different : other ≠ number)
    (moment : Moment) : (schedule.note other moment).view number = schedule.view number := by
  simp [view, note, List.getElem?_modify_ne _ _ different]

theorem view_enqueue_self (schedule : Schedule) {job : Job} {number : Nat}
    (own : job.number = number) :
    (schedule.enqueue job).view number =
      { schedule.view number with jobs := (schedule.view number).jobs ++ [job] } := by
  simp [view, enqueue, own]

theorem view_enqueue_of_ne (schedule : Schedule) {job : Job} {number : Nat}
    (different : job.number ≠ number) :
    (schedule.enqueue job).view number = schedule.view number := by
  simp [view, enqueue, different]

theorem view_setTimer_self (schedule : Schedule) (instant : Nat) {job : Job} {number : Nat}
    (own : job.number = number) :
    (schedule.setTimer instant job).view number =
      { schedule.view number with
        timers := (schedule.view number).timers ++ [⟨instant, job⟩] } := by
  simp [view, setTimer, own]

theorem view_setTimer_of_ne (schedule : Schedule) (instant : Nat) {job : Job} {number : Nat}
    (different : job.number ≠ number) :
    (schedule.setTimer instant job).view number = schedule.view number := by
  simp [view, setTimer, different]

theorem view_putAside_self (schedule : Schedule) (number : Nat) :
    (schedule.putAside number).view number = { schedule.view number with aside := true } := by
  rw [putAside]
  split
  · rename_i last
    have present : number ∈ schedule.aside := List.mem_of_mem_head? last
    simp [view, present]
  · simp [view]

theorem view_putAside_of_ne (schedule : Schedule) {number other : Nat}
    (different : other ≠ number) :
    (schedule.putAside other).view number = schedule.view number := by
  rw [putAside]
  split
  · rfl
  · simp [view, different.symm]

theorem view_stir_self (schedule : Schedule) (number : Nat) (change : Exchange → Exchange) :
    (schedule.stir number change).view number = (schedule.view number).stir number change := by
  rw [stir, View.stir]
  cases found : schedule.records[number]? with
  | none => simp only [view, found]
  | some record =>
    dsimp only
    split <;> simp [view, enqueue, update, Job.number, *]

theorem view_stir_of_ne (schedule : Schedule) {number other : Nat} (different : other ≠ number)
    (change : Exchange → Exchange) :
    (schedule.stir other change).view number = schedule.view number := by
  have updated : (schedule.update other change).view number = schedule.view number := by
    simp [view, update, List.getElem?_modify_ne _ _ different]
  rw [stir]
  split
  · rfl
  · dsimp only
    split
    · rw [view_enqueue_of_ne _ (show (Job.exchange other).number ≠ number from different), updated]
    · exact updated

theorem view_interrupt_self (schedule : Schedule) (number : Nat) (success : Bool) :
    (schedule.interrupt number success).view number =
      ((schedule.view number).stir number (·.interrupt.1)).note (.interrupted success) := by
  rw [interrupt]
  rw [view_note_self, view_stir_self]

theorem view_interrupt_of_ne (schedule : Schedule) {number other : Nat}
    (different : other ≠ number) (success : Bool) :
    (schedule.interrupt other success).view number = schedule.view number := by
  rw [interrupt]
  rw [view_note_of_ne _ different, view_stir_of_ne _ different]

theorem view_reportLate_self (schedule : Schedule) (number : Nat) (progress : Progress) :
    (schedule.reportLate number progress).view number =
      (schedule.view number).reportLate number progress := by
  rw [reportLate, View.reportLate]
  rw [view_stir_self, view_note_self]

theorem view_reportLate_of_ne (schedule : Schedule) {number other : Nat}
    (different : other ≠ number) (progress : Progress) :
    (schedule.reportLate other progress).view number = schedule.view number := by
  rw [reportLate]
  rw [view_stir_of_ne _ different, view_note_of_ne _ different]

/-! ### Interruptions -/

theorem steps_interrupt (schedule : Schedule) (number other : Nat) {record : Record}
    (found : schedule.records[other]? = some record) :
    Steps number (schedule.view number)
      ((schedule.interrupt other record.exchange.interrupt.2).view number) := by
  by_cases same : other = number
  · subst same
    rw [view_interrupt_self]
    exact .single (.interrupt found)
  · rw [view_interrupt_of_ne _ same]
    exact .refl

theorem steps_abort (schedule : Schedule) (number other : Nat) :
    Steps number (schedule.view number) ((schedule.abort other).1.view number) := by
  rw [abort]
  split
  · exact .refl
  · rename_i record found
    split
    · exact steps_interrupt schedule number other found
    · exact .refl

theorem view_abort_of_ne (schedule : Schedule) {number other : Nat} (different : other ≠ number) :
    (schedule.abort other).1.view number = schedule.view number := by
  rw [abort]
  split
  · rfl
  · split
    · exact view_interrupt_of_ne schedule different _
    · rfl

theorem view_cancel_of_ne {number other : Nat} (different : other ≠ number)
    (schedule : Schedule) : (schedule.cancel other).view number = schedule.view number := by
  rw [cancel]
  split
  · rfl
  · split
    · rfl
    · exact view_interrupt_of_ne schedule different _

theorem steps_cancel (schedule : Schedule) (number other : Nat) :
    Steps number (schedule.view number) ((schedule.cancel other).view number) := by
  rw [cancel]
  split
  · exact .refl
  · rename_i record found
    split
    · exact .refl
    · exact steps_interrupt schedule number other found

/-! ### Waking -/

theorem stir_wake_wake (number : Nat) (view : View) :
    (view.stir number Exchange.wake).stir number Exchange.wake =
      view.stir number Exchange.wake := by
  cases found : view.record with
  | none => simp only [stir_none found]
  | some record =>
    have again : record.exchange.wake.wake = record.exchange.wake := by
      simp only [Exchange.wake]
      split
      · rfl
      · split <;> rfl
    cases woken : record.exchange.wake.woken <;> simp [View.stir, found, again, woken]

theorem view_foldl_wake (number : Nat) (numbers : List Nat) (schedule : Schedule) :
    (numbers.foldl wake schedule).view number =
      if number ∈ numbers then (schedule.view number).stir number Exchange.wake
      else schedule.view number := by
  induction numbers generalizing schedule with
  | nil => rfl
  | cons first numbers ih =>
    rw [List.foldl_cons, ih]
    by_cases same : first = number
    · subst same
      rw [wake, view_stir_self, stir_wake_wake]
      simp
    · rw [wake, view_stir_of_ne _ same]
      simp [Ne.symm same]

theorem view_callBack (schedule : Schedule) (number : Nat) :
    { schedule.callBack with runs := 0 }.view number =
      (schedule.view number).callBack number := by
  have woken := view_foldl_wake number schedule.aside { schedule with aside := [] }
  have cleared : { schedule with aside := [] }.view number =
      { schedule.view number with aside := false } := rfl
  rw [cleared] at woken
  change schedule.callBack.view number = _
  rw [callBack, woken, View.callBack]
  by_cases present : number ∈ schedule.aside
  · have gave : (schedule.view number).aside = true := by simpa [view] using present
    rw [if_pos present, if_pos gave]
    simp only [View.stir]
    split <;> simp_all
  · have stayed : (schedule.view number).aside = false := by simpa [view] using present
    rw [if_neg present, if_neg (by simp [stayed]), ← stayed]

theorem steps_callBack (schedule : Schedule) (number : Nat) :
    Steps number (schedule.view number) ({ schedule.callBack with runs := 0 }.view number) := by
  rw [view_callBack, View.callBack]
  split
  · exact .single (.callBack _)
  · exact .refl

/-! ### Running -/

theorem view_carryOut_of_ne {number other : Nat} (different : other ≠ number)
    (schedule : Schedule) {effect : Effect} (spared : effect ≠ .abort number) :
    (carryOut other schedule effect).view number = schedule.view number := by
  cases effect with
  | moment moment => exact view_note_of_ne schedule different moment
  | timer instant => exact view_setTimer_of_ne schedule instant different
  | giveWay => exact view_putAside_of_ne schedule different
  | lateTick delay progress => exact view_enqueue_of_ne schedule different
  | abort request =>
    simp only [carryOut]
    rw [view_note_of_ne _ different]
    exact view_abort_of_ne schedule fun same => spared (by rw [same])

theorem steps_carryOut_of_ne {number other : Nat} (different : other ≠ number)
    (schedule : Schedule) (effect : Effect) :
    Steps number (schedule.view number) ((carryOut other schedule effect).view number) := by
  by_cases aborts : effect = .abort number
  · subst aborts
    simp only [carryOut]
    rw [view_note_of_ne _ different]
    exact steps_abort schedule number number
  · rw [view_carryOut_of_ne different schedule aborts]
    exact .refl

theorem steps_foldl_carryOut_of_ne {number other : Nat} (different : other ≠ number)
    (effects : List Effect) (schedule : Schedule) :
    Steps number (schedule.view number)
      ((effects.foldl (carryOut other) schedule).view number) := by
  induction effects generalizing schedule with
  | nil => exact .refl
  | cons effect effects ih =>
    exact (steps_carryOut_of_ne different schedule effect).trans (ih _)

/-- No abort through a handle can reach an exchange that has none. -/
def OutOfReach (view : View) : Prop :=
  ∀ record, view.record = some record → record.exchange.plan.hasHandle = false

theorem abort_of_outOfReach {schedule : Schedule} {number : Nat}
    (unreachable : OutOfReach (schedule.view number)) :
    (schedule.abort number).1 = schedule := by
  rw [abort]
  split
  · rfl
  · rename_i record found
    simp [unreachable record found]

theorem carryOut_nil (number : Nat) (view : View) : view.carryOut number [] [] = view := by
  simp [View.carryOut, lateJobs, alarms, Effect.lateTicks, Effect.instants, Effect.givesWay]

theorem carryOut_cons (number : Nat) (view : View) (effect : Effect) (effects : List Effect)
    (first moments : List Moment) :
    (view.carryOut number [effect] first).carryOut number effects moments =
      view.carryOut number (effect :: effects) (first ++ moments) := by
  rw [show effect :: effects = [effect] ++ effects from rfl]
  simp only [View.carryOut, Effect.lateTicks_append, Effect.givesWay_append,
    Effect.instants_append, lateJobs, alarms, List.map_append, List.append_assoc, Bool.or_assoc,
    Option.map_map, Function.comp_def]

theorem view_carryOut_self (number : Nat) (schedule : Schedule) (effect : Effect)
    (foreign : effect = .abort number → OutOfReach (schedule.view number)) :
    ∃ answer, (carryOut number schedule effect).view number =
      (schedule.view number).carryOut number [effect] (told answer effect) := by
  cases effect with
  | moment moment =>
    refine ⟨none, ?_⟩
    rw [carryOut, view_note_self]
    simp [View.note, View.carryOut, told, lateJobs, alarms, Effect.lateTicks, Effect.instants,
      Effect.givesWay]
  | timer instant =>
    refine ⟨none, ?_⟩
    rw [carryOut, view_setTimer_self schedule instant
      (show (Job.exchange number).number = number from rfl)]
    simp [View.carryOut, told, lateJobs, alarms, Effect.lateTicks, Effect.instants,
      Effect.givesWay]
  | giveWay =>
    refine ⟨none, ?_⟩
    rw [carryOut, view_putAside_self]
    simp [View.carryOut, told, lateJobs, alarms, Effect.lateTicks, Effect.instants,
      Effect.givesWay]
  | lateTick delay progress =>
    refine ⟨none, ?_⟩
    rw [carryOut, view_enqueue_self schedule
      (show (Job.lateTick number progress (some delay)).number = number from rfl)]
    simp [View.carryOut, told, lateJobs, alarms, Effect.lateTicks, Effect.instants,
      Effect.givesWay]
  | abort request =>
    have untouched : (schedule.abort request).1.view number = schedule.view number := by
      by_cases same : request = number
      · rw [same, abort_of_outOfReach (foreign (by rw [same]))]
      · exact view_abort_of_ne schedule same
    refine ⟨(schedule.abort request).2, ?_⟩
    simp only [carryOut]
    rw [view_note_self, untouched]
    simp [View.note, View.carryOut, told, lateJobs, alarms, Effect.lateTicks, Effect.instants,
      Effect.givesWay]

/-- What an exchange asks for comes about. -/
theorem view_foldl_carryOut (number : Nat) (effects : List Effect) (schedule : Schedule)
    (foreign : .abort number ∈ effects → OutOfReach (schedule.view number)) :
    ∃ moments, Told effects moments ∧
      (effects.foldl (carryOut number) schedule).view number =
        (schedule.view number).carryOut number effects moments := by
  induction effects generalizing schedule with
  | nil => exact ⟨[], .nil, (carryOut_nil _ _).symm⟩
  | cons effect effects ih =>
    obtain ⟨answer, first⟩ := view_carryOut_self number schedule effect fun same =>
      foreign (same ▸ List.mem_cons_self)
    obtain ⟨moments, toldRest, rest⟩ := ih (carryOut number schedule effect) fun member => by
      rw [first]
      intro record present
      obtain ⟨earlier, found, rfl⟩ := Option.map_eq_some_iff.1 present
      exact foreign (List.mem_cons_of_mem _ member) earlier found
    refine ⟨told answer effect ++ moments, toldRest.cons effect answer, ?_⟩
    rw [List.foldl_cons, rest, first, carryOut_cons]

/-- What another exchange asks for comes about when it runs, and nothing else. -/
theorem view_runExchange_of_ne {number other : Nat} (different : other ≠ number)
    (schedule : Schedule) {record : Record} (found : schedule.records[other]? = some record) :
    ∃ updated : Schedule, updated.view number = schedule.view number ∧
      (schedule.runExchange other).view number =
        ((record.exchange.run other schedule.now).effects.foldl (carryOut other) updated).view
          number := by
  refine ⟨schedule.update other fun _ => (record.exchange.run other schedule.now).exchange, ?_, ?_⟩
  · simp [view, update, List.getElem?_modify_ne _ _ different]
  · simp only [runExchange, found]
    split
    · exact view_enqueue_of_ne _ (show (Job.exchange other).number ≠ number from different)
    · rfl

theorem steps_runExchange_of_ne {number other : Nat} (different : other ≠ number)
    (schedule : Schedule) :
    Steps number (schedule.view number) ((schedule.runExchange other).view number) := by
  cases found : schedule.records[other]? with
  | none =>
    simp only [runExchange, found]
    exact .refl
  | some record =>
    obtain ⟨updated, same, ran⟩ := view_runExchange_of_ne different schedule found
    rw [ran, ← same]
    exact steps_foldl_carryOut_of_ne different _ updated

theorem view_runExchange_self (schedule : Schedule) (number : Nat) {record : Record}
    (found : schedule.records[number]? = some record) :
    ∃ moments, Told (record.exchange.run number schedule.now).effects moments ∧
      (schedule.runExchange number).view number =
        (schedule.view number).ran number (record.exchange.run number schedule.now) moments := by
  have proper := record.exchange.proper_run number schedule.now
  have planKept := record.exchange.run_plan number schedule.now
  simp only [runExchange, View.ran]
  simp only [found]
  generalize record.exchange.run number schedule.now = turn at *
  have updated : (schedule.update number fun _ => turn.exchange).view number =
      { schedule.view number with
        record := (schedule.view number).record.map fun record =>
          { record with exchange := turn.exchange } } := by
    simp [view, update]
  obtain ⟨moments, told, carried⟩ := view_foldl_carryOut number turn.effects
    (schedule.update number fun _ => turn.exchange) fun member => by
      rw [updated]
      intro changed present
      obtain ⟨earlier, -, rfl⟩ := Option.map_eq_some_iff.1 present
      rw [planKept]
      exact proper.hasHandle member
  refine ⟨moments, told, ?_⟩
  rw [updated] at carried
  split
  · rw [view_enqueue_self _ (show (Job.exchange number).number = number from rfl), carried]
  · exact carried

theorem view_runLate_of_ne {number other : Nat} (different : other ≠ number)
    (schedule : Schedule) (progress : Progress) (delay : Option Nat) :
    (schedule.runJob (.lateTick other progress delay)).view number = schedule.view number := by
  have reported : (schedule.reportLate other progress).view number = schedule.view number :=
    view_reportLate_of_ne schedule different progress
  cases delay with
  | none => exact reported
  | some delay =>
    simp only [runJob]
    split
    · exact reported
    · exact view_setTimer_of_ne schedule _
        (show (Job.lateTick other progress none).number ≠ number from different)

/-- A job that runs is a step of the exchange it is for, or it is about another one. -/
theorem steps_runJob {schedule : Schedule} {job : Job} {jobs : List Job}
    (queue : schedule.queue = job :: jobs) (number : Nat) (tidy : (schedule.view number).Tidy) :
    Steps number (schedule.view number)
      (({ schedule with queue := jobs, runs := schedule.runs + 1 }.runJob job).view number) := by
  by_cases own : job.number = number
  · have popped : { schedule with queue := jobs, runs := schedule.runs + 1 }.view number =
        { schedule.view number with jobs := ({ schedule with queue := jobs }.view number).jobs } :=
      rfl
    have first : (schedule.view number).jobs =
        job :: ({ schedule with queue := jobs }.view number).jobs := by
      simp [view, queue, own]
    cases job with
    | exchange other =>
      obtain rfl : other = number := own
      cases found : schedule.records[other]? with
      | none =>
        have none : (schedule.view other).jobs = [] := (tidy found).1
        simp [none] at first
      | some record =>
        obtain ⟨moments, told, ran⟩ := view_runExchange_self
          { schedule with queue := jobs, runs := schedule.runs + 1 } other found
        rw [popped] at ran
        rw [runJob, ran]
        exact .single (.run found first told)
    | lateTick other progress delay =>
      obtain rfl : other = number := own
      have reported : ∀ due : delay.getD 0 = 0, Steps other (schedule.view other)
          (({ schedule with queue := jobs, runs := schedule.runs + 1 }.reportLate other
            progress).view other) := by
        intro due
        rw [view_reportLate_self, popped]
        exact .single (.reportLate first due)
      cases delay with
      | none => exact reported rfl
      | some delay =>
        simp only [runJob]
        split
        · rename_i none
          exact reported none
        · rename_i positive
          rw [view_setTimer_self _ _
            (show (Job.lateTick other progress none).number = other from rfl), popped]
          exact .single (.postpone first positive)
  · have same : { schedule with queue := jobs, runs := schedule.runs + 1 }.view number =
        schedule.view number := by
      simp [view, queue, own]
    rw [← same]
    cases job with
    | exchange other => exact steps_runExchange_of_ne own _
    | lateTick other progress delay =>
      rw [view_runLate_of_ne (show other ≠ number from own)]
      exact .refl

/-! ### Starting and waiting -/

theorem view_start_of_ne {schedule : Schedule} {number : Nat}
    (different : schedule.records.length ≠ number) (plan : Plan) :
    (schedule.start plan).view number = schedule.view number := by
  have same : (schedule.records ++ [⟨Exchange.start plan, []⟩])[number]? =
      schedule.records[number]? := by
    rcases Nat.lt_or_gt_of_ne different with beyond | before
    · rw [List.getElem?_eq_none (Nat.le_of_lt beyond), List.getElem?_eq_none]
      rw [List.length_append]
      exact beyond
    · exact List.getElem?_append_left before
  simp [view, start, same, Job.number, different]

theorem view_start_self (schedule : Schedule) (plan : Plan) :
    (schedule.start plan).view schedule.records.length =
      { schedule.view schedule.records.length with
        record := some ⟨.start plan, []⟩
        jobs := (schedule.view schedule.records.length).jobs ++
          [.exchange schedule.records.length] } := by
  simp [view, start, Job.number]

theorem steps_start (schedule : Schedule) (plan : Plan) (number : Nat) :
    Steps number (schedule.view number) ((schedule.start plan).view number) := by
  by_cases same : schedule.records.length = number
  · subst same
    rw [view_start_self]
    exact .single (.start plan (by simp [view]))
  · rw [view_start_of_ne same]
    exact .refl

theorem view_goOff_self (schedule : Schedule) {timer : Timer} {number : Nat}
    (own : timer.job.number = number) :
    (schedule.goOff timer).view number = (schedule.view number).goOff number timer := by
  simp only [goOff, View.goOff]
  cases job : timer.job with
  | exchange other =>
    rw [job] at own
    obtain rfl : other = number := own
    exact view_stir_self schedule other _
  | lateTick other progress delay =>
    rw [job] at own
    exact view_enqueue_self schedule own

theorem view_goOff_of_ne (schedule : Schedule) {timer : Timer} {number : Nat}
    (different : timer.job.number ≠ number) :
    (schedule.goOff timer).view number = schedule.view number := by
  simp only [goOff]
  cases job : timer.job with
  | exchange other =>
    rw [job] at different
    exact view_stir_of_ne schedule different _
  | lateTick other progress delay =>
    rw [job] at different
    exact view_enqueue_of_ne schedule different

theorem goOff_withTimers (schedule : Schedule) (timers : List Timer) (timer : Timer) :
    { schedule with timers := timers }.goOff timer =
      { schedule.goOff timer with timers := timers } := by
  simp only [goOff]
  split
  · unfold wake stir
    dsimp only
    split
    · rfl
    · split <;> rfl
  · rfl

theorem steps_goOff (schedule : Schedule) (front back : List Timer) {timer : Timer}
    (due : timer.instant = schedule.now) (first : ∀ timer ∈ front, timer.instant ≠ schedule.now)
    (number : Nat) :
    Steps number ({ schedule with timers := front ++ timer :: back }.view number)
      (({ schedule with timers := front ++ back }.goOff timer).view number) := by
  obtain ⟨instant, job⟩ := timer
  obtain rfl : instant = schedule.now := due
  by_cases own : job.number = number
  · have present : ({ schedule with
        timers := front ++ Timer.mk schedule.now job :: back }.view number).timers =
          front.filter (fun timer => timer.job.number == number) ++
            ⟨schedule.now, job⟩ :: back.filter (fun timer => timer.job.number == number) := by
      simp [view, own]
    have earliest : ∀ timer ∈ front.filter (fun timer => timer.job.number == number),
        timer.instant ≠ schedule.now := fun timer member => first timer (List.mem_filter.1 member).1
    have joined : { schedule with timers := front ++ back }.view number =
        { { schedule with timers := front ++ Timer.mk schedule.now job :: back }.view number with
          timers := front.filter (fun timer => timer.job.number == number) ++
            back.filter (fun timer => timer.job.number == number) } := by
      simp [view]
    rw [view_goOff_self _ own, joined]
    cases job with
    | exchange other =>
      obtain rfl : other = number := own
      exact .single (.ring present earliest)
    | lateTick other progress delay =>
      obtain rfl : other = number := own
      exact .single (.fall present earliest)
  · have untouched : { schedule with
        timers := front ++ Timer.mk schedule.now job :: back }.view number =
          { schedule with timers := front ++ back }.view number := by
      simp [view, own]
    rw [untouched, view_goOff_of_ne _ own]
    exact .refl

theorem steps_foldl_goOff (number instant : Nat) (timers front : List Timer) (schedule : Schedule)
    (present : schedule.now = instant) (undue : ∀ timer ∈ front, timer.instant ≠ instant) :
    Steps number ({ schedule with timers := front ++ timers }.view number)
      (((timers.filter fun timer => timer.instant == instant).foldl goOff { schedule with
        timers := front ++ timers.filter fun timer => timer.instant != instant }).view number) := by
  induction timers generalizing schedule front with
  | nil => exact .refl
  | cons timer timers ih =>
    by_cases due : timer.instant = instant
    · have first := steps_goOff schedule front timers (due.trans present.symm)
        (present.symm ▸ undue) number
      have still : (schedule.goOff timer).now = instant :=
        (now_foldl_goOff [timer] schedule).trans present
      have rest := ih front (schedule.goOff timer) still undue
      rw [goOff_withTimers] at first
      have taken : (timer :: timers).filter (fun timer => timer.instant == instant) =
          timer :: timers.filter fun timer => timer.instant == instant :=
        List.filter_cons_of_pos (by simpa using due)
      have dropped : (timer :: timers).filter (fun timer => timer.instant != instant) =
          timers.filter fun timer => timer.instant != instant :=
        List.filter_cons_of_neg (by simpa using due)
      rw [taken, dropped, List.foldl_cons, goOff_withTimers]
      exact first.trans rest
    · have rest := ih (front ++ [timer]) schedule present
        (List.forall_mem_append.2 ⟨undue, List.forall_mem_singleton.2 due⟩)
      have passed : (timer :: timers).filter (fun timer => timer.instant == instant) =
          timers.filter fun timer => timer.instant == instant :=
        List.filter_cons_of_neg (by simpa using due)
      have kept : (timer :: timers).filter (fun timer => timer.instant != instant) =
          timer :: timers.filter fun timer => timer.instant != instant :=
        List.filter_cons_of_pos (by simpa using due)
      rw [passed, kept]
      simpa using rest

theorem steps_elapse {schedule : Schedule} {limit : Nat} (queue : schedule.queue = [])
    (aside : schedule.aside = []) (later : schedule.now ≤ limit)
    (silent : ∀ timer ∈ schedule.timers, limit ≤ timer.instant)
    (number : Nat) :
    Steps number (schedule.view number) ({ schedule with now := limit }.view number) := by
  refine .single (.elapse ?_ ?_ later ?_)
  · simp [view, queue]
  · simp [view, aside]
  · intro timer member
    exact silent timer (List.mem_filter.1 member).1

theorem steps_advance {schedule : Schedule} {instant : Nat} (queue : schedule.queue = [])
    (aside : schedule.aside = []) (next : schedule.nextInstant? = some instant)
    (ahead : ∀ timer ∈ schedule.timers, schedule.now ≤ timer.instant) (number : Nat) :
    Steps number (schedule.view number) ((schedule.advance instant).view number) := by
  obtain ⟨present, least⟩ := List.min?_eq_some_iff.1 next
  obtain ⟨timer, member, rfl⟩ := List.mem_map.1 present
  have moved := steps_elapse queue aside (ahead timer member)
    (fun other member => least other.instant (List.mem_map.2 ⟨other, member, rfl⟩)) number
  exact moved.trans (steps_foldl_goOff number timer.instant schedule.timers []
    { schedule with now := timer.instant, runs := 0 } rfl nofun)

/-! ### Moves -/

/-- A move of a schedule is a few steps of each view. -/
theorem steps_move {before after : Schedule} (move : Move before after)
    (ahead : ∀ timer ∈ before.timers, before.now ≤ timer.instant) (number : Nat)
    (tidy : (before.view number).Tidy) :
    Steps number (before.view number) (after.view number) := by
  cases move with
  | start plan => exact steps_start before plan number
  | abort other => exact steps_abort before number other
  | cancel other => exact steps_cancel before number other
  | stretch => exact .refl
  | callBack => exact steps_callBack before number
  | run queue => exact steps_runJob queue number tidy
  | advance queue aside next => exact steps_advance queue aside next ahead number
  | elapse queue aside later silent => exact steps_elapse queue aside later silent number

/-- If no view of a schedule has a timer that is past, no timer is. -/
theorem ahead_of_views {schedule : Schedule}
    (reached : ∀ number, (schedule.view number).Reachable number) :
    ∀ timer ∈ schedule.timers, schedule.now ≤ timer.instant := by
  intro timer member
  exact (reached timer.job.number).ahead timer (List.mem_filter.2 ⟨member, by simp⟩)

/-- What happens to a schedule happens to each view. -/
theorem Leads.views {before after : Schedule} (leads : before.Leads after)
    (reached : ∀ number, (before.view number).Reachable number) (number : Nat) :
    Steps number (before.view number) (after.view number) := by
  induction leads generalizing number with
  | refl => exact .refl
  | tail _ move ih =>
    have views := fun number => Steps.reachable (reached number) (ih number)
    exact (ih number).trans (steps_move move (ahead_of_views views) number (views number).tidy)

theorem Reachable.view {schedule : Schedule} (reached : schedule.Reachable) (number : Nat) :
    (schedule.view number).Reachable number :=
  Steps.reachable ⟨0, .refl⟩ (Leads.views reached (fun _ => ⟨0, .refl⟩) number)

end Schedule
end HttpExchange
