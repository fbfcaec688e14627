import HttpExchange.Proofs.Schedule.Projection

/-!
# The plans of a schedule
-/

namespace HttpExchange

/-- The plan that a command starts. -/
def Command.plan? : Command → Option Plan
  | .start plan => some plan
  | .sleep _ | .abort _ | .cancel _ => none

/-- The plans that commands start, in order. -/
def Command.plans (commands : List Command) : List Plan :=
  commands.filterMap plan?

namespace Schedule

/-- The plans of the exchanges that were started, in order. -/
def plans (schedule : Schedule) : List Plan :=
  schedule.records.map fun record => record.exchange.plan

/-! ### The number of exchanges -/

section

variable (schedule : Schedule) (number : Nat)

theorem length_stir (change : Exchange → Exchange) :
    (schedule.stir number change).records.length = schedule.records.length := by
  rw [stir]
  split
  · rfl
  · dsimp only
    split <;> exact List.length_modify ..

theorem length_note (moment : Moment) :
    (schedule.note number moment).records.length = schedule.records.length :=
  List.length_modify ..

theorem length_foldl_wake (numbers : List Nat) :
    (numbers.foldl wake schedule).records.length = schedule.records.length := by
  induction numbers generalizing schedule with
  | nil => rfl
  | cons number numbers ih => exact (ih _).trans (length_stir schedule number _)

theorem length_interrupt (success : Bool) :
    (schedule.interrupt number success).records.length = schedule.records.length :=
  (length_note _ number _).trans (length_stir schedule number _)

theorem length_abort : (schedule.abort number).1.records.length = schedule.records.length := by
  rw [abort]
  split
  · rfl
  · split
    · exact length_interrupt schedule number _
    · rfl

theorem length_cancel : (schedule.cancel number).records.length = schedule.records.length := by
  rw [cancel]
  split
  · rfl
  · split
    · rfl
    · exact length_interrupt schedule number _

theorem length_reportLate (progress : Progress) :
    (schedule.reportLate number progress).records.length = schedule.records.length :=
  (length_stir _ number _).trans (length_note schedule number _)

theorem length_carryOut (effect : Effect) :
    (carryOut number schedule effect).records.length = schedule.records.length := by
  cases effect with
  | moment moment => exact length_note schedule number moment
  | timer instant => rfl
  | giveWay =>
    simp only [carryOut, putAside]
    split <;> rfl
  | lateTick delay progress => rfl
  | abort request => exact (length_note _ number _).trans (length_abort schedule request)

theorem length_foldl_carryOut (effects : List Effect) :
    (effects.foldl (carryOut number) schedule).records.length = schedule.records.length := by
  induction effects generalizing schedule with
  | nil => rfl
  | cons effect effects ih => exact (ih _).trans (length_carryOut schedule number effect)

theorem length_runExchange :
    (schedule.runExchange number).records.length = schedule.records.length := by
  rw [runExchange]
  split
  · rfl
  · dsimp only
    split <;> exact (length_foldl_carryOut _ _ _).trans (List.length_modify ..)

theorem length_runJob (job : Job) :
    (schedule.runJob job).records.length = schedule.records.length := by
  simp only [runJob]
  split
  · exact length_runExchange schedule _
  · exact length_reportLate schedule _ _
  · split
    · exact length_reportLate schedule _ _
    · rfl

theorem length_foldl_goOff (timers : List Timer) :
    (timers.foldl goOff schedule).records.length = schedule.records.length := by
  induction timers generalizing schedule with
  | nil => rfl
  | cons timer timers ih =>
    refine (ih _).trans ?_
    rw [goOff]
    split
    · exact length_stir _ _ _
    · rfl

end

theorem Beats.length {limit : Nat} {before after : Schedule} (beats : Beats limit before after) :
    after.records.length = before.records.length := by
  induction beats with
  | refl => rfl
  | tail _ beat ih =>
    rw [← ih]
    cases beat with
    | callBack => exact length_foldl_wake _ _
    | run => exact length_runJob _ _
    | advance => exact length_foldl_goOff _ _

theorem length_sleep (schedule : Schedule) (duration : Nat) :
    (schedule.sleep duration).records.length = schedule.records.length := by
  rw [sleep]
  split
  · rfl
  · exact (beats_steps _ _ { schedule with runs := 0 }).length

/-! ### Their plans -/

/-- Nothing changes a plan. -/
theorem Leads.plans {before after : Schedule} (leads : before.Leads after)
    (reached : before.Reachable) (length : after.records.length = before.records.length) :
    after.plans = before.plans := by
  refine List.ext_getElem? fun number => ?_
  simp only [Schedule.plans, List.getElem?_map]
  cases found : before.records[number]? with
  | some record =>
    obtain ⟨later, -, present, same, -⟩ := (leads.views reached.view number).history found
    change after.records[number]? = some later at present
    rw [present, Option.map_some, Option.map_some, same]
  | none =>
    have beyond := List.getElem?_eq_none_iff.1 found
    rw [← length] at beyond
    rw [List.getElem?_eq_none beyond]

theorem plans_obey {schedule : Schedule} (reached : schedule.Reachable) (command : Command) :
    (schedule.obey command).1.plans = schedule.plans ++ command.plan?.toList := by
  have leads := leads_obey schedule command
  cases command with
  | start plan => simp [obey, start, Schedule.plans, Command.plan?, Exchange.start]
  | sleep duration =>
    exact (leads.plans reached (length_sleep _ _)).trans (List.append_nil _).symm
  | abort request =>
    exact (leads.plans reached (length_abort _ _)).trans (List.append_nil _).symm
  | cancel request =>
    exact (leads.plans reached (length_cancel _ _)).trans (List.append_nil _).symm

theorem plans_after_of_reachable {schedule : Schedule} (reached : schedule.Reachable)
    (commands : List Command) :
    (schedule.after commands).plans = schedule.plans ++ Command.plans commands := by
  induction commands generalizing schedule with
  | nil => exact (List.append_nil _).symm
  | cons command commands ih =>
    rw [after_cons, ih (reached.leads (leads_obey schedule command)), plans_obey reached,
      List.append_assoc, Command.plans, Command.plans]
    cases started : command.plan? <;> simp [started]

/-- The plans of a schedule are those that were started. -/
theorem plans_after (commands : List Command) :
    (initial.after commands).plans = Command.plans commands :=
  plans_after_of_reachable .refl commands

end Schedule
end HttpExchange
