import HttpExchange.Proofs.Schedule.Plans
import HttpExchange.Proofs.Schedule.Simulation

/-!
# What an exchange comes to by itself

What shows of an exchange depends on nothing but what was done to it, and when (`replays_after`).
-/

namespace HttpExchange

/-! ### Deeds -/

namespace Command

/-- How much time passes. -/
def duration : Command → Nat
  | .sleep duration => duration
  | .start _ | .abort _ | .cancel _ => 0

/-- How much time passes while commands are obeyed. -/
def length (commands : List Command) : Nat :=
  total duration commands

/-- The command does something to the exchange with a number, `started` being started before. -/
def concerns (number started : Nat) : Command → Bool
  | .start _ => started == number
  | .sleep _ => false
  | .abort request | .cancel request => request == number

/-- What is done to the exchange with a number, and when, `started` being started by `now`. -/
def deeds (number : Nat) : (started now : Nat) → List Command → List (Nat × Command)
  | _, _, [] => []
  | started, now, command :: commands =>
    let later := deeds number (started + command.plan?.toList.length) (now + command.duration)
      commands
    if command.concerns number started then (now, command) :: later else later

end Command

namespace View

/-- What is done to an exchange when it is interrupted. -/
def interrupt (number : Nat) (view : View) : View :=
  match view.record with
  | none => view
  | some record =>
    (view.stir number (·.interrupt.1)).note (.interrupted record.exchange.interrupt.2)

/-- What a command does to the exchange that it concerns. -/
def obey (number : Nat) (view : View) : Command → View
  | .start plan =>
    { view with
      record := some ⟨.start plan, []⟩
      jobs := view.jobs ++ [.exchange number] }
  | .sleep _ => view
  | .abort _ =>
    if view.record.any fun record => record.exchange.plan.hasHandle then view.interrupt number
    else view
  | .cancel _ =>
    if view.record.any fun record => record.exchange.plan.hasHandle then view
    else view.interrupt number

section

variable (number : Nat) (view : View)

theorem shown_interrupt : (view.interrupt number).shown = view.shown.interrupt number := by
  cases found : view.record with
  | none =>
    have none : view.shown.record = none := by simp [shown, found]
    simp only [interrupt, found, none]
  | some record =>
    have some : view.shown.record = some record.shown := by simp [shown, found]
    simp only [interrupt, found, some]
    rw [shown_note _ rfl, shown_stir]
    rfl

theorem shown_handled : (view.shown.record.any fun record => record.exchange.plan.hasHandle) =
    view.record.any fun record => record.exchange.plan.hasHandle := by
  cases found : view.record <;> simp [shown, found, Record.shown]

theorem shown_obey (command : Command) :
    (view.obey number command).shown = view.shown.obey number command := by
  cases command with
  | start plan => rfl
  | sleep duration => rfl
  | abort request =>
    simp only [obey, shown_handled, ← shown_interrupt]
    split <;> rfl
  | cancel request =>
    simp only [obey, shown_handled, ← shown_interrupt]
    split <;> rfl

end

/-! ### Time -/

/-- The machine runs. -/
def Runs (number limit : Nat) : View → View → Prop :=
  Relation.ReflTransGen fun before after => before.next? number limit = some after

/-- Nothing can run, and no timer goes off before `limit`. -/
structure Quiet (limit : Nat) (view : View) : Prop where
  jobs : view.jobs = []
  stayed : view.aside = false
  silent : ∀ timer ∈ view.timers, limit ≤ timer.instant

/-- Time passes for the machine, up to an instant. -/
inductive Elapses (number : Nat) : View → Nat → View → Prop where
  /-- It is there already. -/
  | none (view : View) : Elapses number view view.now view
  /-- What gave way is woken, and everything happens that happens before. -/
  | some {view last : View} {limit : Nat} (later : view.now < limit)
      (runs : Runs number limit (view.callBack number) last) (quiet : last.Quiet limit) :
      Elapses number view limit { last with now := limit }

section

variable {number limit : Nat} {view : View}

theorem Quiet.next? (quiet : view.Quiet limit) : view.next? number limit = none := by
  simp only [View.next?, quiet.jobs]
  split
  · rename_i instant next
    obtain ⟨timer, member, rfl⟩ := List.mem_map.1 (List.min?_eq_some_iff.1 next).1
    exact if_neg (Nat.not_lt.2 (quiet.silent timer member))
  · rfl

theorem Runs.unique {left right : View} (first : Runs number limit view left)
    (second : Runs number limit view right) (quiet : left.Quiet limit)
    (silent : right.Quiet limit) : left = right := by
  have stop {last after : View} (runs : Runs number limit last after) (quiet : last.Quiet limit) :
      after = last := by
    cases runs.cases_head with
    | inl same => exact same.symm
    | inr steps =>
      obtain ⟨next, step, -⟩ := steps
      cases quiet.next?.symm.trans step
  rcases Relation.ReflTransGen.total_of_right_unique
    (fun _ _ _ one other => Option.some.inj (one.symm.trans other)) first second with more | more
  · exact (stop more quiet).symm
  · exact stop more silent

theorem Elapses.unique {left right : View} (first : Elapses number view limit left)
    (second : Elapses number view limit right) : left = right := by
  cases first with
  | none =>
    cases second with
    | none => rfl
    | some later => exact absurd later (Nat.lt_irrefl _)
  | some later runs quiet =>
    cases second with
    | none => exact absurd later (Nat.lt_irrefl _)
    | some _ others silent => rw [runs.unique others quiet silent]

theorem next?_mono {more : Nat} (farther : limit ≤ more) {after : View}
    (step : view.next? number limit = some after) : view.next? number more = some after := by
  rw [next?] at step ⊢
  split at step
  · exact step
  · split at step
    · split at step
      · rename_i soon
        rw [if_pos (Nat.lt_of_lt_of_le soon farther)]
        exact step
      · cases step
    · cases step

theorem Runs.mono {more : Nat} (farther : limit ≤ more) {after : View}
    (runs : Runs number limit view after) : Runs number more view after :=
  Relation.ReflTransGen.mono (fun _ _ => next?_mono farther) _ _ runs

theorem next?_withNow (jobs : view.jobs = []) (now : Nat) :
    { view with now := now }.next? number limit = view.next? number limit := by
  cases view
  obtain rfl : _ = [] := jobs
  rfl

/-- The machine goes on from where it stopped, whatever its clock shows. -/
theorem Runs.resume {last : View} (jobs : view.jobs = []) (now : Nat)
    (runs : Runs number limit { view with now := now } last) (quiet : last.Quiet limit) :
    ∃ final : View, Runs number limit view final ∧ final.Quiet limit ∧
      { final with now := limit } = { last with now := limit } := by
  rcases runs.cases_head with same | ⟨next, step, rest⟩
  · subst same
    exact ⟨view, .refl, ⟨jobs, quiet.stayed, quiet.silent⟩, rfl⟩
  · rw [next?_withNow jobs] at step
    exact ⟨last, .head step rest, quiet, rfl⟩

/-- It makes no difference whether time passes at once or bit by bit. -/
theorem Elapses.trans {between after : View} {instant : Nat}
    (first : Elapses number view instant between) (second : Elapses number between limit after) :
    Elapses number view limit after := by
  cases first with
  | none => exact second
  | @some last _ later runs quiet =>
    cases second with
    | none => exact .some later runs quiet
    | some farther others silent =>
      have same := @callBack_of_stayed number { last with now := instant } quiet.stayed
      rw [same] at others
      obtain ⟨final, resumed, rests, reached⟩ := others.resume quiet.jobs instant silent
      rw [← reached]
      have early : instant < limit := farther
      exact .some (Nat.lt_trans later early)
        (Relation.ReflTransGen.trans (runs.mono (Nat.le_of_lt early)) resumed) rests

end

/-- Things are done to an exchange, and time passes in between. -/
inductive Replays (number : Nat) : View → List (Nat × Command) → View → Prop where
  | nil (view : View) : Replays number view [] view
  | cons {view between last : View} {instant : Nat} {command : Command}
      {deeds : List (Nat × Command)} (elapses : Elapses number view instant between)
      (replays : Replays number (between.obey number command) deeds last) :
      Replays number view ((instant, command) :: deeds) last

section

variable {number : Nat} {view : View} {deeds : List (Nat × Command)}

theorem Replays.unique {left right : View} (first : Replays number view deeds left)
    (second : Replays number view deeds right) : left = right := by
  induction first with
  | nil view =>
    cases second
    rfl
  | cons elapses _ ih =>
    cases second with
    | cons others replays =>
      rw [others.unique elapses] at replays
      exact ih replays

/-- Time that passes before the first deed passes before it also if it passes at once. -/
theorem Replays.prepend {between last after : View} {instant limit : Nat}
    (replays : Replays number between deeds last) (earlier : Elapses number view instant between)
    (later : Elapses number last limit after) :
    ∃ final, Replays number view deeds final ∧ Elapses number final limit after := by
  cases replays with
  | nil => exact ⟨view, .nil view, earlier.trans later⟩
  | cons elapses replays => exact ⟨last, .cons (earlier.trans elapses) replays, later⟩

end

end View

/-! ### In a schedule -/

namespace Schedule

open View

/-- A request that nothing aborts in the end is not aborted before either. -/
theorem Spares.of_leads {before after : Schedule} {number : Nat} (spares : after.Spares number)
    (leads : before.Leads after) (reached : before.Reachable) : before.Spares number := by
  intro other record different found
  obtain ⟨later, -, present, same, -⟩ := (leads.views reached.view other).history found
  rw [← same]
  exact spares other later different present

/-- Whatever happens of itself, the machine keeps up with it. -/
theorem keeps_beats {limit number : Nat} {before after : Schedule} {machine : View}
    (beats : Beats limit before after) (reached : before.Reachable) (spares : after.Spares number)
    (keeps : Keeps number (before.view number) machine) :
    ∃ last, Runs number limit machine last ∧ Keeps number (after.view number) last := by
  induction beats with
  | refl => exact ⟨machine, .refl, keeps⟩
  | @tail between after beats beat ih =>
    have there : between.Reachable := reached.leads (Beats.leads beats)
    have spared := spares.of_leads (.single beat.move) there
    obtain ⟨last, runs, kept⟩ := ih spared
    rcases kept.beat (there.view number) (view_beat beat there spared) with still | ⟨next, step, on⟩
    · exact ⟨last, runs, still⟩
    · exact ⟨next, runs.tail step, on⟩

/-- When a schedule has settled, the machine has come as far. -/
theorem runs_settle {schedule : Schedule} (reached : schedule.Reachable) (limit : Nat)
    {number : Nat} (spares : (schedule.settle limit).Spares number) :
    ∃ last, Runs number limit ((schedule.view number).callBack number).shown last ∧
      last.Quiet limit ∧
        { last with now := limit } =
          { ((schedule.settle limit).view number).shown with now := limit } := by
  obtain ⟨queue, aside, silent⟩ := settled schedule limit
  have beats : Beats limit schedule (schedule.settle limit) :=
    beats_steps limit schedule.work schedule
  obtain ⟨last, runs, keeps⟩ := keeps_beats beats reached spares (.level rfl)
  have jobs : ((schedule.settle limit).view number).jobs = [] := by
    rw [view, queue, List.filter_nil]
  have stayed : ((schedule.settle limit).view number).aside = false := by
    rw [view, aside, List.contains_nil]
  obtain ⟨now, rfl⟩ := keeps.quiet jobs stayed
  refine ⟨_, runs, ⟨jobs, stayed, fun timer member => ?_⟩, rfl⟩
  exact silent timer (List.mem_filter.1 member).1

/-- While time passes for a schedule, it passes for the machine. -/
theorem elapses_sleep {schedule : Schedule} (reached : schedule.Reachable) (duration : Nat)
    {number : Nat} (spares : (schedule.sleep duration).Spares number) :
    Elapses number (schedule.view number).shown (schedule.now + duration)
      ((schedule.sleep duration).view number).shown := by
  by_cases zero : duration = 0
  · subst zero
    exact .none _
  · have begun : { schedule with runs := 0 }.Reachable :=
      Relation.ReflTransGen.tail reached (.stretch schedule)
    have later : (schedule.view number).shown.now < schedule.now + duration :=
      Nat.lt_add_of_pos_right (Nat.pos_of_ne_zero zero)
    rw [sleep, if_neg zero] at spares ⊢
    obtain ⟨last, runs, quiet, same⟩ := runs_settle begun (schedule.now + duration) spares
    rw [shown_callBack] at runs
    have elapsed := Elapses.some later runs quiet
    rw [same] at elapsed
    exact elapsed

/-! ### Commands -/

theorem view_abort_self (schedule : Schedule) (number : Nat) :
    (schedule.abort number).1.view number = (schedule.view number).obey number (.abort number) := by
  cases found : schedule.records[number]? with
  | none =>
    have none : (schedule.view number).record = none := found
    simp [abort, found, View.obey, none]
  | some record =>
    have some : (schedule.view number).record = some record := found
    have interrupted := view_interrupt_self schedule number record.exchange.interrupt.2
    cases handled : record.exchange.plan.hasHandle <;>
      simp [abort, found, View.obey, some, handled, interrupted, View.interrupt]

theorem view_cancel_self (schedule : Schedule) (number : Nat) :
    (schedule.cancel number).view number =
      (schedule.view number).obey number (.cancel number) := by
  cases found : schedule.records[number]? with
  | none =>
    have none : (schedule.view number).record = none := found
    simp [cancel, found, View.obey, none, View.interrupt]
  | some record =>
    have some : (schedule.view number).record = some record := found
    have interrupted := view_interrupt_self schedule number record.exchange.interrupt.2
    cases handled : record.exchange.plan.hasHandle <;>
      simp [cancel, found, View.obey, some, handled, interrupted, View.interrupt]

/-- A command that concerns an exchange does the same to its view. -/
theorem view_obey_self {schedule : Schedule} {number : Nat} {command : Command}
    (concerns : command.concerns number schedule.records.length = true) :
    (schedule.obey command).1.view number = (schedule.view number).obey number command := by
  cases command with
  | start plan =>
    obtain rfl : schedule.records.length = number := by simpa [Command.concerns] using concerns
    exact view_start_self schedule plan
  | sleep duration => cases concerns
  | abort request =>
    obtain rfl : request = number := by simpa [Command.concerns] using concerns
    exact view_abort_self schedule request
  | cancel request =>
    obtain rfl : request = number := by simpa [Command.concerns] using concerns
    exact view_cancel_self schedule request

/-- No other command does anything to it, but time may pass. -/
theorem elapses_obey {schedule : Schedule} (reached : schedule.Reachable) {number : Nat}
    {command : Command} (ignores : command.concerns number schedule.records.length = false)
    (spares : (schedule.obey command).1.Spares number) :
    Elapses number (schedule.view number).shown (schedule.now + command.duration)
      ((schedule.obey command).1.view number).shown := by
  have still {after : Schedule} (same : after.view number = schedule.view number) :
      Elapses number (schedule.view number).shown schedule.now (after.view number).shown := by
    rw [same]
    exact .none _
  cases command with
  | start plan => exact still (view_start_of_ne (by simpa [Command.concerns] using ignores) plan)
  | sleep duration => exact elapses_sleep reached duration spares
  | abort request =>
    exact still (view_abort_of_ne schedule (by simpa [Command.concerns] using ignores))
  | cancel request =>
    exact still (view_cancel_of_ne (by simpa [Command.concerns] using ignores) schedule)

theorem length_obey {schedule : Schedule} (reached : schedule.Reachable) (command : Command) :
    (schedule.obey command).1.records.length =
      schedule.records.length + command.plan?.toList.length := by
  have same := congrArg List.length (plans_obey reached command)
  simpa [Schedule.plans] using same

theorem now_obey (schedule : Schedule) (command : Command) :
    (schedule.obey command).1.now = schedule.now + command.duration := by
  cases command with
  | start plan => rfl
  | sleep duration =>
    simp only [obey, sleep]
    split
    · rename_i zero
      simp [Command.duration, zero]
    · rfl
  | abort request => exact now_abort schedule request
  | cancel request =>
    simp only [obey, cancel]
    split
    · rfl
    · split
      · rfl
      · exact now_interrupt schedule request _

/-- What shows of an exchange after some commands is what its deeds lead to. -/
theorem replays_after {schedule : Schedule} (reached : schedule.Reachable) {number : Nat}
    (commands : List Command) (spares : (schedule.after commands).Spares number) :
    ∃ last, Replays number (schedule.view number).shown
        (Command.deeds number schedule.records.length schedule.now commands) last ∧
      Elapses number last (schedule.now + Command.length commands)
        ((schedule.after commands).view number).shown := by
  induction commands generalizing schedule with
  | nil => exact ⟨_, .nil _, .none _⟩
  | cons command commands ih =>
    have there := reached.leads (leads_obey schedule command)
    have spared : (schedule.obey command).1.Spares number :=
      spares.of_leads (leads_after _ commands) there
    obtain ⟨last, replays, later⟩ := ih there spares
    rw [length_obey reached, now_obey] at replays
    rw [now_obey, Nat.add_assoc] at later
    rw [Command.deeds]
    cases concerns : command.concerns number schedule.records.length with
    | true =>
      rw [view_obey_self concerns, shown_obey] at replays
      exact ⟨last, .cons (.none _) replays, later⟩
    | false => exact replays.prepend (elapses_obey reached concerns spared) later

end Schedule
end HttpExchange
