import HttpExchange.Proofs.Exchange.Idle
import HttpExchange.Proofs.Schedule.Waking

/-!
# How an exchange settles

A machine that runs the jobs of one exchange alone keeps up with whatever happens to it in a
schedule (`Keeps.beat`).
-/

namespace HttpExchange
namespace View

open Effect

/-! ### The machine -/

/-- The next thing to happen before `limit` to an exchange that is woken as soon as it gives way. -/
def next? (number limit : Nat) (view : View) : Option View :=
  match view.jobs with
  | job :: jobs => some (({ view with jobs := jobs }.runJob number job).callBack number).shown
  | [] =>
    match (view.timers.map Timer.instant).min? with
    | some instant => if instant < limit then some (view.advance number instant) else none
    | none => none

theorem next?_of_timer {number limit instant : Nat} {view : View} (jobs : view.jobs = [])
    (next : (view.timers.map Timer.instant).min? = some instant) (soon : instant < limit) :
    view.next? number limit = some (view.advance number instant) := by
  simp only [next?, jobs, next, if_pos soon]

/-- The clock moves to an instant of which there is no timer. -/
theorem advance_of_silent {number : Nat} {view : View} {instant : Nat}
    (none : ∀ timer ∈ view.timers, timer.instant ≠ instant) :
    view.advance number instant = { view with now := instant } := by
  have due : (view.timers.filter fun timer => timer.instant == instant) = [] := by
    simpa using none
  have later : (view.timers.filter fun timer => timer.instant != instant) = view.timers := by
    simpa using none
  rw [advance, due, later]
  rfl

theorem next?_behind (number limit : Nat) (view : View) (job : Job) :
    (view.behind job).next? number limit =
      some ((view.runJob number job).callBack number).shown := rfl

theorem shown_callBack_runJob (number : Nat) (view : View) (job : Job) :
    ((view.shown.runJob number job).callBack number).shown =
      ((view.runJob number job).callBack number).shown := by
  rw [shown_callBack, ← shown_runJob, ← shown_callBack]

theorem next?_shown_behind (number limit : Nat) (view : View) (job : Job) :
    (view.shown.behind job).next? number limit =
      some ((view.runJob number job).callBack number).shown := by
  rw [next?_behind, shown_callBack_runJob]

/-! ### Keeping up -/

/-- An exchange is still to run for nothing, which its machine has spared itself. -/
structure Stale (number : Nat) (view machine : View) (record : Record) : Prop where
  found : machine.record = some record
  idle : record.exchange.Idle machine.now
  stayed : machine.aside = false
  shown : machine.shown = machine
  /-- They agree once the exchange is woken for the machine, too. -/
  same : (view.callBack number).shown = machine.stir number Exchange.wake

/-- A machine keeps up with what happens to an exchange. -/
inductive Keeps (number : Nat) (view machine : View) : Prop where
  /-- They agree once what gave way is woken. -/
  | level (same : machine = (view.callBack number).shown)
  /-- The exchange runs once more than the machine. -/
  | stale {record : Record} (stale : Stale number view machine record)
  /-- The clock of the machine stands still as long as none of its timers goes off. -/
  | ahead {now : Nat} (jobs : view.jobs = []) (stayed : view.aside = false)
      (same : machine = { view.shown with now := now })

theorem runJob_exchange {number : Nat} {view : View} {record : Record}
    (found : view.record = some record) (other : Nat) :
    view.runJob number (.exchange other) =
      view.ran number (record.exchange.run number view.now)
        (untold (record.exchange.run number view.now).effects) := by
  simp only [runJob, found]

/-- What can follow when the next job of an exchange runs. -/
def Follows (number limit : Nat) (machine after : View) : Prop :=
  Keeps number after machine ∨
    ∃ next, machine.next? number limit = some next ∧ Keeps number after next

variable {number limit : Nat}

theorem Keeps.of_shown {view after machine : View} (keeps : Keeps number view machine)
    (same : after.shown = view.shown) : Keeps number after machine := by
  have called : (after.callBack number).shown = (view.callBack number).shown := by
    rw [shown_callBack, shown_callBack, same]
  cases keeps with
  | level level => exact .level (level.trans called.symm)
  | stale stale => exact .stale { stale with same := called.trans stale.same }
  | ahead jobs stayed ahead =>
    have queue : after.shown.jobs = view.shown.jobs := by rw [same]
    have aside : after.shown.aside = view.shown.aside := by rw [same]
    exact .ahead (queue.trans jobs) (aside.trans stayed) (same ▸ ahead)

/-- Late progress runs. -/
theorem follows_level_late {view : View} {job : Job} (late : job.isLate = true) :
    Follows number limit ((view.behind job).callBack number).shown (view.runJob number job) := by
  rw [callBack_behind, shown_behind]
  refine .inr ⟨_, next?_shown_behind number limit _ job, ?_⟩
  rw [callBack_runJob late, callBack_callBack]
  exact .level rfl

/-- An exchange that runs leaves itself idle, unless it is over, woken again or gives way. -/
theorem Reachable.idle_run {view : View} {record : Record} (reached : view.Reachable number)
    (found : view.record = some record)
    (sleeps : (record.exchange.run number view.now).exchange.wake ≠
      (record.exchange.run number view.now).exchange)
    (stays : givesWay (record.exchange.run number view.now).effects = false) :
    (record.exchange.run number view.now).exchange.Idle view.now := by
  have present : (record.exchange.run number view.now).exchange.isOver = false :=
    Bool.eq_false_iff.2 fun closed => sleeps (wake_of_over closed)
  have asleep : (record.exchange.run number view.now).exchange.woken = false :=
    Bool.eq_false_iff.2 fun woken => sleeps (wake_of_woken woken)
  have going : record.exchange.isOver = false := Exchange.present_of_run present
  exact Exchange.idle_run (reached.watched found going).steady present asleep stays

/-- If an exchange gave way before it ran and does not now, it will be woken for nothing. -/
theorem keeps_of_ran {view : View} {record : Record} {gave : Bool}
    (found : view.record = some record) (gives : gave = true → view.aside = true)
    (idle : gave = false → record.exchange.wake ≠ record.exchange →
      record.exchange.Idle view.now) :
    Keeps number view (({ view with aside := gave }).callBack number).shown := by
  cases gave with
  | true =>
    rw [withAside_eq (gives rfl)]
    exact .level rfl
  | false =>
    -- It may still be aside from before, though the machine has called it back.
    rw [callBack_of_stayed rfl]
    by_cases same : record.exchange.wake = record.exchange
    · refine .level ?_
      rw [callBack_of_same found same]
    · cases aside : view.aside with
      | true =>
        have shows : { view with aside := false }.shown.record = some record.shown :=
          congrArg (Option.map Record.shown) found
        refine .stale ⟨shows, idle rfl same, rfl, shown_shown _, ?_⟩
        rw [← shown_stir, stir_withAside number view false, callBack, if_pos aside]
      | false =>
        rw [withAside_eq aside]
        refine .level ?_
        rw [callBack_of_stayed aside]

/-- The exchange runs. -/
theorem follows_level_exchange {view : View}
    (reached : (view.behind (.exchange number)).Reachable number) :
    Follows number limit ((view.behind (.exchange number)).callBack number).shown
      (view.runJob number (.exchange number)) := by
  cases found : view.record with
  | none => simpa [behind] using (reached.tidy found).1
  | some record =>
    have woken := woken_of_queued (reached.queued found)
    have still : { view with aside := false }.record = some record := found
    have ran := (runJob_exchange still number).trans (ran_withAside number view false _ _)
    rw [callBack_behind, shown_behind, callBack_of_same found (wake_of_woken woken)]
    refine .inr ⟨_, next?_shown_behind number limit _ _, ?_⟩
    rw [ran, runJob_exchange found]
    refine keeps_of_ran (ran_record number view found _ _) ?_ ?_
    · intro gave
      rw [ran_aside]
      exact (congrArg (view.aside || ·) gave).trans (Bool.or_true _)
    · rw [ran_now]
      exact fun stays sleeps => reached.idle_run found sleeps stays

/-! ### Runs for nothing -/

section

variable {view machine : View} {record : Record}

theorem wake_of_idle {exchange : Exchange} {now : Nat} (idle : exchange.Idle now) :
    exchange.wake = { exchange with woken := true } := by
  obtain ⟨transport, deadline, waiting, -⟩ := idle.waits
  exact Exchange.wake_of_present (by simp [Exchange.isOver, waiting])

/-- An idle exchange that is woken is queued. -/
theorem stir_wake_of_asleep (found : machine.record = some record)
    (idle : record.exchange.Idle machine.now) :
    machine.stir number Exchange.wake =
      { machine with
        record := some { record with exchange := { record.exchange with woken := true } }
        jobs := machine.jobs ++ [.exchange number] } := by
  simp [stir, found, wake_of_idle idle, idle.asleep]

/-- Late progress that is reported to an idle exchange wakes it. -/
theorem woken_reportLate_of_idle {view : View} {exchange : Exchange} {rest : Record}
    {progress : Progress} {delay : Option Nat} {jobs : List Job}
    (reached : view.Reachable number) (found : view.record = some rest)
    (same : rest.exchange = exchange.wake) (idle : exchange.Idle view.now)
    (queue : view.jobs = .lateTick number progress delay :: jobs) :
    (exchange.report progress).release.woken = true := by
  obtain ⟨transport, deadline, waiting, -⟩ := idle.waits
  have present : exchange.isOver = false := by simp [Exchange.isOver, waiting]
  have going : rest.exchange.isOver = false := by
    rw [same]
    exact (Exchange.alike_wake exchange).kin.isOver.trans present
  have attends := (reached.watched found going).steady.attends
  have unheard : rest.exchange.attention ≠ .gone := by
    intro gone
    have none := attends.gone gone
    rw [late_of_reported queue] at none
    omega
  rw [same, Exchange.wake_attention] at unheard
  obtain ⟨listening, -⟩ := idle.heeds.resolve_left unheard
  exact Exchange.woken_release
    (Exchange.woken_report_of_listening present listening progress)

theorem ran_began (view : View) {exchange : Exchange} (asleep : exchange.woken = false) :
    view.ran number ⟨exchange, [.moment .began]⟩ (untold [.moment .began]) =
      { view with
        record := view.record.map fun record =>
          ⟨exchange, record.history ++ [(view.now, .began)]⟩ } := by
  have silent : lateJobs number (lateTicks [.moment .began]) = [] ∧
      givesWay [.moment .began] = false ∧ alarms number (instants [.moment .began]) = [] :=
    ⟨rfl, rfl, rfl⟩
  obtain ⟨jobs, aside, timers⟩ := silent
  rw [ran, if_neg (by simp [asleep])]
  simp only [carryOut, jobs, aside, timers, List.append_nil, Bool.or_false, Option.map_map]
  rfl

namespace Stale

/-- The exchange is the last in the queue. -/
theorem jobs {job : Job} (stale : Stale number (view.behind job) machine record) :
    machine.jobs ++ [.exchange number] = job :: (view.callBack number).jobs := by
  have jobs := congrArg View.jobs stale.same
  rw [stir_wake_of_asleep stale.found stale.idle, callBack_behind] at jobs
  exact jobs.symm

/-- Late progress that is ahead of it is in the queue of the machine, too. -/
theorem popped {job : Job} (stale : Stale number (view.behind job) machine record)
    (late : job.isLate = true) :
    ∃ rest : View, machine = rest.behind job ∧ Stale number view rest record := by
  obtain ⟨rest, rfl⟩ : ∃ rest : View, machine = rest.behind job := by
    have jobs := stale.jobs
    cases queue : machine.jobs with
    | nil =>
      rw [queue] at jobs
      obtain rfl : .exchange number = job := (List.cons.inj jobs).1
      cases late
    | cons first others =>
      rw [queue] at jobs
      obtain rfl : first = job := (List.cons.inj jobs).1
      exact ⟨_, (behind_eq queue).symm⟩
  refine ⟨rest, rfl, stale.found, stale.idle, stale.stayed, behind_inj stale.shown, ?_⟩
  have same := stale.same
  rw [stir_behind, callBack_behind, shown_behind] at same
  exact behind_inj same

/-- Late progress that is reported to it wakes it. -/
theorem woken_reported {progress : Progress} {delay : Option Nat}
    (reached : (view.behind (.lateTick number progress delay)).Reachable number)
    (stale : Stale number view machine record) :
    (record.exchange.report progress).release.woken = true := by
  have called := reached.callBack
  rw [callBack_behind] at called
  have records := congrArg View.record stale.same
  have clocks := congrArg View.now stale.same
  rw [stir_record, stale.found, View.shown] at records
  obtain ⟨own, there, told⟩ := Option.map_eq_some_iff.1 records
  rw [stir_now] at clocks
  have exchange : own.exchange = record.exchange.wake := congrArg Record.exchange told
  have idle := stale.idle
  rw [← clocks] at idle
  exact woken_reportLate_of_idle called there exchange idle rfl

theorem callBack_runJob {job : Job} (stale : Stale number view machine record)
    (late : job.isLate = true) :
    ((view.runJob number job).callBack number).shown =
      (machine.runJob number job).shown.stir number Exchange.wake := by
  rw [← View.callBack_runJob late, shown_runJob, stale.same, runJob_stir_wake late, shown_stir]

/-- Once late progress is reported, it has something to run for. -/
theorem keeps_reported {progress : Progress} {delay : Option Nat}
    (reached : (view.behind (.lateTick number progress delay)).Reachable number)
    (stale : Stale number view machine record) (due : delay.getD 0 = 0) :
    Keeps number (view.runJob number (.lateTick number progress delay))
      (machine.runJob number (.lateTick number progress delay)).shown := by
  have reports : machine.runJob number (.lateTick number progress delay) =
      machine.reportLate number progress := by
    cases delay with
    | none => rfl
    | some delay => exact if_pos due
  have told : (machine.reportLate number progress).record =
      some ⟨(record.exchange.report progress).release,
        record.history ++ [(machine.now, .event (.reported progress))]⟩ := by
    rw [reportLate_record, stale.found]
    rfl
  refine .level ?_
  rw [stale.callBack_runJob rfl, ← shown_stir, reports,
    stir_wake_of_idle told (wake_of_woken (stale.woken_reported reached))]

/-- While its delay lasts, it still runs for nothing. -/
theorem keeps_postponed {progress : Progress} {delay : Nat}
    (stale : Stale number view machine record) (positive : delay ≠ 0) :
    Keeps number (view.runJob number (.lateTick number progress (some delay)))
      (machine.runJob number (.lateTick number progress (some delay))).shown := by
  have ran := @callBack_runJob number view machine record
    (.lateTick number progress (some delay)) stale rfl
  have postponed : machine.runJob number (.lateTick number progress (some delay)) =
      { machine with
        timers := machine.timers ++ [⟨machine.now + delay, .lateTick number progress none⟩] } :=
    if_neg positive
  rw [postponed] at ran ⊢
  have shows : machine.shown.record = some record.shown :=
    congrArg (Option.map Record.shown) stale.found
  exact .stale ⟨shows, stale.idle, stale.stayed, shown_shown _, ran⟩

/-- Late progress runs, while the exchange is still to run for nothing. -/
theorem follows_late {job : Job} (reached : (view.behind job).Reachable number)
    (late : job.isLate = true) (own : job.number = number)
    (stale : Stale number (view.behind job) machine record) :
    Follows number limit machine (view.runJob number job) := by
  obtain ⟨rest, rfl, popped⟩ := stale.popped late
  have left : (rest.runJob number job).aside = false :=
    (runJob_aside late number rest).trans popped.stayed
  have next : (rest.behind job).next? number limit = some (rest.runJob number job).shown := by
    rw [next?_behind, callBack_of_stayed left]
  refine .inr ⟨_, next, ?_⟩
  cases job with
  | exchange other => cases late
  | lateTick other progress delay =>
    obtain rfl : other = number := own
    cases delay with
    | none => exact popped.keeps_reported reached rfl
    | some delay =>
      by_cases due : delay = 0
      · exact popped.keeps_reported reached due
      · exact popped.keeps_postponed due

/-- If the exchange is next, the machine has nothing to run: it is in the queue but once. -/
theorem jobs_eq_nil (reached : (view.behind (.exchange number)).Reachable number)
    (stale : Stale number (view.behind (.exchange number)) machine record) : machine.jobs = [] := by
  have jobs := stale.jobs
  cases queue : machine.jobs with
  | nil => rfl
  | cons first others =>
    rw [queue, List.cons_append] at jobs
    obtain ⟨-, rest⟩ := List.cons.inj jobs
    cases present : view.record with
    | none => simpa [behind] using (reached.tidy present).1
    | some own =>
      have once := reached.queued present
      have queued : (view.callBack number).jobs = view.jobs := by
        rw [callBack_of_same present (wake_of_woken (woken_of_queued once))]
      have least := Bool.toNat_le own.exchange.woken
      rw [Queued, behind, ← queued, ← rest] at once
      simp only [List.count_cons_self, List.count_append] at once
      omega

/-- Whether the exchange gave way again makes no difference. -/
theorem keeps_withAside (stale : Stale number view machine record) (aside : Bool) :
    Keeps number { machine with aside := aside } machine := by
  cases aside with
  | false =>
    refine .level ?_
    rw [callBack_of_stayed rfl, withAside_eq stale.stayed, stale.shown]
  | true =>
    refine .stale { stale with same := ?_ }
    have kept : (machine.stir number Exchange.wake).aside = false :=
      (stir_rest number machine _).2.2.2.trans stale.stayed
    rw [callBack, if_pos rfl, stir_withAside]
    dsimp only
    rw [withAside_eq kept, shown_stir, stale.shown]

/-- The exchange runs for nothing. -/
theorem keeps_exchange (reached : (view.behind (.exchange number)).Reachable number)
    (stale : Stale number (view.behind (.exchange number)) machine record) :
    Keeps number (view.runJob number (.exchange number)) machine := by
  have empty := stale.jobs_eq_nil reached
  cases present : view.record with
  | none => simpa [behind] using (reached.tidy present).1
  | some own =>
    have same := stale.same
    have there : (view.behind (.exchange number)).record = some own := present
    rw [callBack_of_same there (wake_of_woken (woken_of_queued (reached.queued there))),
      stir_wake_of_asleep stale.found stale.idle, empty] at same
    simp only [View.shown, behind, present, Option.map_some, View.mk.injEq, Option.some.injEq,
      List.nil_append, List.cons.injEq, true_and] at same
    obtain ⟨now, told, jobs, -, timers⟩ := same
    have woken : own.exchange = { record.exchange with woken := true } :=
      congrArg Record.exchange told
    have history : Moment.shown own.history = record.history := congrArg Record.history told
    have ran : (view.runJob number (.exchange number)).shown =
        { machine with aside := view.aside } := by
      have turn := @runJob_exchange number view own present number
      rw [woken, now, stale.idle.run_eq] at turn
      rw [turn, ran_began view stale.idle.asleep]
      simp only [View.shown, Record.shown, present, Option.map_some, Moment.shown_append, history,
        now, jobs, timers, ← empty]
      rw [Moment.shown_began, List.append_nil, ← stale.found]
    have still : { machine with aside := view.aside }.shown =
        { machine with aside := view.aside } :=
      congrArg (fun machine : View => { machine with aside := view.aside }) stale.shown
    exact (stale.keeps_withAside view.aside).of_shown (ran.trans still.symm)

end Stale

/-! ### Beats -/

theorem Keeps.callBack (keeps : Keeps number view machine) :
    Keeps number (view.callBack number) machine := by
  cases keeps with
  | level level => exact .level (by rw [level, callBack_callBack])
  | stale stale => exact .stale { stale with same := by rw [callBack_callBack, stale.same] }
  | ahead jobs stayed ahead =>
    rw [callBack_of_stayed stayed]
    exact .ahead jobs stayed ahead

theorem Keeps.run {job : Job} (keeps : Keeps number (view.behind job) machine)
    (reached : (view.behind job).Reachable number) (own : job.number = number) :
    Follows number limit machine (view.runJob number job) := by
  cases keeps with
  | level level =>
    rw [level]
    cases job with
    | exchange other =>
      obtain rfl : other = number := own
      exact follows_level_exchange reached
    | lateTick => exact follows_level_late rfl
  | stale stale =>
    cases job with
    | exchange other =>
      obtain rfl : other = number := own
      exact .inl (stale.keeps_exchange reached)
    | lateTick => exact stale.follows_late reached rfl own
  | ahead jobs => cases jobs

/-- If nothing can run, the machine is where the exchange is, but for its clock. -/
theorem Keeps.quiet (keeps : Keeps number view machine) (jobs : view.jobs = [])
    (stayed : view.aside = false) : ∃ now, machine = { view.shown with now := now } := by
  cases keeps with
  | level level =>
    rw [callBack_of_stayed stayed] at level
    exact ⟨view.now, level⟩
  | stale stale =>
    have same := stale.same
    rw [callBack_of_stayed stayed, stir_wake_of_asleep stale.found stale.idle] at same
    have queued : view.jobs = _ ++ _ := congrArg View.jobs same
    simp [jobs] at queued
  | @ahead now _ _ ahead => exact ⟨now, ahead⟩

theorem Keeps.advance (keeps : Keeps number view machine) {instant : Nat} (jobs : view.jobs = [])
    (stayed : view.aside = false) (soon : instant < limit)
    (silent : ∀ timer ∈ view.timers, instant ≤ timer.instant) :
    Follows number limit machine (view.advance number instant) := by
  obtain ⟨now, rfl⟩ := keeps.quiet jobs stayed
  by_cases due : ∃ timer ∈ view.timers, timer.instant = instant
  · obtain ⟨timer, member, here⟩ := due
    have next : (view.timers.map Timer.instant).min? = some instant := by
      refine List.min?_eq_some_iff.2 ⟨List.mem_map.2 ⟨timer, member, here⟩, ?_⟩
      exact List.forall_mem_map.2 silent
    refine .inr ⟨(view.advance number instant).shown, ?_, .level ?_⟩
    · rw [shown_advance]
      exact next?_of_timer jobs next soon
    · rw [callBack_of_stayed]
      exact (foldl_goOff_aside number _ _).trans stayed
  · rw [advance_of_silent fun timer member here => due ⟨timer, member, here⟩]
    exact .inl (.ahead jobs stayed rfl)

/-- Whatever happens to the exchange, the machine keeps up with it. -/
theorem Keeps.beat {before after : View} (keeps : Keeps number before machine)
    (reached : before.Reachable number) (beat : Beat number limit before after) :
    Follows number limit machine after := by
  cases beat with
  | still => exact .inl keeps
  | callBack => exact .inl keeps.callBack
  | @run _ job jobs queue own ran =>
    rw [← behind_eq queue] at keeps reached
    rcases keeps.run reached own with keeps | ⟨next, step, keeps⟩
    · exact .inl (keeps.of_shown ran)
    · exact .inr ⟨next, step, keeps.of_shown ran⟩
  | advance jobs stayed later soon silent => exact keeps.advance jobs stayed soon silent

end

end View
end HttpExchange
