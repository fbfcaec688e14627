import HttpExchange.Proofs.Exchange.Rounds
import HttpExchange.Proofs.Schedule.Sleeping
import HttpExchange.Proofs.Schedule.Work

/-!
# No exchange spins

A round of the loop takes a tick from the queue or is the last, every run is paid for out of the
script, and what hangs without a sink waits for its deadline.
-/

namespace HttpExchange

open Exchange View

/-- The loop of an exchange ends, and so do its runs. -/
structure NeverSpins (schedule : Schedule) (number : Nat) (record : Record) : Prop where
  /-- A run is the loop. -/
  loops : record.exchange.isOver = false → ∃ rounds polls turn,
    Loops number schedule.now fullAllowance { record.exchange with woken := false } rounds polls
      turn
  /-- It makes at most one round for each tick that was queued when it began, and one more, and it
  polls the transport at most once. -/
  rounds : record.exchange.isOver = false → ∀ rounds polls turn,
    Loops number schedule.now fullAllowance { record.exchange with woken := false } rounds polls
      turn → record.exchange.run number schedule.now = turn.after [.moment .began] ∧
        rounds ≤ record.exchange.ticks.length + 1 ∧ polls ≤ 1
  /-- The script bounds the runs of the exchange and the work that is left. -/
  runs : record.runs + (schedule.view number).work ≤
    stepWork * (record.exchange.plan.script.length + 1)
  /-- That work pays for all the runs that follow, whatever happens. -/
  spends : ∀ after later, schedule.Leads after → after.records[number]? = some later →
    later.runs + (after.view number).work ≤ record.runs + (schedule.view number).work
  /-- If the transport hangs and no sink is left, the exchange runs no more in any later instant
  before its deadline, unless it is interrupted. -/
  hangs : ∀ transport deadline, record.exchange.phase = .waiting transport deadline →
    transport.wait = .forever → record.exchange.sinks = 0 →
    ∀ after later, schedule.Leads after → after.records[number]? = some later →
      later.exchange.interrupted = false →
      (∀ set, deadline = some set → after.now < set.instant) →
        later.exchange.isOver = false ∧
          ∀ instant, (instant, .began) ∈ later.history → instant ≤ schedule.now
  /-- It does not wait any longer than until its deadline. -/
  expires : ∀ transport set, record.exchange.phase = .waiting transport (some set) →
    ∀ after later, schedule.Leads after → after.records[number]? = some later →
      later.exchange.isOver = false → after.now ≤ set.instant

section

variable {schedule after : Schedule} {number : Nat} {record later : Record}

/-- An exchange without a sink whose transport hangs is dormant before its deadline. -/
theorem dormant_of_hanging {exchange : Exchange} {transport : Transport}
    {deadline : Option Deadline} {limit : Nat}
    (waiting : exchange.phase = .waiting transport deadline)
    (hanging : transport.wait = .forever) (closed : exchange.sinks = 0)
    (early : ∀ set, deadline = some set → limit ≤ set.instant) : exchange.Dormant limit := by
  refine ⟨closed, ⟨transport, deadline, waiting, by rw [hanging]; exact Wait.noConfusion⟩, ?_⟩
  rintro instant ⟨other, last, same, clock | due⟩
  · cases waiting.symm.trans same
    cases hanging.symm.trans clock
  · cases waiting.symm.trans same
    obtain ⟨set, known, rfl⟩ := Option.map_eq_some_iff.1 due
    exact early set known

theorem sleeps_of_hanging {transport : Transport} {deadline : Option Deadline}
    (reached : schedule.Reachable) (found : schedule.records[number]? = some record)
    (waiting : record.exchange.phase = .waiting transport deadline)
    (hanging : transport.wait = .forever) (closed : record.exchange.sinks = 0)
    (leads : schedule.Leads after) (there : after.records[number]? = some later)
    (calm : later.exchange.interrupted = false)
    (early : ∀ set, deadline = some set → after.now < set.instant) :
    Sleeps schedule.now (after.now + 1) (after.view number) later :=
  leads.sleeps reached found
    ⟨dormant_of_hanging waiting hanging closed early,
      fun instant member => (reached.view number).past found (instant, .began) member,
      fun past => absurd past (Nat.lt_irrefl _)⟩
    there (Nat.lt_succ_self _) (not_interrupted (reached.leads leads) there calm)

theorem expires_of_waiting {transport : Transport} {set : Deadline} (reached : schedule.Reachable)
    (found : schedule.records[number]? = some record)
    (waiting : record.exchange.phase = .waiting transport (some set))
    (leads : schedule.Leads after) (there : after.records[number]? = some later)
    (present : later.exchange.isOver = false) : after.now ≤ set.instant := by
  obtain ⟨next, last, phase, same⟩ :=
    (leads.views reached.view number).deadline found waiting there present
  obtain ⟨due, rfl, instant⟩ := Option.map_eq_some_iff.1 same
  rw [← instant]
  exact ((((reached.leads leads).view number).watched there present).steady.deadline next due
    phase).1

end

/-- In every reachable schedule the loop of an exchange makes few rounds and its runs are numbered,
whatever its transport does and whoever aborts it.  While its transport hangs and no sink is left it
does not run. -/
theorem never_spins {schedule : Schedule} (reached : schedule.Reachable) {number : Nat}
    {record : Record} (found : schedule.records[number]? = some record) :
    NeverSpins schedule number record := by
  have exists_loops (present : record.exchange.isOver = false) :=
    exists_loops_run present (fun fresh =>
      (((reached.view number).watched found present).steady.fresh fresh).2) number schedule.now
  refine ⟨fun present => ?_, fun present rounds polls turn loops => ?_,
    reached.runs_add_work_le found, fun after later leads there => ?_, ?_, ?_⟩
  · obtain ⟨rounds, polls, turn, loops, -⟩ := exists_loops present
    exact ⟨rounds, polls, turn, loops⟩
  · obtain ⟨_, _, _, same, ran⟩ := exists_loops present
    obtain ⟨-, -, rfl⟩ := loops.unique same
    exact ⟨ran, loops.rounds_le, loops.polls_le⟩
  · have spends := leads.spends reached found
    rw [View.Spends, View.runs, View.runs] at spends
    have before : (schedule.view number).record = some record := found
    have now : (after.view number).record = some later := there
    rw [before, now] at spends
    exact spends
  · intro transport deadline waiting hanging closed after later leads there calm early
    have sleeps := sleeps_of_hanging reached found waiting hanging closed leads there calm early
    exact ⟨sleeps.dormant.present, sleeps.still⟩
  · intro transport set waiting after later leads there present
    exact expires_of_waiting reached found waiting leads there present

/-- A transport reports progress twice, gives its sink up and hangs. -/
def stuck : List Command :=
  [.start ⟨.send (.present none), "http://localhost/", .empty, 5, ⟨.raw, .post, true⟩,
    [.tick ⟨1, none⟩, .tick ⟨2, none⟩, .dropSink, .hang]⟩, .sleep 3]

theorem hanging_request_waits : ∃ record transport,
    (Schedule.initial.after stuck).records[0]? = some record ∧
      NeverSpins (Schedule.initial.after stuck) 0 record ∧
      record.exchange.phase = .waiting transport (some ⟨5, true⟩) ∧
      transport.wait = .forever ∧ record.exchange.sinks = 0 ∧ record.runs = 2 :=
  ⟨_, _, rfl, @never_spins _ (Schedule.reachable_after stuck) 0 _ rfl, rfl, rfl, rfl, rfl⟩

end HttpExchange
