import HttpExchange.Proofs.Ledger.Account

/-!
# What a callback receives

The callback of a request receives progress and then at most one terminal outcome; an interruption
succeeds at most once, and nothing is received after it.
-/

namespace HttpExchange

/-- The outcomes that the callback received, the oldest first. -/
def Record.outcomes (record : Record) : List Outcome :=
  record.moments.filterMap Moment.outcome?

theorem Record.not_mem_of_extend {left right : Record} {more : List (Nat × Moment)}
    {moment : Moment} (history : right.history = left.history ++ more)
    (absent : moment ∉ right.moments) : moment ∉ left.moments := by
  intro member
  rw [moments, history, List.map_append] at absent
  exact absent (List.mem_append_left _ member)

/-- The outcome of a result was received, or will be received before the run of the exchange in
which the result became known ends. -/
def ReceivedBy (result : RequestResult) (front back : List Moment) : Prop :=
  ∃ outcome answer, Outcome.ofResult? result = some outcome ∧
    (.event (.delivered false outcome answer) ∈ front ∨
      ∃ run rest, back = run ++ .event (.delivered false outcome answer) :: rest ∧
        .began ∉ run ∧ .ended ∉ run)

/-- A request has at most one terminal outcome, and has it unless it was interrupted. -/
structure Record.DeliversOnce (record : Record) : Prop where
  /-- Progress comes first, then at most one terminal outcome. -/
  shape : ∃ (ticks : List Progress) (final : Option Outcome),
    record.outcomes = ticks.map .progress ++ final.toList ∧ ∀ outcome ∈ final, outcome.isTerminal
  /-- When the exchange is over, there is a terminal outcome if no interruption succeeded. -/
  ended : record.exchange.plan.mode.Attended → record.exchange.isOver →
    ((∃ outcome ∈ record.outcomes, outcome.isTerminal) ↔ .interrupted true ∉ record.moments)
  /-- An interruption fails only after one that succeeded, or once the result is known and its
  outcome is there or on its way. -/
  late : ∀ front back, record.moments = front ++ .interrupted false :: back →
    .interrupted true ∈ front ∨ ∃ result, .resolved result ∈ front ∧
      (record.exchange.plan.mode.Attended → ReceivedBy result front back)

namespace Ledger.Accounts

variable {ledger : Ledger} {record : Record}

theorem outcomes (accounts : Accounts ledger record)
    (attended : record.exchange.plan.mode.Attended) : ∃ ticks : List Progress,
      record.outcomes = ticks.map .progress ++ ledger.stage.outcome?.toList :=
  accounts.follows.outcomes attended nofun

theorem stopped_iff (accounts : Accounts ledger record) :
    ledger.stage = .stopped ↔ .interrupted true ∈ record.moments :=
  accounts.follows.stopped_iff rfl

theorem interrupted_iff (accounts : Accounts ledger record) :
    record.exchange.interrupted = true ↔ .interrupted true ∈ record.moments :=
  accounts.fits.interrupted.trans accounts.stopped_iff

theorem isTerminal_of_outcome? {stage : Stage} {outcome : Outcome}
    (same : stage.outcome? = some outcome) : outcome.isTerminal = true := by
  cases stage with
  | concluded result => exact Outcome.isTerminal_of_ofResult? same
  | pending | stopped | resolved => cases same

/-- What is over was stopped, or the outcome of its result was received. -/
theorem outcome?_of_over (accounts : Accounts ledger record)
    (attended : record.exchange.plan.mode.Attended) (closed : record.exchange.isOver = true) :
    ledger.stage = .stopped ∨ ∃ outcome, ledger.stage.outcome? = some outcome := by
  have final := accounts.follows.final nofun (accounts.fits.closed.trans closed)
  cases stage : ledger.stage with
  | stopped => exact .inl rfl
  | concluded result =>
    obtain ⟨outcome, -, same, -⟩ := accounts.follows.mem_of_concluded attended nofun stage
    exact .inr ⟨outcome, same⟩
  | pending =>
    rw [stage] at final
    exact final.elim
  | resolved result =>
    rw [stage] at final
    exact absurd final (Stage.not_final_resolved attended result)

/-- A terminal outcome that was received is the outcome of the result. -/
theorem result_of_outcome (accounts : Accounts ledger record) {outcome : Outcome}
    (member : outcome ∈ record.outcomes) (terminal : outcome.isTerminal = true) :
    ∃ result, .resolved result ∈ record.moments ∧ Outcome.ofResult? result = some outcome := by
  by_cases attended : record.exchange.plan.mode.Attended
  · obtain ⟨ticks, outcomes⟩ := accounts.outcomes attended
    rw [outcomes, List.mem_append, Option.mem_toList] at member
    rcases member with member | same
    · obtain ⟨tick, -, rfl⟩ := List.mem_map.1 member
      cases terminal
    · cases stage : ledger.stage with
      | concluded result =>
        rw [stage] at same
        exact ⟨result, accounts.follows.mem_of_result nofun (by rw [stage]; rfl), same⟩
      | pending | stopped | resolved =>
        rw [stage] at same
        cases same
  · have none : record.outcomes = [] := accounts.follows.unattended attended
    rw [none] at member
    cases member

/-- Between two runs no result waits for its outcome to be received. -/
theorem not_resolved (accounts : Accounts ledger record)
    (attended : record.exchange.plan.mode.Attended) (result : RequestResult) :
    ledger.stage ≠ .resolved result := by
  intro resolved
  have still := accounts.still (accounts.follows.present_of_resolved attended resolved)
  rw [resolved] at still
  exact still

theorem terminal_iff (accounts : Accounts ledger record)
    (attended : record.exchange.plan.mode.Attended) (closed : record.exchange.isOver = true) :
    (∃ outcome ∈ record.outcomes, outcome.isTerminal) ↔ .interrupted true ∉ record.moments := by
  obtain ⟨ticks, outcomes⟩ := accounts.outcomes attended
  rw [← accounts.stopped_iff, outcomes]
  rcases accounts.outcome?_of_over attended closed with stopped | ⟨outcome, same⟩
  · have progress : ∀ outcome ∈ ticks.map Outcome.progress, outcome.isTerminal = false := by
      intro outcome member
      obtain ⟨tick, -, rfl⟩ := List.mem_map.1 member
      rfl
    rw [stopped]
    simp only [Stage.outcome?, Option.toList_none, List.append_nil, not_true_eq_false, iff_false]
    rintro ⟨outcome, member, terminal⟩
    simp [progress outcome member] at terminal
  · have unstopped : ledger.stage ≠ .stopped := fun stopped => by
      rw [stopped] at same
      cases same
    exact iff_of_true ⟨outcome, by simp [same], isTerminal_of_outcome? same⟩ unstopped

theorem late (accounts : Accounts ledger record) {front back : List Moment}
    (split : record.moments = front ++ .interrupted false :: back) :
    .interrupted true ∈ front ∨ ∃ result, .resolved result ∈ front ∧
      (record.exchange.plan.mode.Attended → ReceivedBy result front back) := by
  have follows := accounts.follows
  rw [split] at follows
  obtain ⟨between, earlier, later⟩ := follows.split
  cases later with
  | cons first rest =>
    cases first with
    | late decided =>
      cases stage : between.stage with
      | pending => exact absurd stage decided
      | stopped => exact .inl ((earlier.stopped_iff rfl).1 stage)
      | concluded result =>
        refine .inr ⟨result, earlier.mem_of_result nofun (by rw [stage]; rfl), fun attended => ?_⟩
        obtain ⟨outcome, answer, same, member⟩ := earlier.mem_of_concluded attended nofun stage
        exact ⟨outcome, answer, same, .inl member⟩
      | resolved result =>
        refine .inr ⟨result, earlier.mem_of_result nofun (by rw [stage]; rfl), fun attended => ?_⟩
        obtain ⟨outcome, answer, run, others, same, soon, unbegun, unended⟩ :=
          rest.concludes_soon attended stage (earlier.present_of_resolved attended stage)
            (accounts.not_resolved attended result)
        exact ⟨outcome, answer, same, .inr ⟨run, others, soon, unbegun, unended⟩⟩

theorem deliversOnce (accounts : Accounts ledger record) : record.DeliversOnce where
  shape := by
    by_cases attended : record.exchange.plan.mode.Attended
    · obtain ⟨ticks, outcomes⟩ := accounts.outcomes attended
      exact ⟨ticks, _, outcomes, fun outcome same => isTerminal_of_outcome? same⟩
    · exact ⟨[], none, accounts.follows.unattended attended, nofun⟩
  ended := accounts.terminal_iff
  late _ _ := accounts.late

end Ledger.Accounts

/-! ### Exactly once -/

/-- Every request of every schedule receives progress and at most one terminal outcome. -/
theorem delivers_exactly_once {schedule : Schedule} (reached : schedule.Reachable) {number : Nat}
    {record : Record} (found : schedule.records[number]? = some record) : record.DeliversOnce := by
  obtain ⟨ledger, accounts⟩ := Ledger.exists_accounts (reached.view number) found
  exact accounts.deliversOnce

/-- A request that reports progress is answered after three milliseconds and then aborted. -/
def answered : List Command :=
  [.start ⟨.send (.present none), "http://localhost/", .empty, 5, ⟨.raw, .post, true⟩,
    [.tick ⟨1, none⟩, .sleep 3, .respond ⟨200, [], .octets []⟩]⟩, .sleep 9, .abort 0]

theorem delivers_progress_then_success : ∃ record,
    (Schedule.initial.after answered).records[0]? = some record ∧ record.DeliversOnce ∧
      record.exchange.isOver = true ∧
      record.outcomes = [.progress ⟨1, none⟩, .success (.raw []) 3 []] :=
  ⟨_, rfl, @delivers_exactly_once _ (Schedule.reachable_after answered) 0 _ rfl, rfl, rfl⟩

theorem not_interrupted {schedule : Schedule} (reached : schedule.Reachable) {number : Nat}
    {record : Record} (found : schedule.records[number]? = some record)
    (calm : record.exchange.interrupted = false) : .interrupted true ∉ record.moments := by
  obtain ⟨ledger, accounts⟩ := Ledger.exists_accounts (reached.view number) found
  rw [← accounts.interrupted_iff, calm]
  exact nofun

/-! ### At most one interruption -/

/-- No interruption succeeded yet, and no result is known. -/
def Undecided (moments : List Moment) : Prop :=
  .interrupted true ∉ moments ∧ ∀ result, .resolved result ∉ moments

theorem undecided_iff (moments : List Moment) :
    Undecided moments ↔ ∀ moment ∈ moments, moment.decides = false := by
  refine ⟨fun undecided moment member => ?_,
    fun undecided => ⟨fun member => ?_, fun result member => ?_⟩⟩
  · cases moment with
    | interrupted success =>
      cases success with
      | false => rfl
      | true => exact absurd member undecided.1
    | resolved result => exact absurd member (undecided.2 result)
    | began | event | ended => rfl
  · cases undecided _ member
  · cases undecided _ member

/-- At most one interruption of a request succeeds, and it silences the callback for good. -/
structure Record.StopsForGood (schedule : Schedule) (number : Nat) (record : Record) : Prop where
  /-- An interruption that succeeds is the only one that does. -/
  once : ∀ front back, record.moments = front ++ .interrupted true :: back →
    .interrupted true ∉ front ∧ .interrupted true ∉ back
  /-- It succeeds unless another one did or the result is known. -/
  granted : ∀ front back success, record.moments = front ++ .interrupted success :: back →
    (success = true ↔ Undecided front)
  /-- The request is pending until an interruption succeeds or its result becomes known. -/
  pending : record.exchange.pending = true ↔ Undecided record.moments
  /-- So it is whenever the callback asks. -/
  reading : ∀ front back pending outcome answer,
    record.moments = front ++ .event (.delivered pending outcome answer) :: back →
    (pending = true ↔ Undecided front)
  /-- After an interruption that succeeds nothing is received, whatever was queued and whatever
  result was obtained. -/
  silent : ∀ front back, record.moments = front ++ .interrupted true :: back →
    ∀ pending outcome answer, .event (.delivered pending outcome answer) ∉ back
  /-- An abort through a handle answers whether the request was pending, and its answer is noted. -/
  answer : record.exchange.plan.hasHandle = true →
    (schedule.abort number).2 = some record.exchange.pending ∧
      ∃ aborted, (schedule.abort number).1.records[number]? = some aborted ∧
        aborted.moments = record.moments ++ [.interrupted record.exchange.pending]
  /-- Once it is not pending, it is never again. -/
  still : ∀ after, schedule.Leads after → ∃ later, after.records[number]? = some later ∧
    (later.exchange.pending = true → record.exchange.pending = true)

namespace Ledger.Accounts

variable {ledger : Ledger} {record : Record} {front back : List Moment}

theorem undecided_iff (accounts : Accounts ledger record) :
    record.exchange.pending = true ↔ Undecided record.moments := by
  rw [accounts.fits.pending, accounts.follows.pending_iff rfl, HttpExchange.undecided_iff]

theorem once (accounts : Accounts ledger record)
    (split : record.moments = front ++ .interrupted true :: back) :
    .interrupted true ∉ front ∧ .interrupted true ∉ back := by
  have follows := accounts.follows
  rw [split] at follows
  obtain ⟨before, after⟩ := follows.decides_once rfl rfl
  exact ⟨fun member => (nomatch before _ member), fun member => (nomatch after _ member)⟩

theorem silent (accounts : Accounts ledger record)
    (split : record.moments = front ++ .interrupted true :: back) (pending : Bool)
    (outcome : Outcome) (answer : Option Bool) :
    .event (.delivered pending outcome answer) ∉ back := by
  have follows := accounts.follows
  rw [split] at follows
  obtain ⟨between, -, later⟩ := follows.split
  cases later with
  | cons first rest =>
    cases first with
    | stopped queue closed =>
      intro member
      cases (rest.of_stopped rfl).2 _ member

/-- At any point of its history a request was pending while it was undecided. -/
theorem pending_at (accounts : Accounts ledger record) (split : record.moments = front ++ back) :
    ∃ between, (between.stage = .pending ↔ Undecided front) ∧
      Follows record.exchange.plan.mode between back ledger := by
  have follows := accounts.follows
  rw [split] at follows
  obtain ⟨between, earlier, later⟩ := follows.split
  refine ⟨between, ?_, later⟩
  rw [earlier.pending_iff rfl, HttpExchange.undecided_iff]

theorem granted (accounts : Accounts ledger record) {success : Bool}
    (split : record.moments = front ++ .interrupted success :: back) :
    success = true ↔ Undecided front := by
  obtain ⟨between, undecided, later⟩ := accounts.pending_at split
  rw [← undecided]
  cases later with
  | cons first rest =>
    cases first with
    | stopped => simp
    | late decided => simp [decided]

theorem reading (accounts : Accounts ledger record) {pending : Bool} {outcome : Outcome}
    {answer : Option Bool}
    (split : record.moments = front ++ .event (.delivered pending outcome answer) :: back) :
    pending = true ↔ Undecided front := by
  obtain ⟨between, undecided, later⟩ := accounts.pending_at split
  rw [← undecided]
  cases later with
  | cons first rest => cases first <;> simp

/-- What becomes of a request is pending only if it was before. -/
theorem pending_of_extend (accounts : Accounts ledger record) {later : Record} {last : Ledger}
    (accounted : Accounts last later) {more : List (Nat × Moment)}
    (history : later.history = record.history ++ more) (pending : later.exchange.pending = true) :
    record.exchange.pending = true := by
  obtain ⟨unstopped, unresolved⟩ := accounted.undecided_iff.1 pending
  exact accounts.undecided_iff.2 ⟨Record.not_mem_of_extend history unstopped, fun result =>
    Record.not_mem_of_extend history (unresolved result)⟩

end Ledger.Accounts

theorem Exchange.interrupt_answer (exchange : Exchange) :
    exchange.interrupt.2 = exchange.pending := by
  rw [Exchange.interrupt]
  split <;> simp_all

theorem Schedule.abort_answer {schedule : Schedule} {number : Nat} {record : Record}
    (found : schedule.records[number]? = some record)
    (handle : record.exchange.plan.hasHandle = true) :
    (schedule.abort number).2 = some record.exchange.pending ∧
      ∃ aborted, (schedule.abort number).1.records[number]? = some aborted ∧
        aborted.moments = record.moments ++ [.interrupted record.exchange.pending] := by
  have there : (schedule.view number).record = some record := found
  have noted := @View.interrupt_record number _ _ there record.exchange.interrupt.2
  rw [← Schedule.view_interrupt_self] at noted
  rw [Schedule.abort]
  simp only [found, handle, if_true, record.exchange.interrupt_answer] at noted ⊢
  exact ⟨trivial, _, noted, by simp [Record.moments]⟩

/-- Every request of every schedule is interrupted at most once and for good, and it never becomes
pending again. -/
theorem stops_for_good {schedule : Schedule} (reached : schedule.Reachable) {number : Nat}
    {record : Record} (found : schedule.records[number]? = some record) :
    record.StopsForGood schedule number := by
  obtain ⟨ledger, accounts⟩ := Ledger.exists_accounts (reached.view number) found
  refine ⟨fun _ _ => accounts.once, fun _ _ _ => accounts.granted, accounts.undecided_iff,
    fun _ _ _ _ _ => accounts.reading, fun _ _ => accounts.silent, Schedule.abort_answer found,
    fun after leads => ?_⟩
  obtain ⟨later, more, present, -, history⟩ := (leads.views reached.view number).history found
  obtain ⟨last, accounted⟩ := Ledger.exists_accounts ((reached.leads leads).view number) present
  exact ⟨later, present, accounts.pending_of_extend accounted history⟩

/-- The callback of a request aborts it at its first progress, when more is queued. -/
def silenced : List Command :=
  [.start ⟨.send (.present (some 1)), "http://localhost/", .empty, 0, ⟨.raw, .post, true⟩,
    [.tick ⟨1, none⟩, .tick ⟨2, none⟩, .sleep 3, .respond ⟨200, [], .octets []⟩]⟩, .sleep 9]

theorem stops_at_first_progress : ∃ record,
    (Schedule.initial.after silenced).records[0]? = some record ∧
      record.StopsForGood (Schedule.initial.after silenced) 0 ∧
      record.exchange.pending = false ∧ record.outcomes = [.progress ⟨1, none⟩] :=
  ⟨_, rfl, stops_for_good (Schedule.reachable_after silenced) rfl, rfl, rfl⟩

end HttpExchange
