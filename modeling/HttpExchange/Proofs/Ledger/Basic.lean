import HttpExchange.Proofs.Exchange.Moments

/-!
# The ledger of an exchange

What may happen to an exchange, and in which order, is the language of a small machine, which knows
nothing of transports, timers, wakes and allowances.
-/

namespace HttpExchange

theorem filterMap_cons_toList {α β : Type} (choose : α → Option β) (first : α) (rest : List α) :
    (first :: rest).filterMap choose = (choose first).toList ++ rest.filterMap choose := by
  cases chosen : choose first <;> simp [chosen]

/-- A callback receives the outcomes. -/
def Mode.Attended : Mode → Prop
  | .send (.attentive _) => True
  | .send .absent | .fetch => False

/-- How far an exchange got. -/
inductive Stage where
  /-- It can be interrupted. -/
  | pending
  /-- It was interrupted. -/
  | stopped
  /-- Its result is known. -/
  | resolved (result : RequestResult)
  /-- Its result was handed over. -/
  | concluded (result : RequestResult)

namespace Stage

/-- No result is known. -/
def Open : Stage → Prop
  | pending | stopped => True
  | resolved _ | concluded _ => False

/-- Nothing more is to be handed over. -/
def Final (mode : Mode) : Stage → Prop
  | pending => False
  | stopped | concluded _ => True
  | resolved _ => mode = .send .absent

theorem not_final_resolved {mode : Mode} (attended : mode.Attended) (result : RequestResult) :
    ¬ (resolved result).Final mode := by
  rintro rfl
  exact attended.elim

/-- The result that is known. -/
def result? : Stage → Option RequestResult
  | pending | stopped => none
  | resolved result | concluded result => some result

/-- The outcome that was handed over. -/
def outcome? : Stage → Option Outcome
  | concluded result => Outcome.ofResult? result
  | pending | stopped | resolved _ => none

end Stage

/-- The state of an exchange as far as its callback and its handles can tell. -/
structure Ledger where
  /-- How far it got. -/
  stage : Stage
  /-- Progress that was reported and not received. -/
  queue : List Progress
  /-- Its last run ended. -/
  closed : Bool

namespace Ledger

/-- The ledger of an exchange that was just started. -/
def start : Ledger := ⟨.pending, [], false⟩

/-- One entry of a ledger. -/
inductive Takes (mode : Mode) : Ledger → Moment → Ledger → Prop where
  /-- A run begins, unless the result is known. -/
  | began {stage : Stage} {queue : List Progress} (still : stage.Open) :
      Takes mode ⟨stage, queue, false⟩ .began ⟨stage, queue, false⟩
  /-- The transport is called. -/
  | called (ledger : Ledger) (request : Request) (progress : Bool) :
      Takes mode ledger (.event (.called request progress)) ledger
  /-- The transport aborts some request. -/
  | aborting (ledger : Ledger) (answer : Option Bool) :
      Takes mode ledger (.event (.aborting answer)) ledger
  /-- Progress is queued, unless the result is known. -/
  | reported {stage : Stage} (still : stage.Open) (queue : List Progress) (progress : Progress) :
      Takes mode ⟨stage, queue, false⟩ (.event (.reported progress))
        ⟨stage, queue ++ [progress], false⟩
  /-- Progress is discarded. -/
  | discarded (stage : Stage) (queue : List Progress) (progress : Progress) :
      Takes mode ⟨stage, queue, true⟩ (.event (.reported progress)) ⟨stage, queue, true⟩
  /-- Progress is received while the exchange is pending. -/
  | tick (attended : mode.Attended) (progress : Progress) (queue : List Progress)
      (answer : Option Bool) :
      Takes mode ⟨.pending, progress :: queue, false⟩
        (.event (.delivered true (.progress progress) answer)) ⟨.pending, queue, false⟩
  /-- Progress that was queued when the result became known is received before the result. -/
  | lastTick (attended : mode.Attended) (result : RequestResult) (progress : Progress)
      (queue : List Progress) (answer : Option Bool) :
      Takes mode ⟨.resolved result, progress :: queue, false⟩
        (.event (.delivered false (.progress progress) answer)) ⟨.resolved result, queue, false⟩
  /-- The outcome of the result is received, when no progress is left. -/
  | outcome (attended : mode.Attended) {result : RequestResult} {outcome : Outcome}
      (same : Outcome.ofResult? result = some outcome) (answer : Option Bool) :
      Takes mode ⟨.resolved result, [], false⟩ (.event (.delivered false outcome answer))
        ⟨.concluded result, [], false⟩
  /-- The result of a fetch is handed over. -/
  | finished (fetch : mode = .fetch) (result : RequestResult) (queue : List Progress) :
      Takes mode ⟨.resolved result, queue, false⟩ (.event (.finished result))
        ⟨.concluded result, queue, false⟩
  /-- An interruption succeeds. -/
  | stopped (queue : List Progress) (closed : Bool) :
      Takes mode ⟨.pending, queue, closed⟩ (.interrupted true) ⟨.stopped, queue, closed⟩
  /-- An interruption comes too late. -/
  | late {ledger : Ledger} (decided : ledger.stage ≠ .pending) :
      Takes mode ledger (.interrupted false) ledger
  /-- The result becomes known. -/
  | resolved (result : RequestResult) (queue : List Progress) :
      Takes mode ⟨.pending, queue, false⟩ (.resolved result) ⟨.resolved result, queue, false⟩
  /-- The last run ends. -/
  | ended {stage : Stage} (final : stage.Final mode) (queue : List Progress) :
      Takes mode ⟨stage, queue, false⟩ .ended ⟨stage, queue, true⟩

/-- Entries of a ledger, one after the other. -/
inductive Follows (mode : Mode) : Ledger → List Moment → Ledger → Prop where
  | nil (ledger : Ledger) : Follows mode ledger [] ledger
  | cons {before between after : Ledger} {moment : Moment} {moments : List Moment}
      (first : Takes mode before moment between) (rest : Follows mode between moments after) :
      Follows mode before (moment :: moments) after

namespace Takes

variable {mode : Mode} {before after : Ledger} {moment : Moment}

theorem decided (takes : Takes mode before moment after) (past : before.stage ≠ .pending) :
    after.stage ≠ .pending ∧ moment.decides = false := by
  cases takes <;> simp_all [Moment.decides]

theorem pending_iff (takes : Takes mode before moment after) (pending : before.stage = .pending) :
    after.stage = .pending ↔ moment.decides = false := by
  cases takes <;> simp_all [Moment.decides]

/-- Once it is stopped, a ledger takes nothing that the callback receives. -/
theorem of_stopped (takes : Takes mode before moment after) (stopped : before.stage = .stopped) :
    after.stage = .stopped ∧ moment.outcome? = none := by
  cases takes <;> simp_all [Moment.outcome?]

/-- Nor does it once it is concluded. -/
theorem of_concluded {result : RequestResult} (takes : Takes mode before moment after)
    (concluded : before.stage = .concluded result) :
    after.stage = .concluded result ∧ moment.outcome? = none := by
  cases takes <;> simp_all [Moment.outcome?]

theorem final (takes : Takes mode before moment after)
    (closed : before.closed = true → before.stage.Final mode) :
    after.closed = true → after.stage.Final mode := by
  cases takes <;> simp_all [Stage.Final]

theorem result? (takes : Takes mode before moment after) :
    after.stage.result? = before.stage.result? ∨
      ∃ result, moment = .resolved result ∧ after.stage.result? = some result := by
  cases takes <;> simp [Stage.result?]

/-- The callback receives nothing, or progress, or the outcome with which a ledger concludes. -/
theorem outcome? (takes : Takes mode before moment after) (attended : mode.Attended)
    (unconcluded : ∀ result, before.stage ≠ .concluded result) :
    (∀ result, after.stage ≠ .concluded result) ∧
        (moment.outcome? = none ∨ ∃ tick, moment.outcome? = some (.progress tick)) ∨
      ∃ result outcome, after.stage = .concluded result ∧
        Outcome.ofResult? result = some outcome ∧ moment.outcome? = some outcome := by
  cases takes with
  | outcome _ same answer => exact .inr ⟨_, _, rfl, same, rfl⟩
  | finished fetch result queue =>
    subst fetch
    exact attended.elim
  | _ => simp_all [Moment.outcome?]

theorem unattended (takes : Takes mode before moment after) (absent : ¬ mode.Attended) :
    moment.outcome? = none := by
  cases takes <;> first | rfl | contradiction

/-- A ledger that is resolved and not over concludes before it takes anything but leftovers. -/
theorem of_resolved {result : RequestResult} (takes : Takes mode before moment after)
    (attended : mode.Attended) (resolved : before.stage = .resolved result)
    (present : before.closed = false) :
    (after.stage = .resolved result ∧ after.closed = false ∧ moment ≠ .began ∧ moment ≠ .ended) ∨
      ∃ outcome answer, Outcome.ofResult? result = some outcome ∧
        moment = .event (.delivered false outcome answer) := by
  cases takes with
  | outcome _ same answer =>
    obtain rfl : _ = result := by simpa using resolved
    exact .inr ⟨_, answer, same, rfl⟩
  | finished fetch result queue =>
    subst fetch
    exact attended.elim
  | began still =>
    subst resolved
    exact still.elim
  | ended final queue =>
    subst resolved
    obtain rfl := final
    exact attended.elim
  | _ => simp_all

theorem over_iff (takes : Takes mode before moment after) :
    after.closed = true ↔ before.closed = true ∨ moment.isEnd = true := by
  cases takes <;> simp [Moment.isEnd]

/-- No progress is left when a ledger concludes. -/
theorem queue_of_concluded (takes : Takes mode before moment after) (attended : mode.Attended)
    (drained : ∀ result, before.stage = .concluded result → before.queue = []) :
    ∀ result, after.stage = .concluded result → after.queue = [] := by
  cases takes with
  | finished fetch result queue =>
    subst fetch
    exact attended.elim
  | reported still queue progress =>
    rintro result rfl
    exact still.elim
  | _ => simp_all

/-- What is over takes no progress and hands none over. -/
theorem of_over (takes : Takes mode before moment after) (closed : before.closed = true) :
    after.closed = true ∧ after.queue = before.queue ∧ moment.receipt? = none := by
  cases takes <;> simp_all [Moment.receipt?]

/-- Progress is queued when it is reported, and received from the queue in order. -/
theorem balance (takes : Takes mode before moment after) (present : before.closed = false) :
    before.queue ++ moment.report?.toList = moment.receipt?.toList ++ after.queue ∧
      after.closed = moment.isEnd := by
  cases takes with
  | outcome attended same answer =>
    rw [Moment.receipt?_of_isTerminal (Outcome.isTerminal_of_ofResult? same)]
    exact ⟨rfl, rfl⟩
  | _ => simp_all [Moment.report?, Moment.receipt?, Moment.isEnd]

end Takes

namespace Follows

variable {mode : Mode} {before between after : Ledger} {moments front back : List Moment}

theorem single {moment : Moment} (takes : Takes mode before moment after) :
    Follows mode before [moment] after :=
  .cons takes (.nil after)

theorem append (first : Follows mode before front between)
    (last : Follows mode between back after) : Follows mode before (front ++ back) after := by
  induction first with
  | nil => exact last
  | cons takes _ ih => exact .cons takes (ih last)

theorem split (follows : Follows mode before (front ++ back) after) :
    ∃ between, Follows mode before front between ∧ Follows mode between back after := by
  induction front generalizing before with
  | nil => exact ⟨before, .nil before, follows⟩
  | cons moment front ih =>
    cases follows with
    | cons first rest =>
      obtain ⟨between, earlier, later⟩ := ih rest
      exact ⟨between, .cons first earlier, later⟩

/-! ### Decisions -/

/-- What is decided stays decided, and nothing decides it again. -/
theorem decided (follows : Follows mode before moments after) (past : before.stage ≠ .pending) :
    after.stage ≠ .pending ∧ ∀ moment ∈ moments, moment.decides = false := by
  induction follows with
  | nil => exact ⟨past, nofun⟩
  | cons first rest ih =>
    obtain ⟨still, quiet⟩ := first.decided past
    obtain ⟨last, silent⟩ := ih still
    exact ⟨last, List.forall_mem_cons.2 ⟨quiet, silent⟩⟩

/-- An exchange is pending until something decides it. -/
theorem pending_iff (follows : Follows mode before moments after)
    (pending : before.stage = .pending) :
    after.stage = .pending ↔ ∀ moment ∈ moments, moment.decides = false := by
  induction follows with
  | nil => simp [pending]
  | @cons before between after moment moments first rest ih =>
    rw [List.forall_mem_cons, ← first.pending_iff pending]
    by_cases still : between.stage = .pending
    · rw [ih still]
      simp [still]
    · simp [still, (rest.decided still).1]

/-- What decides an exchange is the only moment that does. -/
theorem decides_once {moment : Moment}
    (follows : Follows mode before (front ++ moment :: back) after)
    (pending : before.stage = .pending) (decides : moment.decides = true) :
    (∀ other ∈ front, other.decides = false) ∧ ∀ other ∈ back, other.decides = false := by
  obtain ⟨between, earlier, later⟩ := follows.split
  cases later with
  | @cons _ next _ _ _ first rest =>
    by_cases still : between.stage = .pending
    · have decided : next.stage ≠ .pending := fun still' => by
        cases decides.symm.trans ((first.pending_iff still).1 still')
      exact ⟨(earlier.pending_iff pending).1 still, (rest.decided decided).2⟩
    · cases decides.symm.trans (first.decided still).2

/-- Nothing is received once the ledger is stopped. -/
theorem of_stopped (follows : Follows mode before moments after)
    (stopped : before.stage = .stopped) :
    after.stage = .stopped ∧ ∀ moment ∈ moments, moment.outcome? = none := by
  induction follows with
  | nil => exact ⟨stopped, nofun⟩
  | cons first rest ih =>
    obtain ⟨still, quiet⟩ := first.of_stopped stopped
    obtain ⟨last, silent⟩ := ih still
    exact ⟨last, List.forall_mem_cons.2 ⟨quiet, silent⟩⟩

theorem of_concluded {result : RequestResult} (follows : Follows mode before moments after)
    (concluded : before.stage = .concluded result) :
    after.stage = .concluded result ∧ ∀ moment ∈ moments, moment.outcome? = none := by
  induction follows with
  | nil => exact ⟨concluded, nofun⟩
  | cons first rest ih =>
    obtain ⟨still, quiet⟩ := first.of_concluded concluded
    obtain ⟨last, silent⟩ := ih still
    exact ⟨last, List.forall_mem_cons.2 ⟨quiet, silent⟩⟩

/-- What is over is final. -/
theorem final (follows : Follows mode before moments after)
    (closed : before.closed = true → before.stage.Final mode) :
    after.closed = true → after.stage.Final mode := by
  induction follows with
  | nil => exact closed
  | cons first rest ih => exact ih (first.final closed)

/-- A ledger with a callback that is resolved is not over. -/
theorem present_of_resolved {result : RequestResult} (follows : Follows mode start moments after)
    (attended : mode.Attended) (resolved : after.stage = .resolved result) :
    after.closed = false := by
  cases closed : after.closed with
  | false => rfl
  | true =>
    have final := follows.final nofun closed
    rw [resolved] at final
    exact absurd final (Stage.not_final_resolved attended result)

/-! ### Where a stage comes from -/

theorem mem_of_stopped (follows : Follows mode before moments after)
    (unstopped : before.stage ≠ .stopped) (stopped : after.stage = .stopped) :
    .interrupted true ∈ moments := by
  induction follows with
  | nil => exact absurd stopped unstopped
  | @cons before between after moment moments first rest ih =>
    by_cases already : between.stage = .stopped
    · cases first <;> simp_all
    · exact List.mem_cons_of_mem _ (ih already stopped)

/-- A ledger is stopped by the interruption that succeeds. -/
theorem stopped_iff (follows : Follows mode before moments after)
    (pending : before.stage = .pending) :
    after.stage = .stopped ↔ .interrupted true ∈ moments := by
  refine ⟨follows.mem_of_stopped (by simp [pending]), fun member => ?_⟩
  obtain ⟨front, back, rfl⟩ := List.append_of_mem member
  obtain ⟨between, -, later⟩ := follows.split
  cases later with
  | cons first rest =>
    cases first
    exact (rest.of_stopped rfl).1

theorem mem_of_result {result : RequestResult} (follows : Follows mode before moments after)
    (unknown : before.stage.result? ≠ some result) (known : after.stage.result? = some result) :
    .resolved result ∈ moments := by
  induction follows with
  | nil => exact absurd known unknown
  | @cons before between after moment moments first rest ih =>
    by_cases already : between.stage.result? = some result
    · rcases first.result? with same | ⟨new, rfl, same⟩
      · exact absurd (same.symm.trans already) unknown
      · obtain rfl : new = result := Option.some.inj (same.symm.trans already)
        exact List.mem_cons_self
    · exact List.mem_cons_of_mem _ (ih already known)

/-- A ledger concludes with the outcome of its result. -/
theorem mem_of_concluded {result : RequestResult} (follows : Follows mode before moments after)
    (attended : mode.Attended) (unconcluded : before.stage ≠ .concluded result)
    (concluded : after.stage = .concluded result) :
    ∃ outcome answer, Outcome.ofResult? result = some outcome ∧
      .event (.delivered false outcome answer) ∈ moments := by
  induction follows with
  | nil => exact absurd concluded unconcluded
  | @cons before between after moment moments first rest ih =>
    by_cases already : between.stage = .concluded result
    · cases first with
      | outcome attended same answer =>
        obtain rfl : _ = result := by simpa using already
        exact ⟨_, answer, same, List.mem_cons_self⟩
      | finished fetch result queue =>
        subst fetch
        exact attended.elim
      | _ => simp_all
    · obtain ⟨outcome, answer, same, member⟩ := ih already concluded
      exact ⟨outcome, answer, same, List.mem_cons_of_mem _ member⟩

/-- A ledger that is resolved and not over concludes in the run in which it is, if it ever does. -/
theorem concludes_soon {result : RequestResult} (follows : Follows mode before moments after)
    (attended : mode.Attended) (resolved : before.stage = .resolved result)
    (present : before.closed = false) (final : after.stage ≠ .resolved result) :
    ∃ outcome answer run rest, Outcome.ofResult? result = some outcome ∧
      moments = run ++ .event (.delivered false outcome answer) :: rest ∧
      .began ∉ run ∧ .ended ∉ run := by
  induction follows with
  | nil => exact absurd resolved final
  | @cons before between after moment moments first rest ih =>
    rcases first.of_resolved attended resolved present with
      ⟨still, there, unbegun, unended⟩ | ⟨outcome, answer, same, rfl⟩
    · obtain ⟨outcome, answer, run, others, same, rfl, began, ended⟩ := ih still there final
      exact ⟨outcome, answer, moment :: run, others, same, rfl,
        by simp [unbegun.symm, began], by simp [unended.symm, ended]⟩
    · exact ⟨outcome, answer, [], moments, same, rfl, nofun, nofun⟩

/-! ### What the callback receives -/

/-- The callback receives progress, and then the outcome that was handed over, if there was one. -/
theorem outcomes (follows : Follows mode before moments after) (attended : mode.Attended)
    (unconcluded : ∀ result, before.stage ≠ .concluded result) :
    ∃ ticks : List Progress, moments.filterMap Moment.outcome? =
      ticks.map .progress ++ after.stage.outcome?.toList := by
  induction follows with
  | nil ledger =>
    have nothing : ledger.stage.outcome? = none := by
      cases stage : ledger.stage with
      | concluded result => exact absurd stage (unconcluded result)
      | _ => rfl
    exact ⟨[], by simp [nothing]⟩
  | @cons before between after moment moments first rest ih =>
    rcases first.outcome? attended unconcluded with ⟨still, none | ⟨tick, some⟩⟩ |
      ⟨result, outcome, concluded, same, some⟩
    · obtain ⟨ticks, rest⟩ := ih still
      exact ⟨ticks, by rw [List.filterMap_cons_none none, rest]⟩
    · obtain ⟨ticks, rest⟩ := ih still
      exact ⟨tick :: ticks, by rw [List.filterMap_cons_some some, rest]; rfl⟩
    · obtain ⟨last, silent⟩ := rest.of_concluded concluded
      refine ⟨[], ?_⟩
      rw [List.filterMap_cons_some some, List.filterMap_eq_nil_iff.2 silent, last]
      simp [Stage.outcome?, same]

/-- Without a callback nothing is received. -/
theorem unattended (follows : Follows mode before moments after) (absent : ¬ mode.Attended) :
    moments.filterMap Moment.outcome? = [] := by
  induction follows with
  | nil => rfl
  | cons first rest ih =>
    rw [List.filterMap_cons_none (first.unattended absent), ih]

theorem of_over (follows : Follows mode before moments after) (closed : before.closed = true) :
    after.closed = true ∧ after.queue = before.queue ∧ moments.filterMap Moment.receipt? = [] := by
  induction follows with
  | nil => exact ⟨closed, rfl, rfl⟩
  | cons first rest ih =>
    obtain ⟨still, same, quiet⟩ := first.of_over closed
    obtain ⟨last, kept, silent⟩ := ih still
    exact ⟨last, kept.trans same, by rw [List.filterMap_cons_none quiet, silent]⟩

theorem over_iff (follows : Follows mode before moments after) :
    after.closed = true ↔ before.closed = true ∨ ∃ moment ∈ moments, moment.isEnd = true := by
  induction follows with
  | nil => simp
  | cons first rest ih =>
    rw [ih, first.over_iff, or_assoc]
    simp only [List.mem_cons, exists_eq_or_imp]

theorem queue_of_concluded (follows : Follows mode before moments after) (attended : mode.Attended)
    (drained : ∀ result, before.stage = .concluded result → before.queue = []) :
    ∀ result, after.stage = .concluded result → after.queue = [] := by
  induction follows with
  | nil => exact drained
  | cons first rest ih => exact ih (first.queue_of_concluded attended drained)

/-- All progress that is reported before the last run ends is received in order, or queued. -/
theorem balance (follows : Follows mode before moments after) (present : before.closed = false) :
    before.queue ++ (moments.takeWhile (!·.isEnd)).filterMap Moment.report? =
      moments.filterMap Moment.receipt? ++ after.queue := by
  induction follows with
  | nil => simp
  | @cons before between after moment moments first rest ih =>
    obtain ⟨same, closed⟩ := first.balance present
    have taken : (moment :: moments).filterMap Moment.receipt? =
        moment.receipt?.toList ++ moments.filterMap Moment.receipt? :=
      filterMap_cons_toList _ _ _
    cases last : moment.isEnd with
    | true =>
      obtain ⟨-, kept, silent⟩ := rest.of_over (closed.trans last)
      have nothing : moment.report? = none := by
        cases moment <;> simp_all [Moment.isEnd, Moment.report?]
      rw [List.takeWhile_cons_of_neg (by simp [last]), taken, silent, kept]
      simpa [nothing] using same
    | false =>
      rw [List.takeWhile_cons_of_pos (by simp [last]), taken, filterMap_cons_toList,
        ← List.append_assoc, same, List.append_assoc, ih (closed.trans last), List.append_assoc]

end Follows
end Ledger
end HttpExchange
