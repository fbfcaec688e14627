import HttpExchange.Proofs.Completion
import HttpExchange.Proofs.Exchange.Span

/-!
# Sends and fetches agree

How a request ends depends neither on how it was started nor on progress, if the transport does not
return in the instant of the deadline or all its waits last.
-/

namespace HttpExchange

/-! ### Scripts without progress -/

/-- The step is about progress. -/
def Step.isProgress : Step → Bool
  | .tick _ | .lateTick .. | .dropSink => true
  | .sleep _ | .yield | .hang | .abort _ | .respond _ | .fail _ => false

/-- A script without what it does about progress. -/
def Step.unreported (script : List Step) : List Step :=
  script.filter fun step => !step.isProgress

theorem Course.of?_unreported (script : List Step) :
    Course.of? (Step.unreported script) = Course.of? script := by
  induction script with
  | nil => rfl
  | cons step script ih =>
    cases step with
    | tick | lateTick | dropSink => exact ih
    | sleep | yield | abort =>
      rw [Step.unreported, List.filter_cons_of_pos rfl, Course.of?, Course.of?, ← ih]
      rfl
    | hang | respond | fail => rfl

theorem lasting_unreported (script : List Step) :
    Lasting (Step.unreported script) ↔ Lasting script := by
  have same (duration : Nat) :
      .sleep duration ∈ Step.unreported script ↔ .sleep duration ∈ script := by
    simp [Step.unreported, Step.isProgress]
  simp only [Lasting, same]

/-- Two plans are alike but for how they are started, what they send and what progress their
transport reports. -/
structure Plan.Agrees (left right : Plan) : Prop where
  destination : right.destination = left.destination
  timeout : right.timeout = left.timeout
  kind : right.options.kind = left.options.kind
  script : Step.unreported right.script = Step.unreported left.script

namespace Plan.Agrees

variable {left right : Plan}

theorem course? (agrees : left.Agrees right) :
    Course.of? right.script = Course.of? left.script := by
  rw [← Course.of?_unreported, agrees.script, Course.of?_unreported]

theorem tied (agrees : left.Agrees right) (tied : right.Tied) : left.Tied := by
  obtain ⟨addressed, timed, course, returns, same⟩ := tied
  rw [agrees.destination] at addressed
  rw [agrees.timeout] at timed same
  rw [agrees.course?] at returns
  exact ⟨addressed, timed, course, returns, same⟩

theorem lasting (agrees : left.Agrees right) (lasting : Lasting left.script) :
    Lasting right.script := by
  rw [← lasting_unreported, agrees.script, lasting_unreported]
  exact lasting

theorem fate? (agrees : left.Agrees right) : right.fate? = left.fate? := by
  have inTime (course : Course) : right.InTime course ↔ left.InTime course := by
    simp only [InTime, agrees.timeout]
  simp only [Plan.fate?, ending?, returning, expiring, agrees.destination, agrees.timeout,
    agrees.kind, agrees.course?, inTime]

end Plan.Agrees

/-! ### Meeting the end -/

/-- A request that began at `start` ends as it must by `now`, or does not end. -/
def Record.Meets (start now : Nat) (fate : Option Ending) (record : Record) : Prop :=
  match fate with
  | some ending => record.EndsAt now (start + ending.delay) ending.result ending.status
  | none => record.exchange.isOver = false

namespace View

/-- How far a request got by `now` that is not interrupted, and whose transport does not return at
the deadline. -/
structure Punctual (now : Nat) (record : Record) : Prop where
  fresh : record.exchange.phase = .fresh → record.start? = none ∧ record.exchange.status = .idle
  /-- While it waits, its transport is in time. -/
  waiting : ∀ transport deadline, record.exchange.phase = .waiting transport deadline →
    ∃ start isSet, record.start? = some start ∧ record.exchange.plan.destination ≠ "" ∧
      deadline = record.exchange.plan.deadlineFrom start isSet ∧
      OnTime record.exchange.plan start now transport
  /-- When it has ended, it ended as its plan tells. -/
  ended : record.exchange.phase = .ended → ∃ start ending, record.start? = some start ∧
    record.exchange.plan.fate? = some ending ∧ record.exchange.status = ending.status ∧
    HandsOver record.exchange.plan.mode ending.result fun moment =>
      (start + ending.delay, moment) ∈ record.history

/-- What happens between two runs of an exchange. -/
theorem Punctual.extend {now later : Nat} {left right : Record} (punctual : Punctual now left)
    (kin : Exchange.Kin left.exchange right.exchange) (same : later = now)
    (more : List (Nat × Moment)) (history : right.history = left.history ++ more)
    (unbegun : ∀ entry ∈ more, entry.2.isBegan = false) : Punctual later right := by
  subst same
  have began := Record.start?_extend history unbegun
  obtain ⟨fresh, waiting, ended⟩ := punctual
  refine ⟨fun phase => ?_, fun transport deadline phase => ?_, fun phase => ?_⟩
  · rw [began, kin.status]
    exact fresh (kin.phase.symm.trans phase)
  · rw [began, kin.plan]
    exact waiting transport deadline (kin.phase.symm.trans phase)
  · obtain ⟨start, ending, there, same, status, hands⟩ := ended (kin.phase.symm.trans phase)
    rw [began, kin.plan, kin.status, history]
    exact ⟨start, ending, there, same, status, hands.imp fun _ => List.mem_append_left _⟩

/-- A run that fares well leaves a request punctual. -/
theorem punctual_of_fares {number start now : Nat} {record : Record} {moments : List Moment}
    (told : Told (record.exchange.run number now).effects moments)
    (fares : Fares record.exchange.plan start now (record.exchange.run number now))
    (began : Record.start? ⟨(record.exchange.run number now).exchange,
      record.history ++ moments.map fun moment => (now, moment)⟩ = some start) :
    Punctual now ⟨(record.exchange.run number now).exchange,
      record.history ++ moments.map fun moment => (now, moment)⟩ := by
  have plan := record.exchange.run_plan number now
  generalize record.exchange.run number now = turn at *
  cases fares with
  | @waits transport isSet addressed waiting onTime =>
    refine ⟨fun phase => ?_, fun other deadline phase => ?_, fun phase => ?_⟩
    · cases waiting.symm.trans phase
    · cases waiting.symm.trans phase
      rw [plan]
      exact ⟨start, isSet, began, addressed, rfl, onTime⟩
    · cases waiting.symm.trans phase
  | ends same closed due status hands =>
    refine ⟨fun phase => ?_, fun other deadline phase => ?_, fun _ => ?_⟩
    · cases closed.symm.trans phase
    · cases closed.symm.trans phase
    · rw [plan]
      refine ⟨start, _, began, same, status, hands.imp fun moment member => ?_⟩
      rw [← due]
      exact List.mem_append_right _ (List.mem_map_of_mem (told.mem member))

theorem Punctual.run {number : Nat} {view : View} {record : Record} {moments : List Moment}
    (punctual : Punctual view.now record)
    (told : Told (record.exchange.run number view.now).effects moments)
    (watched : record.exchange.isOver = false → view.Watched number record.exchange)
    (untied : ¬ record.exchange.plan.Tied)
    (calm : (record.exchange.run number view.now).exchange.interrupted = false) :
    Punctual view.now ⟨(record.exchange.run number view.now).exchange,
      record.history ++ moments.map fun moment => (view.now, moment)⟩ := by
  cases phase : record.exchange.phase with
  | fresh =>
    obtain ⟨unbegun, idle⟩ := punctual.fresh phase
    exact punctual_of_fares told (Exchange.fares_run_of_fresh phase idle untied number calm)
      (start?_of_first phase unbegun told)
  | waiting transport deadline =>
    obtain ⟨start, isSet, began, addressed, rfl, onTime⟩ :=
      punctual.waiting transport deadline phase
    have steady := (watched (by simp [Exchange.isOver, phase])).steady
    have ahead : ∀ instant, transport.wait = .clock instant → view.now ≤ instant :=
      fun instant clock => (steady.timed transport _ phase instant clock).1
    have within : record.exchange.plan.timeout ≠ 0 →
        view.now ≤ start + record.exchange.plan.timeout := by
      intro timed
      rw [Plan.deadlineFrom, if_neg timed] at phase
      exact (steady.deadline transport _ phase).1
    exact punctual_of_fares told
      (Exchange.fares_run_of_waiting phase addressed untied onTime ahead within number calm)
      (Record.start?_of_some rfl began)
  | ended =>
    rw [Exchange.run_of_ended phase] at told ⊢
    cases told
    exact punctual.extend ⟨rfl, rfl, rfl⟩ rfl [] rfl (List.forall_mem_nil _)

/-- The clock moves no further than the transport lets it. -/
theorem Punctual.elapse {number limit : Nat} {view : View} {record : Record}
    (punctual : Punctual view.now record)
    (watched : record.exchange.isOver = false → view.Watched number record.exchange)
    (jobs : view.jobs = []) (aside : view.aside = false) (later : view.now ≤ limit)
    (silent : ∀ timer ∈ view.timers, limit ≤ timer.instant) : Punctual limit record := by
  refine ⟨punctual.fresh, fun transport deadline waiting => ?_, punctual.ended⟩
  obtain ⟨start, isSet, began, addressed, same, onTime⟩ :=
    punctual.waiting transport deadline waiting
  have watched := watched (by simp [Exchange.isOver, waiting])
  obtain ⟨-, -, other, set, there, moves, clocks, -⟩ := watched.resting jobs aside
  cases there.symm.trans waiting
  exact ⟨start, isSet, began, addressed, same, onTime.elapse later moves fun instant clock =>
    le_of_mem_rings silent instant (clocks instant clock)⟩

theorem punctual {view : View} {number : Nat} (reached : view.Reachable number) {record : Record}
    (found : view.record = some record) (untied : ¬ record.exchange.plan.Tied)
    (calm : .interrupted true ∉ record.moments) : Punctual view.now record := by
  refine reached.acts_induction (motive := fun view record => ¬ record.exchange.plan.Tied →
    .interrupted true ∉ record.moments → Punctual view.now record) ?_ ?_ found untied calm
  · intro view plan _ _ _ _
    exact ⟨fun _ => ⟨rfl, rfl⟩, by simp [Exchange.start], by simp [Exchange.start]⟩
  · intro before left after right earlier found there acts ih untied calm
    cases acts with
    | interrupt =>
      have kin := left.exchange.alike_interrupt.kin
      have previous := ih (by rwa [← kin.plan]) (Record.not_mem_of_extend rfl calm)
      exact previous.extend kin (stir_now _ _ _) [_] rfl (by simp [Moment.isBegan])
    | callBack =>
      have kin := left.exchange.alike_wake.kin
      exact (ih (by rwa [← kin.plan]) calm).extend kin (stir_now _ _ _) []
        (List.append_nil _).symm (List.forall_mem_nil _)
    | @run jobs moments queue told =>
      obtain ⟨ledger, accounts⟩ := Ledger.exists_accounts
        (Steps.reachable earlier (.single (.run found queue told))) there
      have plan := left.exchange.run_plan number before.now
      have previous := ih (by rwa [← plan]) (Record.not_mem_of_extend rfl calm)
      have going := eq_false_of_ne_true fun interrupted =>
        calm (accounts.interrupted_iff.1 interrupted)
      rw [ran_now]
      exact previous.run told (earlier.watched found) (by rwa [← plan]) going
    | postpone | fall => exact ih untied calm
    | @reportLate progress delay jobs queue =>
      have kin := (left.exchange.kin_report progress).trans (Exchange.kin_release _)
      have previous := ih (by rwa [← kin.plan]) (Record.not_mem_of_extend rfl calm)
      exact previous.extend kin (stir_now _ _ _) [_] rfl (by simp [Moment.isBegan])
    | elapse jobs aside later silent =>
      exact (ih untied calm).elapse (earlier.watched found) jobs aside later silent
    | ring timers =>
      have kin := left.exchange.alike_wake.kin
      exact (ih (by rwa [← kin.plan]) calm).extend kin (stir_now _ _ _) []
        (List.append_nil _).symm (List.forall_mem_nil _)

namespace Punctual

variable {now start : Nat} {record : Record} {ledger : Ledger}

/-- A request that is over ended as its plan tells. -/
theorem of_over (punctual : Punctual now record) (began : record.start? = some start)
    (closed : record.exchange.isOver = true) : ∃ ending,
      record.exchange.plan.fate? = some ending ∧ record.exchange.status = ending.status ∧
        HandsOver record.exchange.plan.mode ending.result fun moment =>
          (start + ending.delay, moment) ∈ record.history := by
  cases phase : record.exchange.phase with
  | fresh => simp [Exchange.isOver, phase] at closed
  | waiting => simp [Exchange.isOver, phase] at closed
  | ended =>
    obtain ⟨first, ending, there, ends⟩ := punctual.ended phase
    obtain rfl : first = start := Option.some.inj (there.symm.trans began)
    exact ⟨ending, ends⟩

/-- A request that is not over has not passed its end. -/
theorem now_le (punctual : Punctual now record) (began : record.start? = some start)
    (present : record.exchange.isOver = false)
    (within : ∀ transport deadline, record.exchange.phase = .waiting transport (some deadline) →
      now ≤ deadline.instant) {ending : Ending}
    (fate : record.exchange.plan.fate? = some ending) : now ≤ start + ending.delay := by
  cases phase : record.exchange.phase with
  | fresh => cases (punctual.fresh phase).1.symm.trans began
  | ended => simp [Exchange.isOver, phase] at present
  | waiting transport deadline =>
    obtain ⟨first, isSet, there, addressed, rfl, onTime⟩ :=
      punctual.waiting transport deadline phase
    obtain rfl : first = start := Option.some.inj (there.symm.trans began)
    rw [Plan.fate?_of_addressed addressed] at fate
    rcases Plan.of_ending? fate with ⟨course, returns, -, rfl⟩ | ⟨timed, rfl⟩
    · have least := onTime.le_delay returns
      change now ≤ first + course.delay
      omega
    · rw [Plan.deadlineFrom, if_neg timed] at phase
      exact within transport _ phase

theorem meets (punctual : Punctual now record) (began : record.start? = some start)
    (accounts : Ledger.Accounts ledger record)
    (past : ∀ entry ∈ record.history, entry.1 ≤ now)
    (within : ∀ transport deadline, record.exchange.phase = .waiting transport (some deadline) →
      now ≤ deadline.instant) : record.Meets start now record.exchange.plan.fate? := by
  cases fate : record.exchange.plan.fate? with
  | none =>
    refine eq_false_of_ne_true fun closed => ?_
    obtain ⟨ending, same, -⟩ := punctual.of_over began closed
    cases fate.symm.trans same
  | some ending =>
    refine ⟨fun present => punctual.now_le began present within fate, fun closed => ?_, ?_⟩
    · obtain ⟨same, told, status, hands⟩ := punctual.of_over began closed
      cases fate.symm.trans told
      exact ⟨past _ hands.ended, status, hands⟩
    · intro other result member
      obtain ⟨same, told, -, hands⟩ := punctual.of_over began (accounts.over_of_resolved member)
      cases fate.symm.trans told
      cases accounts.decides_unique member hands.resolved rfl rfl
      exact ⟨rfl, rfl⟩

end Punctual
end View

/-- A request that is not interrupted ends as its plan tells, whatever its transport waits for, if
that does not return at the deadline or its waits last. -/
theorem meets_fate {schedule : Schedule} (reached : schedule.Reachable) {number : Nat}
    {record : Record} (found : schedule.records[number]? = some record)
    (lasting : record.exchange.plan.Tied → Lasting record.exchange.plan.script)
    (calm : .interrupted true ∉ record.moments) {start : Nat} (began : record.start? = some start) :
    record.Meets start schedule.now record.exchange.plan.fate? := by
  have there := reached.view number
  obtain ⟨ledger, accounts⟩ := Ledger.exists_accounts there found
  by_cases tied : record.exchange.plan.Tied
  · have timely := View.timely there found tied.1 (lasting tied) calm
    obtain ⟨ending, ends⟩ : ∃ ending, record.exchange.plan.ending? = some ending := by
      rw [Plan.ending?, if_neg tied.2.1]
      split <;> exact ⟨_, rfl⟩
    rw [Plan.fate?_of_addressed tied.1, ends]
    exact timely.endsAt began accounts (there.past found) ends
  · refine (View.punctual there found tied calm).meets began accounts (there.past found) ?_
    intro transport deadline waiting
    have watched := there.watched found (by simp [Exchange.isOver, waiting])
    exact (watched.steady.deadline transport deadline waiting).1

/-- Two requests whose plans are alike but for how they were started, what they send and what
progress their transport reports, and that began at the same instant, meet the same end: neither
ends, or both end at the same instant, with the same result, which is handed over. -/
theorem sends_and_fetches_agree {left right : Schedule} (reached : left.Reachable)
    (there : right.Reachable) {first second : Nat} {one other : Record}
    (found : left.records[first]? = some one) (present : right.records[second]? = some other)
    (agrees : one.exchange.plan.Agrees other.exchange.plan)
    (lasting : one.exchange.plan.Tied → Lasting one.exchange.plan.script)
    (calm : .interrupted true ∉ one.moments) (still : .interrupted true ∉ other.moments)
    {start : Nat} (began : one.start? = some start) (begun : other.start? = some start) :
    ∃ fate, one.Meets start left.now fate ∧ other.Meets start right.now fate := by
  refine ⟨one.exchange.plan.fate?, meets_fate reached found lasting calm began, ?_⟩
  rw [← agrees.fate?]
  exact meets_fate there present (fun tied => agrees.lasting (lasting (agrees.tied tied))) still
    begun

/-- A send whose transport reports progress and a fetch whose transport reports none. -/
def sendAndFetch : List Command :=
  [.start ⟨.send (.present none), "http://localhost/", .text "body", 5, ⟨.raw, .put, true⟩,
    [.tick ⟨1, none⟩, .sleep 3, .lateTick 2 ⟨2, none⟩, .dropSink, .sleep 2,
      .respond ⟨200, [], .octets []⟩]⟩,
    .start ⟨.fetch, "http://localhost/", .empty, 5, ⟨.raw, .post, false⟩,
      [.sleep 3, .sleep 2, .respond ⟨200, [], .octets []⟩]⟩,
    .sleep 9]

theorem fetch_ends_as_send : ∃ sent fetched,
    (Schedule.initial.after sendAndFetch).records[0]? = some sent ∧
      (Schedule.initial.after sendAndFetch).records[1]? = some fetched ∧
      (∃ fate, sent.Meets 0 9 fate ∧ fetched.Meets 0 9 fate) ∧
      sent.exchange.status = .responded ∧ fetched.exchange.status = .responded := by
  have reached := Schedule.reachable_after sendAndFetch
  have lasting : Lasting [.tick ⟨1, none⟩, .sleep 3, .lateTick 2 ⟨2, none⟩, .dropSink, .sleep 2,
      .respond ⟨200, [], .octets []⟩] := by
    simp [Lasting]
  exact ⟨_, _, rfl, rfl, @sends_and_fetches_agree _ _ reached reached 0 1 _ _ rfl rfl
    ⟨rfl, rfl, rfl, rfl⟩ (fun _ => lasting) (@not_interrupted _ reached 0 _ rfl rfl)
    (@not_interrupted _ reached 1 _ rfl rfl) 0 rfl rfl, rfl, rfl⟩

/-- A request whose transport returns at the deadline, after many waits that do not last. -/
def hurried (mode : Mode) : Plan :=
  ⟨mode, "http://localhost/", .empty, 5, ⟨.raw, .post, false⟩,
    .sleep 5 :: (List.replicate 128 (.sleep 0) ++ [.respond ⟨200, [], .octets []⟩])⟩

/-- It is sent and fetched. -/
def hurriedTwice : List Command :=
  [.start (hurried (.send (.present none))), .start (hurried .fetch), .sleep 10]

set_option maxRecDepth 8000 in
/-- The send waits for its transport, and the fetch does not. -/
theorem fetch_does_not_end_as_hurried_send : ∃ sent fetched,
    (Schedule.initial.after hurriedTwice).records[0]? = some sent ∧
      (Schedule.initial.after hurriedTwice).records[1]? = some fetched ∧
      sent.exchange.plan.Agrees fetched.exchange.plan ∧
      .interrupted true ∉ sent.moments ∧ .interrupted true ∉ fetched.moments ∧
      sent.start? = some 0 ∧ fetched.start? = some 0 ∧
      ¬ ∃ fate, sent.Meets 0 10 fate ∧ fetched.Meets 0 10 fate := by
  have reached := Schedule.reachable_after hurriedTwice
  refine ⟨_, _, rfl, rfl, ⟨rfl, rfl, rfl, rfl⟩, @not_interrupted _ reached 0 _ rfl rfl,
    @not_interrupted _ reached 1 _ rfl rfl, rfl, rfl, ?_⟩
  rintro ⟨fate, meets, also⟩
  cases fate with
  | none => cases meets
  | some ending =>
    have responded : TransportStatus.responded = ending.status := (meets.closed rfl).2.1
    have dropped : TransportStatus.dropped = ending.status := (also.closed rfl).2.1
    cases responded.trans dropped.symm

end HttpExchange
