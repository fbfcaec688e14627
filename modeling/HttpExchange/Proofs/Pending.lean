import HttpExchange.Proofs.Exchange.Stages
import HttpExchange.Proofs.Transport

/-!
# Pending while progress is received

What was queued when a run began finds the request pending.  What is reported in the run in which
the result becomes known finds it decided, before the outcome is delivered.
-/

namespace HttpExchange

open View Exchange Effect

/-! ### Histories and their last runs -/

/-- An item of two lists is one of the first or one of the second. -/
theorem split_of_append {α : Type} {first second front back : List α} {item : α}
    (same : first ++ second = front ++ item :: back) :
    (∃ rest, first = front ++ item :: rest ∧ back = rest ++ second) ∨
      ∃ rest, front = first ++ rest ∧ second = rest ++ item :: back := by
  rcases List.append_eq_append_iff.1 same with ⟨rest, rfl, split⟩ | ⟨rest, rfl, split⟩
  · exact .inr ⟨rest, rfl, split⟩
  · rcases List.cons_eq_append_iff.1 split with ⟨rfl, whole⟩ | ⟨others, rfl, further⟩
    · exact .inr ⟨[], by simp, whole⟩
    · exact .inl ⟨others, rfl, further⟩

/-- The last run in a history began after `past` and did `run` since. -/
structure LastRun (history past run : List Moment) : Prop where
  split : history = past ++ .began :: run
  unbegun : .began ∉ run

theorem LastRun.unique {history past run earlier course : List Moment}
    (last : LastRun history past run) (other : LastRun history earlier course) :
    earlier = past ∧ course = run := by
  rcases split_of_append (last.split.symm.trans other.split) with
    ⟨rest, rfl, same⟩ | ⟨rest, rfl, same⟩
  · exact absurd (by simp [same]) other.unbegun
  · rcases List.cons_eq_append_iff.1 same with ⟨rfl, whole⟩ | ⟨others, rfl, further⟩
    · exact ⟨List.append_nil past, (List.cons.inj whole).2⟩
    · exact absurd (by simp [further]) last.unbegun

/-- What happens within a run is part of it. -/
theorem LastRun.append {history past run more : List Moment} (last : LastRun history past run)
    (unbegun : .began ∉ more) : LastRun (history ++ more) past (run ++ more) :=
  ⟨by rw [last.split, List.append_assoc, List.cons_append],
    fun member => (List.mem_append.1 member).elim last.unbegun unbegun⟩

/-- The answer to an abort from within the callback is noted next. -/
def Answered (moments : List Moment) : Prop :=
  ∀ ⦃front back pending outcome success⦄,
    moments = front ++ .event (.delivered pending outcome (some success)) :: back →
      ∃ rest, back = .interrupted success :: rest

namespace Answered

theorem append {front back : List Moment} (first : Answered front) (last : Answered back) :
    Answered (front ++ back) := by
  intro earlier later pending outcome success same
  rcases split_of_append same with ⟨rest, split, rfl⟩ | ⟨rest, rfl, split⟩
  · obtain ⟨others, rfl⟩ := first split
    exact ⟨others ++ back, rfl⟩
  · exact last split

theorem of_handsOver {moments : List Moment}
    (quiet : ∀ moment ∈ moments, moment.handsOver = false) : Answered moments := by
  rintro front back pending outcome success rfl
  cases quiet _ (List.mem_append_right _ List.mem_cons_self)

theorem cons {moment : Moment} {moments : List Moment} (unanswered : moment.answer? = none)
    (further : Answered moments) : Answered (moment :: moments) := by
  intro front back pending outcome success same
  rcases List.cons_eq_append_iff.1 same with ⟨rfl, whole⟩ | ⟨others, rfl, later⟩
  · rw [← (List.cons.inj whole).1] at unanswered
    cases unanswered
  · exact further later

theorem of_receives {effects : List Effect} (receives : Receives effects) {moments : List Moment}
    (told : Told effects moments) : Answered moments := by
  induction receives generalizing moments with
  | nil =>
    cases told
    exact .of_handsOver (List.forall_mem_nil _)
  | cons _ _ unanswered _ ih =>
    obtain ⟨rest, rfl, others⟩ := told.of_cons
    exact .cons unanswered (ih others)
  | @answered pending success outcome effects _ ih =>
    obtain ⟨_, rfl, next⟩ := told.of_cons
    obtain ⟨rest, rfl, others⟩ := next.of_cons
    have further : Answered (.interrupted success :: rest) := .cons rfl (ih others)
    intro front back _ _ _ same
    rcases List.cons_eq_append_iff.1 same with ⟨rfl, whole⟩ | ⟨_, rfl, later⟩
    · cases whole
      exact ⟨rest, rfl⟩
    · exact further later

theorem of_staged {owed : List Progress} {effects : List Effect} (staged : Staged owed effects)
    {moments : List Moment} (told : Told effects moments) : Answered moments := by
  obtain ⟨receives, polls, concludes⟩ := staged
  obtain ⟨first, _, rfl, early, later⟩ := told.split
  obtain ⟨polled, last, rfl, meanwhile, late⟩ := later.split
  have quiet := meanwhile.forall polls fun _ => rfl
  refine .append (.of_receives receives early) (.append (.of_handsOver quiet) ?_)
  cases concludes with
  | goesOn => exact .of_receives .nil late
  | resolved _ receives =>
    obtain ⟨rest, rfl, others⟩ := late.of_cons
    exact .cons rfl (.of_receives receives others)

end Answered

/-! ### Runs in stages -/

/-- What the callback receives, and the result, come in the stages of a run. -/
structure RunsInStages (moments : List Moment) : Prop where
  /-- The callback receives something in a run before anything is reported in it, or after the
  result became known in it. -/
  received : ∀ ⦃front back pending outcome answer⦄,
    moments = front ++ .event (.delivered pending outcome answer) :: back →
      ∃ past run, LastRun front past run ∧
        ((∀ moment ∈ run, moment.report? = none) ∨ ∃ result, .resolved result ∈ run)
  /-- The result becomes known in a run after all that had been reported before was received. -/
  resolved : ∀ ⦃front back result⦄, moments = front ++ .resolved result :: back →
    ∃ past run, LastRun front past run ∧
      (past.filterMap Moment.report?).length ≤ (front.filterMap Moment.receipt?).length
  /-- Whatever the callback aborts is answered. -/
  answered : Answered moments

/-- In a run something is handed over in the first stage or in the last. -/
theorem stage_of_split {owed : List Progress} {effects : List Effect} (staged : Staged owed effects)
    {front back : List Moment} {moment : Moment} (told : Told effects (front ++ moment :: back))
    (hands : moment.handsOver = true) :
    ((∀ other ∈ front, other.report? = none) ∧ moment.result? = none) ∨
      owed.length ≤ (front.filterMap Moment.receipt?).length ∧
        ∃ result, .resolved result ∈ front ++ [moment] := by
  obtain ⟨receives, polls, concludes⟩ := staged
  obtain ⟨first, others, same, early, later⟩ := told.split
  rcases split_of_append same.symm with ⟨rest, rfl, -⟩ | ⟨middle, rfl, rfl⟩
  · have unreported := early.forall receives.unreported fun _ => rfl
    have unresolved := early.forall receives.unresolved fun _ => rfl
    exact .inl ⟨fun other member => unreported other (List.mem_append_left _ member),
      unresolved moment (by simp)⟩
  · obtain ⟨polled, last, same, meanwhile, late⟩ := later.split
    rcases split_of_append same.symm with ⟨rest, rfl, -⟩ | ⟨rest, rfl, rfl⟩
    · have quiet := meanwhile.forall polls fun _ => rfl
      cases hands.symm.trans (quiet moment (by simp))
    · have received : first.filterMap Moment.receipt? = _ := early.filterMap_eq fun _ => rfl
      refine .inr ?_
      cases concludes with
      | goesOn =>
        generalize same : rest ++ moment :: back = moments at late
        cases late
        simp at same
      | @resolved result _ paid _ =>
        obtain ⟨others, same, -⟩ := late.of_cons
        refine ⟨by simp [received, paid], result, ?_⟩
        rcases List.append_eq_cons_iff.1 same with ⟨rfl, whole⟩ | ⟨_, rfl, -⟩
        · rw [(List.cons.inj whole).1]
          simp
        · simp

/-! ### What a run adds -/

namespace RunsInStages

variable {moments more : List Moment}

theorem nil : RunsInStages [] where
  received := by simp
  resolved := by simp
  answered := .of_handsOver (List.forall_mem_nil _)

/-- What happens between two runs hands nothing over. -/
theorem extend (stages : RunsInStages moments)
    (quiet : ∀ moment ∈ more, moment.handsOver = false) : RunsInStages (moments ++ more) := by
  have earlier : ∀ {front back moment}, moments ++ more = front ++ moment :: back →
      moment.handsOver = true → ∃ rest, moments = front ++ moment :: rest := by
    intro front back moment same hands
    rcases split_of_append same with ⟨rest, split, -⟩ | ⟨rest, -, split⟩
    · exact ⟨rest, split⟩
    · cases hands.symm.trans (quiet moment (by simp [split]))
  constructor
  case received =>
    intro front back pending outcome answer same
    obtain ⟨rest, split⟩ := earlier same rfl
    exact stages.received split
  case resolved =>
    intro front back result same
    obtain ⟨rest, split⟩ := earlier same rfl
    exact stages.resolved split
  case answered => exact stages.answered.append (.of_handsOver quiet)

theorem ran (stages : RunsInStages moments) {owed : List Progress}
    (balance : moments.filterMap Moment.report? = moments.filterMap Moment.receipt? ++ owed)
    {effects : List Effect} (staged : Staged owed effects) (told : Told effects (.began :: more))
    (unbegun : .began ∉ more) : RunsInStages (moments ++ .began :: more) := by
  -- What the run hands over comes after its beginning.
  have within : ∀ {rest back moment}, .began :: more = rest ++ moment :: back →
      moment.handsOver = true →
        ∃ run, rest = .began :: run ∧ LastRun (moments ++ rest) moments run := by
    intro rest back moment same hands
    rcases List.cons_eq_append_iff.1 same with ⟨rfl, whole⟩ | ⟨run, rfl, rfl⟩
    · rw [(List.cons.inj whole).1] at hands
      cases hands
    · exact ⟨run, rfl, rfl, fun member => unbegun (List.mem_append_left _ member)⟩
  constructor
  case received =>
    intro front back pending outcome answer same
    rcases split_of_append same with ⟨rest, split, -⟩ | ⟨rest, rfl, split⟩
    · exact stages.received split
    · obtain ⟨run, rfl, last⟩ := within split rfl
      refine ⟨moments, run, last, ?_⟩
      rw [split] at told
      rcases stage_of_split staged told rfl with ⟨unreported, -⟩ | ⟨-, result, known⟩
      · exact .inl fun moment member => unreported moment (List.mem_cons_of_mem _ member)
      · exact .inr ⟨result, by simpa using known⟩
  case resolved =>
    intro front back result same
    rcases split_of_append same with ⟨rest, split, -⟩ | ⟨rest, rfl, split⟩
    · exact stages.resolved split
    · obtain ⟨run, rfl, last⟩ := within split rfl
      refine ⟨moments, run, last, ?_⟩
      rw [split] at told
      rcases stage_of_split staged told rfl with ⟨-, unresolved⟩ | ⟨paid, -⟩
      · cases unresolved
      · rw [balance, List.filterMap_append, List.length_append, List.length_append]
        exact Nat.add_le_add_left paid _
  case answered => exact stages.answered.append (.of_staged staged told)

end RunsInStages

/-! ### Every history -/

/-- Progress that was reported to a request that is not over was received, or is queued. -/
theorem Ledger.Follows.balance_of_present {mode : Mode} {moments : List Moment} {after : Ledger}
    (follows : Follows mode start moments after) (present : after.closed = false) :
    moments.filterMap Moment.report? = moments.filterMap Moment.receipt? ++ after.queue := by
  have unended : ∀ moment ∈ moments, (!moment.isEnd) = true := by
    intro moment member
    cases last : moment.isEnd with
    | false => rfl
    | true => cases present.symm.trans (follows.over_iff.2 (.inr ⟨moment, member, last⟩))
  have balance := follows.balance rfl
  rwa [List.takeWhile_eq_self_iff.2 unended] at balance

theorem Moment.ne_began_of_opens {moment : Moment} (closed : moment.opens = false) :
    moment ≠ .began := by
  rintro rfl
  cases closed

/-- The runs of every request that has a callback go through the stages. -/
theorem runsInStages {view : View} {number : Nat} (reached : view.Reachable number)
    {record : Record} (found : view.record = some record)
    (attended : record.exchange.plan.mode.Attended) : RunsInStages record.moments := by
  revert record
  refine reached.induction (motive := fun view => ∀ {record}, view.record = some record →
    record.exchange.plan.mode.Attended → RunsInStages record.moments) (fun _ => nofun) ?_
  intro before after earlier step ih record found attended
  have changed := step.change
  rw [found] at changed
  cases there : before.record with
  | none =>
    rw [there] at changed
    cases changed with
    | start => exact .nil
  | some previous =>
    rw [there] at changed
    have plan : record.exchange.plan = previous.exchange.plan := by
      obtain ⟨last, _, same, plan, -⟩ := Steps.history (.single step) there
      rwa [Option.some.inj (found.symm.trans same)]
    rw [plan] at attended
    have stages := ih there attended
    have history (more : List Moment) {exchange : Exchange} :
        (Record.mk exchange (previous.history ++ more.map fun moment =>
          (before.now, moment))).moments = previous.moments ++ more := by
      simp [Record.moments, Function.comp_def]
    cases changed with
    | none => exact stages
    | wake => exact stages
    | interrupt =>
      exact history [_] ▸ stages.extend (List.forall_mem_singleton.2 rfl)
    | report =>
      exact history [_] ▸ stages.extend (List.forall_mem_singleton.2 rfl)
    | @run _ moments told =>
      rw [history]
      cases closed : previous.exchange.isOver with
      | true =>
        rw [run_of_over closed] at told
        cases told
        exact stages.extend (List.forall_mem_nil _)
      | false =>
        obtain ⟨ledger, accounts⟩ := Ledger.exists_accounts earlier there
        have present := accounts.fits.closed.trans closed
        have balance := accounts.follows.balance_of_present present
        rw [accounts.fits.queue attended present] at balance
        have fresh := (earlier.watched there closed).steady.fresh
        have staged := staged_run attended (fun first => (fresh first).2) number before.now
        obtain ⟨inside, effects, all, -⟩ := inside_run closed number before.now
        rw [effects] at told staged
        obtain ⟨rest, rfl, begins⟩ := told.of_cons
        have unbegun : ∀ moment ∈ rest, moment ≠ .began := by
          refine begins.forall ?_ fun progress => Moment.ne_began_of_opens rfl
          rw [moments_append, List.forall_mem_append]
          constructor
          · split
            · exact List.forall_mem_singleton.2 Moment.noConfusion
            · exact List.forall_mem_nil _
          · exact fun moment member => Moment.ne_began_of_opens (all.opens_eq_false moment member)
        exact stages.ran balance staged told fun member => unbegun _ member rfl

/-! ### What progress finds -/

namespace Ledger

/-- No run begins once the result is known. -/
theorem Takes.of_known {mode : Mode} {before after : Ledger} {moment : Moment}
    (takes : Takes mode before moment after) (known : ¬ before.stage.Open) :
    ¬ after.stage.Open ∧ moment ≠ .began := by
  cases takes <;> simp_all [Stage.Open]

theorem Follows.began_not_mem {mode : Mode} {before after : Ledger} {moments : List Moment}
    (follows : Follows mode before moments after) (known : ¬ before.stage.Open) :
    .began ∉ moments := by
  induction follows with
  | nil => exact List.not_mem_nil
  | cons first _ ih =>
    obtain ⟨still, other⟩ := first.of_known known
    exact List.not_mem_cons_of_ne_of_not_mem other.symm (ih still)

end Ledger

/-- The progress that is received after `front` was queued when the last run began, after `past`:
less was received than had been reported. -/
def QueuedBefore (front past : List Moment) : Prop :=
  (front.filterMap Moment.receipt?).length < (past.filterMap Moment.report?).length

/-- What progress finds that the callback receives between `front` and `back`, in a run that began
after `past` and did `run` since. -/
structure FindsRequest (front past run back : List Moment) (pending : Bool) (tick : Progress)
    (answer : Option Bool) : Prop where
  /-- The progress is the first that was reported and not received. -/
  next : (front.filterMap Moment.report?)[(front.filterMap Moment.receipt?).length]? = some tick
  /-- The request is pending exactly if the progress was queued when the run began. -/
  finds : pending = true ↔ QueuedBefore front past
  /-- An abort from within the callback succeeds exactly if the request is pending, and is noted. -/
  answered : ∀ success, answer = some success →
    success = pending ∧ ∃ rest, back = .interrupted success :: rest
  /-- If the request is pending, nothing is received after such an abort. -/
  silenced : pending = true → answer ≠ none →
    ∀ later outcome reply, .event (.delivered later outcome reply) ∉ back
  /-- If it is not, its result became known in this very run, and the outcome is received, whatever
  the callback does. -/
  decided : pending = false → ∃ result outcome reply, .resolved result ∈ run ∧
    Outcome.ofResult? result = some outcome ∧ .event (.delivered false outcome reply) ∈ back

section

variable {ledger : Ledger} {record : Record} {front past run back : List Moment} {pending : Bool}
  {tick : Progress} {outcome : Outcome} {answer : Option Bool}

/-- A result that is known became known in the last run, and all that was queued when that began was
received. -/
theorem RunsInStages.resolved_in_last {mode : Mode} {between : Ledger} {result : RequestResult}
    (stages : RunsInStages (front ++ back)) (follows : Ledger.Follows mode .start front between)
    (known : between.stage.result? = some result) (last : LastRun front past run) :
    .resolved result ∈ run ∧ ¬ QueuedBefore front past := by
  obtain ⟨before, after, rfl⟩ := List.append_of_mem (follows.mem_of_result nofun known)
  obtain ⟨earlier, course, began, paid⟩ := stages.resolved (List.append_assoc ..)
  obtain ⟨_, -, later⟩ := follows.split
  have unbegun : .began ∉ .resolved result :: after := by
    cases later with
    | cons first rest =>
      cases first with
      | resolved => exact List.not_mem_cons_of_ne_of_not_mem nofun (rest.began_not_mem nofun)
  obtain ⟨rfl, rfl⟩ := last.unique (began.append unbegun)
  refine ⟨by simp, Nat.not_lt.2 (Nat.le_trans paid ?_)⟩
  rw [List.filterMap_append, List.length_append]
  exact Nat.le_add_right _ _

namespace Ledger.Accounts

/-- An abort from within the callback answers whether the request was pending. -/
theorem answered (accounts : Accounts ledger record) (stages : RunsInStages record.moments)
    (split : record.moments = front ++ .event (.delivered pending outcome answer) :: back) :
    ∀ success, answer = some success →
      success = pending ∧ ∃ rest, back = .interrupted success :: rest := by
  rintro success rfl
  obtain ⟨rest, rfl⟩ := stages.answered split
  have later : record.moments =
      (front ++ [.event (.delivered pending outcome (some success))]) ++
        .interrupted success :: rest := by
    simp [split]
  refine ⟨Bool.eq_iff_iff.2 ?_, rest, rfl⟩
  rw [accounts.granted later, accounts.reading split, HttpExchange.undecided_iff,
    HttpExchange.undecided_iff, List.forall_mem_append, List.forall_mem_singleton]
  exact and_iff_left rfl

/-- An abort from within the callback that succeeds silences it. -/
theorem silenced (accounts : Accounts ledger record) (stages : RunsInStages record.moments)
    (split : record.moments = front ++ .event (.delivered true outcome answer) :: back)
    (aborts : answer ≠ none) (later : Bool) (other : Outcome) (reply : Option Bool) :
    .event (.delivered later other reply) ∉ back := by
  obtain ⟨success, rfl⟩ := Option.ne_none_iff_exists'.1 aborts
  obtain ⟨rfl, rest, rfl⟩ := accounts.answered stages split success rfl
  have after : record.moments =
      (front ++ [.event (.delivered true outcome (some true))]) ++ .interrupted true :: rest := by
    simp [split]
  exact List.not_mem_cons_of_ne_of_not_mem nofun (accounts.silent after later other reply)

theorem findsRequest (accounts : Accounts ledger record) (stages : RunsInStages record.moments)
    (split : record.moments =
      front ++ .event (.delivered pending (.progress tick) answer) :: back) :
    ∃ past run, LastRun front past run ∧ FindsRequest front past run back pending tick answer := by
  obtain ⟨past, run, last, stage⟩ := stages.received split
  have answered := accounts.answered stages split
  have undecided := accounts.reading split
  have follows := accounts.follows
  have staged := stages
  rw [split] at follows staged
  obtain ⟨between, earlier, later⟩ := follows.split
  have next : ∀ {queue}, between.closed = false → between.queue = tick :: queue →
      front.filterMap Moment.report? = front.filterMap Moment.receipt? ++ tick :: queue :=
    fun present queued => queued ▸ earlier.balance_of_present present
  refine ⟨past, run, last, ?_⟩
  cases later with
  | cons first rest =>
    cases first with
    | tick attended tick queue =>
      have balance := next rfl rfl
      obtain ⟨-, unresolved⟩ := undecided.1 rfl
      have unreported : run.filterMap Moment.report? = [] := by
        refine List.filterMap_eq_nil_iff.2 (stage.resolve_right ?_)
        rintro ⟨result, known⟩
        exact unresolved result (by simp [last.split, known])
      have before : front.filterMap Moment.report? = past.filterMap Moment.report? := by
        rw [last.split, List.filterMap_append, List.filterMap_cons_none rfl, unreported,
          List.append_nil]
      have finds : QueuedBefore front past := by
        rw [QueuedBefore, ← before, balance, List.length_append, List.length_cons]
        omega
      exact ⟨by simp [balance], iff_of_true rfl finds, answered,
        fun _ => accounts.silenced stages split, nofun⟩
    | lastTick attended result tick queue =>
      have balance := next rfl rfl
      obtain ⟨known, received⟩ := staged.resolved_in_last earlier rfl last
      obtain ⟨outcome, reply, before, after, same, rfl, -, -⟩ :=
        rest.concludes_soon attended rfl rfl (accounts.not_resolved attended result)
      exact ⟨by simp [balance], iff_of_false nofun received, answered, nofun,
        fun _ => ⟨result, outcome, reply, known, same, by simp⟩⟩
    | outcome _ same => cases Outcome.isTerminal_of_ofResult? same

end Ledger.Accounts

end

/-- Progress finds a request pending that was queued when the run began in which it is received; and
decided, if it was reported in the very run in which the result became known. -/
theorem progress_finds_request {schedule : Schedule} (reached : schedule.Reachable) {number : Nat}
    {record : Record} (found : schedule.records[number]? = some record)
    {front back : List Moment} {pending : Bool} {tick : Progress} {answer : Option Bool}
    (split : record.moments =
      front ++ .event (.delivered pending (.progress tick) answer) :: back) :
    ∃ past run, LastRun front past run ∧ FindsRequest front past run back pending tick answer := by
  have there := reached.view number
  obtain ⟨ledger, accounts⟩ := Ledger.exists_accounts there found
  have attended : record.exchange.plan.mode.Attended := by
    by_contra absent
    have none := accounts.follows.unattended absent
    rw [split, List.filterMap_append] at none
    simp [Moment.outcome?] at none
  exact accounts.findsRequest (runsInStages there found attended) split

/-- Of three reports, two are queued when the second run begins, and the callback aborts its request
at the second. -/
def withdrawn : List Command :=
  [.start ⟨.send (.present (some 2)), "http://localhost/", .empty, 0, ⟨.raw, .post, true⟩,
    [.tick ⟨1, none⟩, .tick ⟨2, none⟩, .sleep 3, .tick ⟨3, none⟩, .respond ⟨200, [], .octets []⟩]⟩,
    .sleep 9]

theorem second_progress_finds_request_pending : ∃ record front back,
    (Schedule.initial.after withdrawn).records[0]? = some record ∧
      record.moments =
        front ++ .event (.delivered true (.progress ⟨2, none⟩) (some true)) :: back ∧
      ∃ past run, LastRun front past run ∧
        FindsRequest front past run back true ⟨2, none⟩ (some true) :=
  ⟨_, [.began, .event (.called _ true), .event (.reported ⟨1, none⟩),
      .event (.reported ⟨2, none⟩), .began, .event (.delivered true (.progress ⟨1, none⟩) none)],
    [.interrupted true, .ended], rfl, rfl,
    @progress_finds_request _ (Schedule.reachable_after withdrawn) 0 _ rfl _ _ _ _ _ rfl⟩

/-- The callback of a request aborts it at progress that is reported in the run in which the
transport returns: the request is not pending although no outcome was delivered, the abort is
refused, and the outcome is delivered. -/
theorem last_progress_finds_request_decided :
    let hurried : List Command :=
      [.start ⟨.send (.present (some 1)), "http://localhost/", .empty, 0, ⟨.raw, .post, true⟩,
        [.tick ⟨1, none⟩, .respond ⟨200, [], .octets []⟩]⟩, .sleep 9]
    ∃ record front back, (Schedule.initial.after hurried).records[0]? = some record ∧
      record.moments =
        front ++ .event (.delivered false (.progress ⟨1, none⟩) (some false)) :: back ∧
      .interrupted true ∉ front ∧ front.filterMap Moment.outcome? = [] ∧
      back.filterMap Moment.outcome? = [.success (.raw []) 0 []] := by
  refine ⟨_, [.began, .event (.called _ true), .event (.reported ⟨1, none⟩), .resolved _],
    [.interrupted false, .event (.delivered false (.success (.raw []) 0 []) none), .ended],
    rfl, rfl, ?_, rfl, rfl⟩
  simp

end HttpExchange
