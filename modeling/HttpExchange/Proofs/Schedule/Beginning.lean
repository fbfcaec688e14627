import HttpExchange.Proofs.Completion

/-!
# Requests begin at once

No time passes between the start of a request and its first run.
-/

namespace HttpExchange

open Exchange

namespace View

/-- A request begins at an instant: it did, or has not run yet and the instant is not over. -/
def Begins (instant : Nat) (view : View) (record : Record) : Prop :=
  record.start? = some instant ∨
    (record.exchange.phase = .fresh ∧ record.start? = none ∧ view.now = instant)

section

variable {number instant : Nat} {before after : View} {left right : Record}

/-- What happens between two runs without time passing. -/
theorem Begins.extend (begins : Begins instant before left)
    (phase : right.exchange.phase = left.exchange.phase) (now : after.now = before.now)
    {more : List (Nat × Moment)} (history : right.history = left.history ++ more)
    (unbegun : ∀ entry ∈ more, entry.2.isBegan = false) : Begins instant after right := by
  rw [Begins, phase, now, Record.start?_extend history unbegun]
  exact begins

/-- An exchange that has not run is about to. -/
theorem Reachable.busy_of_fresh (reached : before.Reachable number)
    (found : before.record = some left) (fresh : left.exchange.phase = .fresh) :
    before.jobs ≠ [] ∨ before.aside = true := by
  have watched := reached.watched found (by simp [isOver, fresh])
  rcases watched.rests with woken | aside | rests
  · exact .inl (List.ne_nil_of_mem (watched.queued woken))
  · exact .inr aside
  · obtain ⟨transport, deadline, waiting, -⟩ := rests.waits
    cases fresh.symm.trans waiting

theorem Acts.begins (acts : Acts number before left after right)
    (reached : before.Reachable number) (found : before.record = some left)
    (begins : Begins instant before left) : Begins instant after right := by
  have same : left.history = left.history ++ [] := (List.append_nil _).symm
  have none : ∀ entry ∈ ([] : List (Nat × Moment)), entry.2.isBegan = false :=
    List.forall_mem_nil _
  cases acts with
  | interrupt =>
    exact begins.extend left.exchange.alike_interrupt.kin.phase (stir_now _ _ _) rfl
      (List.forall_mem_singleton.2 rfl)
  | callBack =>
    exact begins.extend left.exchange.alike_wake.kin.phase (stir_now _ _ _) same none
  | run queue told =>
    rcases begins with began | ⟨fresh, unbegun, rfl⟩
    · exact .inl (Record.start?_of_some rfl began)
    · exact .inl (start?_of_first fresh unbegun told)
  | postpone => exact begins.extend rfl rfl same none
  | reportLate =>
    exact begins.extend
      ((left.exchange.kin_report _).trans (kin_release _)).phase
      (stir_now _ _ _) rfl (List.forall_mem_singleton.2 rfl)
  | elapse jobs aside =>
    rcases begins with began | ⟨fresh, -⟩
    · exact .inl began
    · rcases reached.busy_of_fresh found fresh with busy | busy
      · exact absurd jobs busy
      · cases aside.symm.trans busy
  | ring => exact begins.extend left.exchange.alike_wake.kin.phase (stir_now _ _ _) same none
  | fall => exact begins.extend rfl rfl same none

theorem Steps.begins (steps : Steps number before after) (reached : before.Reachable number)
    (found : before.record = some left) (there : after.record = some right)
    (begins : Begins instant before left) : Begins instant after right := by
  induction steps generalizing right with
  | refl =>
    cases found.symm.trans there
    exact begins
  | tail steps step ih =>
    obtain ⟨middle, -, present, -⟩ := Steps.history steps found
    exact (step.acts present there).begins (Steps.reachable reached steps) present (ih present)

end

end View

namespace Schedule

variable {schedule after : Schedule} {plan : Plan} {record : Record}

/-- A request that has run began in the instant in which it was started. -/
theorem start?_of_leads (reached : schedule.Reachable) (leads : (schedule.start plan).Leads after)
    (found : after.records[schedule.records.length]? = some record)
    (begun : record.exchange.phase ≠ .fresh) : record.start? = some schedule.now := by
  have started : (schedule.start plan).Reachable := reached.leads (.single (.start schedule plan))
  have fresh : (schedule.start plan).records[schedule.records.length]? =
      some ⟨Exchange.start plan, []⟩ := by
    simp [start]
  have steps := leads.views started.view schedule.records.length
  rcases steps.begins (started.view _) fresh found (.inr ⟨rfl, rfl, rfl⟩) with began | ⟨still, -⟩
  · exact began
  · exact absurd still begun

/-- Once time has passed, it has run. -/
theorem begun_of_sleep (reached : schedule.Reachable) {duration : Nat} (passes : duration ≠ 0)
    {number : Nat} (found : (schedule.sleep duration).records[number]? = some record) :
    record.exchange.phase ≠ .fresh := by
  intro fresh
  have arrived := reached.leads (leads_sleep schedule duration)
  obtain ⟨queue, aside, -⟩ := settled { schedule with runs := 0 } (schedule.now + duration)
  rcases (arrived.view number).busy_of_fresh found fresh with busy | busy
  · refine busy ?_
    rw [sleep, if_neg passes]
    simp [view, queue]
  · rw [sleep, if_neg passes] at busy
    simp [view, aside] at busy

end Schedule
end HttpExchange
