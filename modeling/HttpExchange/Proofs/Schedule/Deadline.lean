import HttpExchange.Proofs.Schedule.Rest

/-!
# The instant of a deadline

Among the timers of its instant that of a deadline goes off first (`Heeds`).
-/

namespace HttpExchange
namespace View

/-- The first timer of an instant wakes the exchange. -/
def WakesFirst (instant : Nat) (timers : List Timer) : Prop :=
  ∃ timer, timers.find? (fun timer => timer.instant == instant) = some timer ∧
    timer.job.isLate = false

/-- An exchange that waits for a deadline runs at its instant before it is reported anything. -/
def Heeds (number deadline : Nat) (view : View) (exchange : Exchange) (wait : Wait) : Prop :=
  view.now < deadline ∧ WakesFirst deadline view.timers ∨
    view.now = deadline ∧ exchange.ticks = [] ∧ wait ≠ .turn ∧
      (view.jobs.head? = some (.exchange number) ∨
        view.jobs = [] ∧ WakesFirst deadline view.timers)

namespace WakesFirst

variable {instant : Nat} {timers front back : List Timer}

theorem append (first : WakesFirst instant timers) (more : List Timer) :
    WakesFirst instant (timers ++ more) := by
  obtain ⟨timer, found, wakes⟩ := first
  exact ⟨timer, by rw [List.find?_append, found]; rfl, wakes⟩

theorem mem (first : WakesFirst instant timers) : ∃ timer ∈ timers, timer.instant = instant := by
  obtain ⟨timer, found, -⟩ := first
  exact ⟨timer, List.mem_of_find?_eq_some found, by simpa using List.find?_some found⟩

/-- A timer of another instant can be taken away. -/
theorem remove {timer : Timer} (first : WakesFirst instant (front ++ timer :: back))
    (other : timer.instant ≠ instant) : WakesFirst instant (front ++ back) := by
  obtain ⟨wakes, found, still⟩ := first
  rw [List.find?_append, List.find?_cons_of_neg (by simpa using other),
    ← List.find?_append] at found
  exact ⟨wakes, found, still⟩

/-- The timer that is due first wakes the exchange. -/
theorem of_first {timer : Timer} (first : WakesFirst instant (front ++ timer :: back))
    (undue : ∀ timer ∈ front, timer.instant ≠ instant) (due : timer.instant = instant) :
    timer.job.isLate = false := by
  obtain ⟨wakes, found, still⟩ := first
  have none : front.find? (fun timer => timer.instant == instant) = none :=
    List.find?_eq_none.2 fun timer member => by simpa using undue timer member
  rw [List.find?_append, none, List.find?_cons_of_pos (by simpa using due)] at found
  obtain rfl : timer = wakes := by simpa using found
  exact still

/-- Where no late tick has a timer, one that wakes the exchange is the first of its instant. -/
theorem of_mem {timer : Timer} (member : timer ∈ timers) (due : timer.instant = instant)
    (early : ∀ timer ∈ timers, timer.job.isLate = false) : WakesFirst instant timers := by
  cases found : timers.find? (fun timer => timer.instant == instant) with
  | none => simpa [due] using List.find?_eq_none.1 found timer member
  | some first => exact ⟨first, found, early first (List.mem_of_find?_eq_some found)⟩

end WakesFirst

namespace Heeds

variable {number deadline : Nat} {view : View} {exchange changed : Exchange} {wait : Wait}

theorem le (heeds : Heeds number deadline view exchange wait) : view.now ≤ deadline := by
  rcases heeds with ⟨early, -⟩ | ⟨there, -⟩
  · exact Nat.le_of_lt early
  · exact Nat.le_of_eq there

theorem stir {record : Record} (heeds : Heeds number deadline view exchange wait)
    (found : view.record = some record) (change : Exchange → Exchange)
    (ticks : changed.ticks = exchange.ticks) :
    Heeds number deadline (view.stir number change) changed wait := by
  rw [Heeds]
  rw [stir_now, stir_timers, stir_jobs found, ticks]
  refine heeds.imp_right fun ⟨there, drained, moves, next⟩ => ⟨there, drained, moves, ?_⟩
  split
  · rcases next with first | ⟨none, -⟩
    · exact .inl (by rw [List.head?_append, first]; rfl)
    · exact .inl (by rw [none]; rfl)
  · exact next

/-- Before a late tick can do anything the deadline is ahead. -/
theorem early_of_late {progress : Progress} {delay : Option Nat} {jobs : List Job}
    (heeds : Heeds number deadline view exchange wait)
    (queue : view.jobs = .lateTick number progress delay :: jobs) :
    view.now < deadline ∧ WakesFirst deadline view.timers := by
  rcases heeds with early | ⟨-, -, -, first | ⟨none, -⟩⟩
  · exact early
  · simp [queue] at first
  · cases none.symm.trans queue

theorem postpone {progress : Progress} {delay : Nat} {jobs : List Job}
    (heeds : Heeds number deadline view exchange wait)
    (queue : view.jobs = .lateTick number progress (some delay) :: jobs) (late : Timer) :
    Heeds number deadline { view with jobs := jobs, timers := view.timers ++ [late] } exchange
      wait :=
  .inl ((heeds.early_of_late queue).imp_right fun first => first.append _)

theorem reportLate {progress : Progress} {delay : Option Nat} {jobs : List Job}
    (heeds : Heeds number deadline view exchange wait)
    (queue : view.jobs = .lateTick number progress delay :: jobs) (changed : Exchange) :
    Heeds number deadline ({ view with jobs := jobs }.reportLate number progress) changed wait := by
  refine .inl ?_
  rw [View.reportLate]
  rw [stir_now, stir_timers]
  exact heeds.early_of_late queue

/-- The timer that goes off at the deadline wakes the exchange. -/
theorem ring {record : Record} {front back : List Timer}
    (heeds : Heeds number deadline view record.exchange wait)
    (watched : view.Watched number record.exchange) (found : view.record = some record)
    (timers : view.timers = front ++ ⟨view.now, .exchange number⟩ :: back) :
    Heeds number deadline ({ view with timers := front ++ back }.stir number Exchange.wake)
      record.exchange.wake wait := by
  rw [Heeds]
  rw [stir_now, stir_timers, @stir_jobs number { view with timers := front ++ back } record found,
    Exchange.wake_ticks]
  rcases heeds with ⟨early, first⟩ | ⟨there, drained, moves, next⟩
  · rw [timers] at first
    exact .inl ⟨early, first.remove (Nat.ne_of_lt early)⟩
  · refine .inr ⟨there, drained, moves, .inl ?_⟩
    rcases next with first | ⟨none, -⟩
    · split
      · exact (by rw [List.head?_append, first]; rfl)
      · exact first
    · have asleep : record.exchange.woken = false :=
        eq_false_of_ne_true fun woken => by simpa [none] using watched.queued woken
      rw [watched.steady.wake.1, asleep, none]
      rfl

/-- No late tick is due before the timer of the deadline went off. -/
theorem fall {front back : List Timer} {progress : Progress} {delay : Option Nat}
    (heeds : Heeds number deadline view exchange wait)
    (timers : view.timers = front ++ ⟨view.now, .lateTick number progress delay⟩ :: back)
    (first : ∀ timer ∈ front, timer.instant ≠ view.now) :
    Heeds number deadline { view with
      timers := front ++ back
      jobs := view.jobs ++ [.lateTick number progress delay] } exchange wait := by
  rcases heeds with ⟨early, wakes⟩ | ⟨there, drained, moves, next | ⟨-, wakes⟩⟩
  · rw [timers] at wakes
    exact .inl ⟨early, wakes.remove (Nat.ne_of_lt early)⟩
  · exact .inr ⟨there, drained, moves, .inl (by rw [List.head?_append, next]; rfl)⟩
  · rw [timers, ← there] at wakes
    cases wakes.of_first first rfl

/-- When the clock reaches the deadline, nothing is queued. -/
theorem elapse {limit : Nat} (heeds : Heeds number deadline view exchange wait)
    (silent : ∀ timer ∈ view.timers, limit ≤ timer.instant) (jobs : view.jobs = [])
    (drained : exchange.ticks = []) (moves : wait ≠ .turn) :
    Heeds number deadline { view with now := limit } exchange wait := by
  have wakes : WakesFirst deadline view.timers := by
    rcases heeds with ⟨-, first⟩ | ⟨-, -, -, next | ⟨-, first⟩⟩
    · exact first
    · simp [jobs] at next
    · exact first
  obtain ⟨timer, member, rfl⟩ := wakes.mem
  rcases Nat.lt_or_eq_of_le (silent timer member) with early | there
  · exact .inl ⟨early, wakes⟩
  · exact .inr ⟨there, drained, moves, .inr ⟨jobs, wakes⟩⟩

end Heeds

/-- Where no late tick has a timer, the timer of a deadline goes off first. -/
theorem Watched.wakesFirst {number deadline : Nat} {view : View} {exchange : Exchange}
    {transport : Transport} (watched : view.Watched number exchange)
    (waiting : exchange.phase = .waiting transport (some ⟨deadline, true⟩))
    (early : view.now < deadline) (none : ∀ timer ∈ view.timers, timer.job.isLate = false) :
    WakesFirst deadline view.timers := by
  obtain ⟨-, alarmed⟩ := watched.steady.deadline transport _ waiting
  have ring : deadline ∈ view.rings := (alarmed rfl).2.resolve_right (Nat.ne_of_gt early)
  obtain ⟨timer, member, rings⟩ := List.mem_filterMap.1 ring
  rw [Timer.ring?] at rings
  rw [if_neg (by simp [none timer member])] at rings
  exact .of_mem member (Option.some.inj rings) none

end View
end HttpExchange
