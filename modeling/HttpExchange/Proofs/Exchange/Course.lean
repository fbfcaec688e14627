import HttpExchange.Proofs.Exchange.Rest

/-!
# How long a transport takes

The course of what is left of a script and the time that passed add up to the course of the whole.
-/

namespace HttpExchange

/-- How a script returns. -/
structure Course where
  /-- How long it waits before it returns. -/
  delay : Nat
  /-- It yields after all its waits. -/
  yields : Bool
  /-- What it returns. -/
  result : Except String RawResponse

namespace Course

/-- The course after another wait. -/
def delayed (duration : Nat) (course : Course) : Course :=
  { course with delay := duration + course.delay }

/-- The course after a yield. -/
def yielded (course : Course) : Course :=
  { course with yields := course.yields || course.delay == 0 }

/-- The course of a script, unless it hangs. -/
def of? : List Step → Option Course
  | [] => some ⟨0, false, .error "script ended"⟩
  | .tick _ :: script | .lateTick .. :: script | .dropSink :: script | .abort _ :: script =>
    of? script
  | .sleep duration :: script => (of? script).map (delayed duration)
  | .yield :: script => (of? script).map yielded
  | .hang :: _ => none
  | .respond response :: _ => some ⟨0, false, .ok response⟩
  | .fail message :: _ => some ⟨0, false, .error message⟩

theorem delayed_zero (course : Course) : course.delayed 0 = course := by
  simp [delayed]

theorem delayed_delayed (front back : Nat) (course : Course) :
    (course.delayed back).delayed front = course.delayed (front + back) := by
  simp [delayed, Nat.add_assoc]

theorem yielded_yielded (course : Course) : course.yielded.yielded = course.yielded := by
  simp [yielded]

/-- A wait hides a yield before it. -/
theorem yielded_delayed {duration : Nat} (lasts : 0 < duration) (course : Course) :
    (course.delayed duration).yielded = course.delayed duration := by
  simp [yielded, delayed, Nat.ne_of_gt lasts]

end Course

/-- The waits of a script last. -/
def Lasting (script : List Step) : Prop :=
  ∀ duration, .sleep duration ∈ script → 0 < duration

theorem Lasting.tail {step : Step} {script : List Step} (lasting : Lasting (step :: script)) :
    Lasting script :=
  fun duration member => lasting duration (List.mem_cons_of_mem _ member)

/-- The course of a transport that waits at `now`. -/
def Transport.course? (now : Nat) (transport : Transport) : Option Course :=
  match transport.wait with
  | .turn => (Course.of? transport.script).map Course.yielded
  | .clock instant => (Course.of? transport.script).map (Course.delayed (instant - now))
  | .forever => none

/-- A transport got as far as `stop` at `now`, some course being ahead of it. -/
def Stop.Keeps (now : Nat) (course : Option Course) : Stop → Prop
  | .returns result => course = some ⟨0, false, result⟩
  | .waits script wait _ => Lasting script ∧ (∀ instant, wait = .clock instant → now < instant) ∧
      ∀ since sink, Transport.course? now ⟨script, wait, since, sink⟩ = course

namespace Exchange

/-- To play a script is to go some way of its course. -/
theorem keeps_play {script : List Step} (lasting : Lasting script) (self now allowance : Nat)
    (sink : Bool) (exchange : Exchange) :
    (play self now allowance script sink exchange).stop.Keeps now (Course.of? script) ∧
      (play self now allowance script sink exchange).allowance = allowance := by
  induction script generalizing sink exchange with
  | nil => exact ⟨rfl, rfl⟩
  | cons step script ih =>
    have rest := ih lasting.tail
    cases step with
    | tick progress =>
      rw [play]
      split
      · exact rest _ _
      · exact rest _ _
    | lateTick delay progress =>
      rw [play]
      split
      · exact rest _ _
      · exact rest _ _
    | dropSink => exact rest _ _
    | sleep duration =>
      have lasts := lasting duration List.mem_cons_self
      rw [play]
      split
      · refine ⟨⟨lasting, by simp, fun _ _ => ?_⟩, rfl⟩
        simp only [Transport.course?, Course.of?, Option.map_map]
        congr 1
        funext course
        exact Course.yielded_delayed lasts course
      · rw [if_neg (Nat.ne_of_gt lasts)]
        refine ⟨⟨lasting.tail, ?_, fun _ _ => ?_⟩, rfl⟩
        · rintro _ ⟨⟩
          omega
        · simp [Transport.course?, Course.of?]
    | yield => exact ⟨⟨lasting.tail, by simp, fun _ _ => rfl⟩, rfl⟩
    | hang => exact ⟨⟨lasting.tail, by simp, fun _ _ => rfl⟩, rfl⟩
    | abort request =>
      rw [play]
      split
      · exact rest _ _
      · exact rest _ _
    | respond response => exact ⟨rfl, rfl⟩
    | fail message => exact ⟨rfl, rfl⟩

/-- A transport that waits has yielded, or has a wait ahead of it. -/
theorem yielded_course? {now : Nat} {transport : Transport}
    (ahead : ∀ instant, transport.wait = .clock instant → now < instant) :
    (transport.course? now).map Course.yielded = transport.course? now := by
  rw [Transport.course?]
  split
  · simp [Function.comp_def, Course.yielded_yielded]
  · rename_i instant clock
    have lasts : 0 < instant - now := Nat.sub_pos_of_lt (ahead instant clock)
    simp [Function.comp_def, Course.yielded_delayed lasts]
  · rfl

/-- What polling a transport tells of its course. -/
structure Polls (now allowance : Nat) (transport : Transport) (played : Played) : Prop where
  /-- It returns in the instant in which its course ends. -/
  returns : ∀ result, played.stop = .returns result → ∃ yields,
    transport.course? now = some ⟨0, yields, result⟩ ∧ (yields = true → transport.wait = .turn)
  /-- It keeps its course while it waits. -/
  waits : ∀ script wait sink, played.stop = .waits script wait sink → Lasting script ∧
    (∀ instant, wait = .clock instant → now < instant ∨ allowance = 0) ∧
      ∀ since, Transport.course? now ⟨script, wait, since, sink⟩ = transport.course? now
  /-- It finds one wait over at most. -/
  allowance : allowance ≤ played.allowance + 1

theorem polls_poll (exchange : Exchange) (self now allowance : Nat) {transport : Transport}
    (lasting : Lasting transport.script)
    (ahead : ∀ instant, transport.wait = .clock instant → now ≤ instant) :
    Polls now allowance transport (exchange.poll self now allowance transport) := by
  unfold poll
  dsimp only
  split
  · rename_i turn
    obtain ⟨keeps, kept⟩ := keeps_play lasting self now allowance transport.sink exchange
    have course : transport.course? now = (Course.of? transport.script).map Course.yielded := by
      simp only [Transport.course?, turn]
    refine ⟨fun result stop => ?_, fun script wait sink stop => ?_, by omega⟩
    · rw [stop] at keeps
      have returns : Course.of? transport.script = some ⟨0, false, result⟩ := keeps
      exact ⟨true, by rw [course, returns]; rfl, fun _ => turn⟩
    · rw [stop] at keeps
      obtain ⟨rest, later, same⟩ := keeps
      refine ⟨rest, fun instant clock => .inl (later instant clock), fun since => ?_⟩
      have waits := @yielded_course? now ⟨script, wait, since, sink⟩ later
      rw [same since sink] at waits
      rw [same since sink, course, waits]
  · rename_i forever
    refine ⟨nofun, ?_, Nat.le_succ _⟩
    rintro _ _ _ ⟨⟩
    exact ⟨lasting, by simp [forever], fun _ => rfl⟩
  · rename_i instant clock
    have soon := ahead instant clock
    split
    · rename_i spent
      refine ⟨nofun, ?_, Nat.le_succ _⟩
      rintro _ _ _ ⟨⟩
      exact ⟨lasting, fun _ _ => .inr spent, fun _ => rfl⟩
    · rename_i left
      split
      · rename_i due
        obtain ⟨keeps, kept⟩ :=
          keeps_play lasting self now (allowance - 1) transport.sink exchange
        have course : transport.course? now = Course.of? transport.script := by
          obtain rfl : instant = now := Nat.le_antisymm due soon
          simp only [Transport.course?, clock, Nat.sub_self]
          simp [show Course.delayed 0 = id from funext Course.delayed_zero]
        refine ⟨fun result stop => ?_, fun script wait sink stop => ?_, by omega⟩
        · rw [stop] at keeps
          exact ⟨false, course.trans keeps, nofun⟩
        · rw [stop] at keeps
          obtain ⟨rest, later, same⟩ := keeps
          exact ⟨rest, fun instant clock => .inl (later instant clock), fun since =>
            (same since sink).trans course.symm⟩
      · rename_i early
        refine ⟨nofun, ?_, Nat.le_succ _⟩
        rintro _ _ _ ⟨⟩
        refine ⟨lasting, fun other same => .inl ?_, fun _ => rfl⟩
        cases clock.symm.trans same
        exact Nat.lt_of_not_le early

end Exchange

end HttpExchange
