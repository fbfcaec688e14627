import HttpExchange.Exchange.Basic

/-!
# Reading histories

What a moment of an exchange tells.
-/

namespace HttpExchange

theorem Outcome.isTerminal_of_ofResult? {result : RequestResult} {outcome : Outcome}
    (same : ofResult? result = some outcome) : outcome.isTerminal = true := by
  simp only [ofResult?] at same
  split at same <;> cases same <;> rfl

/-- The progress of an outcome that is not terminal. -/
def Outcome.progress? : Outcome → Option Progress
  | progress tick => some tick
  | success .. | error _ | timeout | decodeFailure _ => none

@[simp] theorem Outcome.progress?_progress (tick : Progress) :
    (progress tick).progress? = some tick :=
  rfl

namespace Moment

/-- The progress that is reported at a moment. -/
def report? : Moment → Option Progress
  | .event (.reported progress) => some progress
  | _ => none

/-- The outcome that the callback receives at a moment. -/
def outcome? : Moment → Option Outcome
  | .event (.delivered _ outcome _) => some outcome
  | _ => none

/-- The progress that the callback receives at a moment. -/
def receipt? : Moment → Option Progress
  | .event (.delivered _ (.progress progress) _) => some progress
  | _ => none

/-- The exchange stops being pending at a moment. -/
def decides : Moment → Bool
  | .interrupted success => success
  | .resolved _ => true
  | .began | .event _ | .ended => false

/-- The last run ends. -/
def isEnd : Moment → Bool
  | .ended => true
  | .began | .event _ | .interrupted _ | .resolved _ => false

/-- What is received is no progress if it is terminal. -/
theorem receipt?_of_isTerminal {outcome : Outcome} (terminal : outcome.isTerminal = true)
    (pending : Bool) (answer : Option Bool) :
    (Moment.event (.delivered pending outcome answer)).receipt? = none := by
  cases outcome <;> simp_all [receipt?, Outcome.isTerminal]

/-- Progress that is received is an outcome. -/
theorem receipt?_eq (moment : Moment) :
    moment.receipt? = moment.outcome?.bind Outcome.progress? := by
  cases moment with
  | event event =>
    cases event with
    | delivered pending outcome answer => cases outcome <;> rfl
    | _ => rfl
  | _ => rfl

end Moment

/-- What the entries of a history say, and when. -/
def said {α : Type} (tells : Moment → Option α) (history : List (Nat × Moment)) : List (Nat × α) :=
  history.filterMap fun entry => (tells entry.2).map fun what => (entry.1, what)

section

variable {α : Type} (tells : Moment → Option α)

theorem said_append (front back : List (Nat × Moment)) :
    said tells (front ++ back) = said tells front ++ said tells back :=
  List.filterMap_append

theorem said_now (now : Nat) (moments : List Moment) :
    said tells (moments.map fun moment => (now, moment)) =
      (moments.filterMap tells).map fun what => (now, what) := by
  simp only [said, List.filterMap_map, List.map_filterMap, Function.comp_def]

theorem said_what (history : List (Nat × Moment)) :
    (said tells history).map Prod.snd = (history.map Prod.snd).filterMap tells := by
  simp [said, List.filterMap_map, List.map_filterMap, Function.comp_def]

end

end HttpExchange
