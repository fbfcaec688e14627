import HttpExchange.Outcome.Basic

/-!
# Outcomes and results

Both tables are readings of one relation, `Folded`.
-/

namespace HttpExchange.Outcome

/-- The outcome that a result is delivered as.  Nothing is delivered for an aborted request, and no
result is delivered as progress. -/
inductive Folded : RequestResult → Outcome → Prop where
  | success (response : Response) :
      Folded (.ok response) (success response.payload response.elapsed response.headers)
  | transport (message : String) : Folded (.error (.transport message)) (error none)
  | server (status : Nat) : Folded (.error (.server status)) (error (some status))
  | timeout : Folded (.error .timeout) timeout
  | decode (message : String) : Folded (.error (.decode message)) (decodeFailure message)

/-- The message of a result is lost in its outcome: it is a transport failure, and its message is
not the one that the outcome leads back to. -/
def Reworded (result : RequestResult) : Prop :=
  ∃ message, message ≠ unknownFailure ∧ result = .error (.transport message)

theorem not_reworded {result : RequestResult}
    (other : ∀ message, result ≠ .error (.transport message)) : ¬ Reworded result :=
  fun ⟨message, _, same⟩ => other message same

/-! ### The two tables -/

theorem ofResult?_eq_some_iff {result : RequestResult} {outcome : Outcome} :
    ofResult? result = some outcome ↔ Folded result outcome := by
  constructor
  · intro folded
    match result with
    | .ok response => cases folded; exact .success response
    | .error (.transport message) => cases folded; exact .transport message
    | .error (.server status) => cases folded; exact .server status
    | .error .timeout => cases folded; exact .timeout
    | .error (.decode message) => cases folded; exact .decode message
    | .error .aborted => cases folded
  · intro folded
    cases folded <;> rfl

/-- Back from an outcome leads to the one of its results that is not reworded. -/
theorem toResult?_eq_some_iff {result : RequestResult} {outcome : Outcome} :
    toResult? outcome = some result ↔ Folded result outcome ∧ ¬ Reworded result := by
  constructor
  · intro back
    match outcome with
    | .success payload elapsed headers =>
      cases back
      exact ⟨.success ⟨payload, elapsed, headers⟩, not_reworded nofun⟩
    | .error (some status) => cases back; exact ⟨.server status, not_reworded nofun⟩
    | .error none =>
      cases back
      refine ⟨.transport unknownFailure, fun ⟨message, differs, same⟩ => ?_⟩
      cases same
      exact differs rfl
    | .timeout => cases back; exact ⟨.timeout, not_reworded nofun⟩
    | .decodeFailure message => cases back; exact ⟨.decode message, not_reworded nofun⟩
    | .progress tick => cases back
  · rintro ⟨folded, kept⟩
    cases folded with
    | transport message =>
      have fixed : message = unknownFailure :=
        Classical.byContradiction fun differs => kept ⟨message, differs, rfl⟩
      rw [fixed]
      rfl
    | success response => rfl
    | server status => rfl
    | timeout => rfl
    | decode message => rfl

theorem ofResult?_eq_none_iff {result : RequestResult} :
    ofResult? result = none ↔ result = .error .aborted := by
  constructor
  · intro undelivered
    match result with
    | .ok response => cases undelivered
    | .error (.transport message) => cases undelivered
    | .error (.server status) => cases undelivered
    | .error .timeout => cases undelivered
    | .error (.decode message) => cases undelivered
    | .error .aborted => rfl
  · rintro rfl
    rfl

theorem toResult?_eq_none_iff {outcome : Outcome} :
    toResult? outcome = none ↔ outcome.isTerminal = false := by
  match outcome with
  | .success .. | .error (some _) | .error none | .timeout | .decodeFailure _ =>
    exact iff_of_false nofun nofun
  | .progress tick => exact iff_of_true rfl rfl

/-- There is a way back from every terminal outcome. -/
theorem exists_toResult? {outcome : Outcome} (terminal : outcome.isTerminal = true) :
    ∃ result, toResult? outcome = some result := by
  refine Option.ne_none_iff_exists'.1 fun lost => ?_
  cases terminal.symm.trans (toResult?_eq_none_iff.1 lost)

/-! ### What an outcome keeps -/

/-- What can be asked of an outcome has the answer that its result gives. -/
structure Tells (outcome : Outcome) (result : RequestResult) : Prop where
  /-- Successes are the results with a response. -/
  success : outcome.isSuccess = true ↔ ∃ response, result = .ok response
  /-- The time is that of the response. -/
  elapsed : outcome.elapsed? = result.toOption.map Response.elapsed
  /-- The header fields are those of the response. -/
  header : ∀ name, outcome.header? name = result.toOption.bind (Response.header? · name)
  /-- The status is the one with which the server refused. -/
  status : ∀ status, outcome.status? = some status ↔ result = .error (.server status)

namespace Folded

variable {result : RequestResult} {outcome : Outcome}

theorem terminal (folded : Folded result outcome) : outcome.isTerminal = true := by
  cases folded <;> rfl

/-- The way back leads to the result itself unless it is reworded. -/
theorem back_eq_iff {back : RequestResult} (folded : Folded result outcome)
    (returned : toResult? outcome = some back) : back = result ↔ ¬ Reworded result := by
  constructor
  · rintro rfl
    exact (toResult?_eq_some_iff.1 returned).2
  · intro kept
    exact Option.some.inj (returned.symm.trans (toResult?_eq_some_iff.2 ⟨folded, kept⟩))

theorem tells (folded : Folded result outcome) : Tells outcome result := by
  constructor
  case success => cases folded <;> simp [isSuccess]
  case elapsed => cases folded <;> rfl
  case header => intro name; cases folded <;> rfl
  case status => intro status; cases folded <;> simp [status?]

end Folded

/-! ### Both ways -/

/-- What becomes of an outcome on the way to a result and back. -/
structure ThereAndBack (outcome : Outcome) : Prop where
  /-- Progress, and nothing else, has no result. -/
  none_iff : toResult? outcome = none ↔ outcome.isTerminal = false
  /-- A terminal outcome comes back as it was. -/
  same : outcome.isTerminal = true →
    ∃ result, toResult? outcome = some result ∧ ofResult? result = some outcome

/-- What becomes of a result on the way to an outcome and back. -/
structure Delivered (result : RequestResult) : Prop where
  /-- An aborted request, and nothing else, has no outcome. -/
  none_iff : ofResult? result = none ↔ result = .error .aborted
  /-- The outcome ends its request. -/
  terminal : ∀ outcome, ofResult? result = some outcome → outcome.isTerminal = true
  /-- The outcome leads back to a result with the same outcome; it is the same result unless a
  message of a transport failure was lost. -/
  back : ∀ outcome, ofResult? result = some outcome →
    ∃ back, toResult? outcome = some back ∧ (back = result ↔ ¬ Reworded result) ∧
      ofResult? back = some outcome
  /-- The outcome answers as the result does. -/
  tells : ∀ outcome, ofResult? result = some outcome → Tells outcome result

/-- Outcomes and results are turned into each other with nothing lost but the messages of transport
failures. -/
theorem conversions :
    (∀ outcome, ThereAndBack outcome) ∧ ∀ result, Delivered result := by
  constructor
  · intro outcome
    constructor
    case none_iff => exact toResult?_eq_none_iff
    case same =>
      intro terminal
      obtain ⟨result, returned⟩ := exists_toResult? terminal
      exact ⟨result, returned, ofResult?_eq_some_iff.2 (toResult?_eq_some_iff.1 returned).1⟩
  · intro result
    constructor
    case none_iff => exact ofResult?_eq_none_iff
    case terminal => exact fun outcome delivered => (ofResult?_eq_some_iff.1 delivered).terminal
    case back =>
      intro outcome delivered
      have folded := ofResult?_eq_some_iff.1 delivered
      obtain ⟨back, returned⟩ := exists_toResult? folded.terminal
      exact ⟨back, returned, folded.back_eq_iff returned,
        ofResult?_eq_some_iff.2 (toResult?_eq_some_iff.1 returned).1⟩
    case tells => exact fun outcome delivered => (ofResult?_eq_some_iff.1 delivered).tells

end HttpExchange.Outcome
