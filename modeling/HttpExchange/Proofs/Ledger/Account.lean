import HttpExchange.Proofs.Ledger.Run
import HttpExchange.Proofs.Schedule.Projection

/-!
# Every history keeps to the ledger
-/

namespace HttpExchange

open View

/-- The moments of a record, the oldest first. -/
def Record.moments (record : Record) : List Moment :=
  record.history.map Prod.snd

namespace Ledger

/-- A ledger accounts for the history of an exchange that is not running. -/
structure Accounts (ledger : Ledger) (record : Record) : Prop where
  follows : Follows record.exchange.plan.mode start record.moments ledger
  fits : Fits record.exchange.plan.mode ledger record.exchange record.exchange.ticks
  still : ledger.closed = false → ledger.stage.Open

theorem accounts_start (plan : Plan) : Accounts start ⟨.start plan, []⟩ :=
  ⟨.nil _, ⟨rfl, by simp [start, Exchange.start], by simp [start, Exchange.start], rfl,
    fun _ _ => rfl⟩, fun _ => trivial⟩

/-- The answers to the aborts that an exchange asked for are no entries. -/
theorem follows_told {mode : Mode} {before after : Ledger} {effects : List Effect}
    {moments : List Moment} (told : Told effects moments)
    (follows : Follows mode before (Effect.moments effects) after) :
    Follows mode before moments after := by
  induction told generalizing before with
  | nil => exact follows
  | cons effect answer told ih =>
    cases effect with
    | moment moment =>
      cases follows with
      | cons first rest => exact .cons first (ih rest)
    | abort request => exact .cons (.aborting before answer) (ih follows)
    | timer instant => exact ih follows
    | giveWay => exact ih follows
    | lateTick delay progress => exact ih follows

/-- A ledger that accounts for a record accounts for what becomes of it, by further entries. -/
theorem Accounts.change {ledger : Ledger} {number now : Nat} {before after : Record}
    (accounts : Accounts ledger before) (change : Change number now (some before) (some after)) :
    ∃ moments later, Follows before.exchange.plan.mode ledger moments later ∧
      Accounts later after ∧
      after.history = before.history ++ moments.map fun moment => (now, moment) := by
  have extend : ∀ {moments later}, after.exchange.plan = before.exchange.plan →
      Follows before.exchange.plan.mode ledger moments later →
      after.history = before.history ++ (moments.map fun moment => (now, moment)) →
      Fits before.exchange.plan.mode later after.exchange after.exchange.ticks →
      (later.closed = false → later.stage.Open) →
      ∃ moments later, Follows before.exchange.plan.mode ledger moments later ∧
        Accounts later after ∧
        after.history = before.history ++ moments.map fun moment => (now, moment) := by
    intro moments later plan follows history fits still
    have whole : after.moments = before.moments ++ moments := by
      simp [Record.moments, history, Function.comp_def]
    refine ⟨moments, later, follows, ⟨?_, ?_, still⟩, history⟩
    · rw [plan, whole]
      exact accounts.follows.append follows
    · rw [plan]
      exact fits
  cases change with
  | none => exact ⟨[], ledger, .nil ledger, accounts, by simp⟩
  | wake =>
    refine extend (Exchange.alike_wake _).plan (.nil ledger) (by simp) ?_ accounts.still
    dsimp only
    rw [Exchange.wake_ticks]
    exact accounts.fits.wake
  | interrupt =>
    obtain ⟨later, takes, fits, stops, closed⟩ := takes_interrupt accounts.fits
    refine extend (Exchange.alike_interrupt _).plan (.single takes) rfl ?_ ?_
    · dsimp only
      rw [Exchange.interrupt_ticks]
      exact fits
    · intro present
      exact stops.isOpen (accounts.still (closed.symm.trans present))
  | report _ progress =>
    obtain ⟨later, takes, fits, stage, closed⟩ := takes_report accounts.fits accounts.still progress
    have kin := (before.exchange.kin_report progress).trans (Exchange.kin_release _)
    refine extend kin.plan (.single takes) rfl ?_ ?_
    · dsimp only
      rw [Exchange.release_ticks]
      exact fits.release
    · intro present
      rw [stage]
      exact accounts.still (closed.symm.trans present)
  | run _ told =>
    obtain ⟨later, follows, fits, still⟩ := settles_run number now accounts.fits accounts.still
    exact extend (Exchange.run_plan _ _ _) (follows_told told follows) rfl fits still

/-- Every exchange keeps to the ledger. -/
theorem exists_accounts {view : View} {number : Nat} (reached : view.Reachable number)
    {record : Record} (found : view.record = some record) : ∃ ledger, Accounts ledger record := by
  refine reached.record_induction (motive := fun record => ∃ ledger, Accounts ledger record)
    (fun plan => ⟨start, accounts_start plan⟩) ?_ found
  rintro now before after change ⟨ledger, accounts⟩
  obtain ⟨moments, later, -, accounted, -⟩ := accounts.change change
  exact ⟨later, accounted⟩

end Ledger
end HttpExchange
