import HttpExchange.Proofs.Schedule.Alone

/-!
# Requests do not interfere

What happens to a request does not depend on the other requests, unless the script of one of them
aborts it.
-/

namespace HttpExchange

/-- The script of no other request aborts the one with a number. -/
def Command.Spare (number : Nat) (commands : List Command) : Prop :=
  ∀ other plan, other ≠ number → (plans commands)[other]? = some plan → .abort number ∉ plan.script

/-- Two schedules show the same of the request with a number. -/
structure Schedule.ShowSame (number : Nat) (left right : Schedule) : Prop where
  /-- They are at the same instant. -/
  now : left.now = right.now
  /-- The request is in the same state, and the same happened to it at the same instants, except
  that it may have run for nothing and that other requests may have answered its aborts
  otherwise. -/
  record : left.records[number]?.map Record.shown = right.records[number]?.map Record.shown
  /-- An abort of the request gets the same answer. -/
  answer : (left.abort number).2 = (right.abort number).2

namespace Schedule

theorem spares_after {number : Nat} {commands : List Command}
    (spare : Command.Spare number commands) : (initial.after commands).Spares number := by
  intro other record different found
  refine spare other record.exchange.plan different ?_
  rw [← plans_after, plans, List.getElem?_map, found, Option.map_some]

theorem answer_abort (schedule : Schedule) (number : Nat) :
    (schedule.abort number).2 = (schedule.records[number]?.map Record.shown).bind fun record =>
      if record.exchange.plan.hasHandle then some record.exchange.interrupt.2 else none := by
  rw [abort]
  cases found : schedule.records[number]? with
  | none => rfl
  | some record =>
    simp only [Option.map_some, Option.bind_some, Record.shown]
    split <;> rfl

theorem showSame_of_view {number : Nat} {left right : Schedule}
    (same : (left.view number).shown = (right.view number).shown) : ShowSame number left right := by
  have record : left.records[number]?.map Record.shown =
      right.records[number]?.map Record.shown := congrArg View.record same
  refine ⟨congrArg View.now same, record, ?_⟩
  rw [answer_abort, answer_abort, record]

/-- Two scenarios that last equally long and do the same to a request at the same instants show the
same of it, whatever they do to other requests, if the script of none of these aborts it. -/
theorem requests_do_not_interfere (number : Nat) (first second : List Command)
    (same : Command.deeds number 0 0 first = Command.deeds number 0 0 second)
    (long : Command.length first = Command.length second)
    (spare : Command.Spare number first) (unspoilt : Command.Spare number second) :
    ShowSame number (initial.after first) (initial.after second) := by
  obtain ⟨left, replays, later⟩ := replays_after .refl first (spares_after spare)
  obtain ⟨right, others, beyond⟩ := replays_after .refl second (spares_after unspoilt)
  change View.Replays number _ (Command.deeds number 0 0 first) left at replays
  change View.Replays number _ (Command.deeds number 0 0 second) right at others
  rw [same] at replays
  rw [replays.unique others, long] at later
  exact showSame_of_view (later.unique beyond)

/-- A send that yields while its progress is on its way. -/
def yielding : Plan :=
  ⟨.send (.present none), "http://localhost/", .empty, 9, ⟨.raw, .post, true⟩,
    [.lateTick 0 ⟨1, none⟩, .yield, .sleep 2, .abort 0, .respond ⟨200, [], .octets []⟩]⟩

/-- It runs beside a fetch that is cancelled. -/
def besideFetch : List Command :=
  [.start ⟨.fetch, "http://localhost/", .empty, 0, ⟨.raw, .post, false⟩, [.yield, .sleep 7]⟩,
    .start yielding, .sleep 1, .cancel 0, .sleep 4]

/-- It runs beside a send that it aborts, and another fetch. -/
def besideSend : List Command :=
  [.start ⟨.send .absent, "", .empty, 3, ⟨.raw, .post, true⟩, [.abort 2, .hang]⟩,
    .start yielding, .start ⟨.fetch, "/", .empty, 2, ⟨.raw, .post, false⟩, [.abort 0, .yield]⟩,
    .sleep 5]

theorem spare_besideFetch : Command.Spare 1 besideFetch := by
  rintro (_ | _ | other) plan different found
  · cases found
    simp
  · contradiction
  · cases found

theorem spare_besideSend : Command.Spare 1 besideSend := by
  rintro (_ | _ | _ | other) plan different found
  · cases found
    simp
  · contradiction
  · cases found
    simp
  · cases found

theorem shows_same_beside_others :
    ShowSame 1 (initial.after besideFetch) (initial.after besideSend) ∧
      (initial.after besideFetch).records[1]?.map (fun record => record.exchange.status) =
        some .responded :=
  ⟨requests_do_not_interfere 1 besideFetch besideSend rfl rfl spare_besideFetch spare_besideSend,
    rfl⟩

end Schedule
end HttpExchange
