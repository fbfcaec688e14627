import HttpExchange.Words
import HttpExchange.Proofs.Schedule.Octets
import HttpExchange.Proofs.Text.Utf8
import HttpExchange.Proofs.Transport
import HttpExchange.Proofs.Upload.Cutting

/-!
# What a window shows of its buffer

That a window fits its buffer is all that reading it later relies on.
-/

namespace HttpExchange

/-! ### Words -/

namespace Window

open Upload

/-- Words make the windows that fit and no others. -/
theorem ofWords_eq_ofBuffer {backing : Bytes} (fits : backing.length < UInt64.size)
    (offset length : UInt64) :
    ofWords backing offset length = ofBuffer backing offset.toNat length.toNat := by
  by_cases within : offset.toNat + length.toNat ≤ backing.length
  · obtain ⟨last, known, meant⟩ := sum?_eq (Nat.lt_of_le_of_lt within fits)
    have inside : last.toNat ≤ backing.length := meant ▸ within
    rw [ofBuffer, dif_pos within, ofWords]
    split
    · rename_i other same
      cases known.symm.trans same
      rw [dif_pos inside]
    · rename_i exceeds
      cases exceeds.symm.trans known
  · rw [ofBuffer, dif_neg within, ofWords]
    split
    · rename_i last known
      rw [dif_neg (toNat_of_sum? known ▸ within)]
    · rfl

/-- Reading a window again succeeds, as it lies within its buffer. -/
theorem slice?_eq (window : Window) (fits : window.backing.length < UInt64.size) :
    window.slice? = some window.bytes := by
  have within := window.within
  have offset : (UInt64.ofNat window.offset).toNat = window.offset :=
    UInt64.toNat_ofNat_of_lt (by omega)
  have length : (UInt64.ofNat window.length).toNat = window.length :=
    UInt64.toNat_ofNat_of_lt (by omega)
  obtain ⟨last, known, meant⟩ := sum?_eq
    (show (UInt64.ofNat window.offset).toNat + (UInt64.ofNat window.length).toNat < UInt64.size by
      omega)
  rw [offset, length] at meant
  have ordered : UInt64.ofNat window.offset ≤ last ∧ last.toNat ≤ window.backing.length := by
    rw [UInt64.le_iff_toNat_le, offset, meant]
    exact ⟨Nat.le_add_right _ _, within⟩
  simp [slice?, known, cut?, ordered, offset, meant, slice, bytes, within]

end Window

/-- A body has as many octets as it says. -/
theorem Body.length_bytes (body : Body) : body.bytes.length = body.length := by
  cases body with
  | empty | octets content => rfl
  | text content => exact Utf8.length_encode content
  | window part => exact part.length_bytes

/-! ### Transports -/

/-- The plan with another body. -/
def Plan.withBody (plan : Plan) (body : Body) : Plan :=
  { plan with body := body }

/-- Whatever transport is called gets the request of the plan. -/
theorem Record.request_of_mem_calls {schedule : Schedule} (reached : schedule.Reachable)
    {number : Nat} {record : Record} (found : schedule.records[number]? = some record)
    {call : Request × Bool} (member : call ∈ record.calls) :
    call.1 = record.exchange.plan.request := by
  rw [(exists_tended (reached.view number) found).calls] at member
  split at member
  · cases member
  · rw [List.mem_singleton.1 member]

/-- Scenarios whose bodies have the same octets lead to the same calls. -/
theorem Record.calls_of_flat {first second : List Command}
    (same : first.map Command.flat = second.map Command.flat) (number : Nat) :
    (Schedule.initial.after first).records[number]?.map Record.calls =
      (Schedule.initial.after second).records[number]?.map Record.calls := by
  have flat : (Schedule.initial.after first).flat = (Schedule.initial.after second).flat := by
    rw [← Schedule.flat_after, ← Schedule.flat_after, same]
  have calls :=
    congrArg (fun schedule : Schedule => schedule.records[number]?.map Record.calls) flat
  simp only [Schedule.getElem?_flat, Option.map_map] at calls
  exact calls

/-- The window is all that is shown of its buffer. -/
structure Window.ShowsItself (window : Window) : Prop where
  /-- Wherever the window is the body of a request, its octets are what the transport gets. -/
  transmitted : ∀ schedule : Schedule, schedule.Reachable → ∀ (number : Nat) (record : Record),
    schedule.records[number]? = some record → record.exchange.plan.body = .window window →
      ∀ call ∈ record.calls, call.1.body = (window.backing.drop window.offset).take window.length
  /-- With another window of the same octets in its place all transports get the same. -/
  unseen : ∀ other : Window, other.bytes = window.bytes →
    ∀ (front : List Command) (plan : Plan) (back : List Command) (number : Nat),
      (Schedule.initial.after (front ++ .start (plan.withBody (.window window)) :: back)
        ).records[number]?.map Record.calls =
      (Schedule.initial.after (front ++ .start (plan.withBody (.window other)) :: back)
        ).records[number]?.map Record.calls

theorem Window.showsItself (window : Window) : window.ShowsItself := by
  constructor
  case transmitted =>
    intro schedule reached number record found body call member
    rw [Record.request_of_mem_calls reached found member, Plan.request, body]
    rfl
  case unseen =>
    intro other same front plan back number
    refine Record.calls_of_flat ?_ number
    have flat : (plan.withBody (.window window)).flat = (plan.withBody (.window other)).flat := by
      simp only [Plan.flat, Plan.withBody, Body.bytes, same]
    simp [Command.flat, flat]

/-! ### Exactness -/

/-- What becomes of an offset and a length in a buffer. -/
structure Window.Exact (backing : Bytes) (offset length : UInt64) : Prop where
  /-- There is a window exactly where it fits. -/
  made_iff : (∃ window, ofWords backing offset length = .ok window) ↔
    offset.toNat + length.toNat ≤ backing.length
  /-- Otherwise it is told what was asked for and what there is. -/
  refused : ¬ offset.toNat + length.toNat ≤ backing.length →
    ofWords backing offset length = .error ⟨offset.toNat, length.toNat, backing.length⟩
  /-- The window keeps the whole buffer, and its place in it. -/
  kept : ∀ window, ofWords backing offset length = .ok window →
    window.backing = backing ∧ window.offset = offset.toNat ∧ window.length = length.toNat
  /-- Its octets are those of the buffer from the offset on, and they can be read. -/
  read : ∀ window, ofWords backing offset length = .ok window →
    window.bytes = (backing.drop offset.toNat).take length.toNat ∧
      window.bytes.length = length.toNat ∧ window.slice? = some window.bytes
  /-- As the body of a request it shows them, and nothing else of the buffer. -/
  shown : ∀ window, ofWords backing offset length = .ok window → window.ShowsItself

/-- A window shows its octets and nothing else, and every body as many octets as it says. -/
theorem windows_transmit_exactly {backing : Bytes} (fits : backing.length < UInt64.size)
    (offset length : UInt64) :
    Window.Exact backing offset length ∧ ∀ body : Body, body.bytes.length = body.length := by
  refine ⟨?_, Body.length_bytes⟩
  have same := Window.ofWords_eq_ofBuffer fits offset length
  by_cases within : offset.toNat + length.toNat ≤ backing.length
  · have made : Window.ofWords backing offset length =
        .ok ⟨backing, offset.toNat, length.toNat, within⟩ := same.trans (dif_pos within)
    constructor
    case made_iff => exact iff_of_true ⟨_, made⟩ within
    case refused => exact fun beyond => absurd within beyond
    case kept =>
      intro window known
      cases made.symm.trans known
      exact ⟨rfl, rfl, rfl⟩
    case read =>
      intro window known
      cases made.symm.trans known
      exact ⟨rfl, Window.length_bytes _, Window.slice?_eq _ fits⟩
    case shown => exact fun window _ => window.showsItself
  · have failed : Window.ofWords backing offset length =
        .error ⟨offset.toNat, length.toNat, backing.length⟩ := same.trans (dif_neg within)
    have unmade : ∀ window, Window.ofWords backing offset length ≠ .ok window := by
      intro window known
      cases failed.symm.trans known
    constructor
    case made_iff => exact iff_of_false (fun ⟨window, known⟩ => unmade window known) within
    case refused => exact fun _ => failed
    case kept => exact fun window known => absurd known (unmade window)
    case read => exact fun window known => absurd known (unmade window)
    case shown => exact fun window _ => window.showsItself

/-- A window within its buffer, one without octets at its end, and one whose end no word holds; the
first as the body of a fetch. -/
theorem windows_of_five_octets :
    (Window.Exact [1, 2, 3, 4, 5] 1 3 ∧ Window.Exact [1, 2, 3, 4, 5] 5 0 ∧
      Window.Exact [1, 2, 3, 4, 5] 18446744073709551615 2) ∧
    (Window.ofWords [1, 2, 3, 4, 5] 1 3).map Window.slice? = .ok (some [2, 3, 4]) ∧
    (Window.ofWords [1, 2, 3, 4, 5] 5 0).map Window.slice? = .ok (some []) ∧
    (Window.ofWords [1, 2, 3, 4, 5] 18446744073709551615 2).map Window.slice? =
      .error ⟨18446744073709551615, 2, 5⟩ ∧
    ((Schedule.initial.after
      [.start
          ⟨.fetch, "/", .window ⟨[1, 2, 3, 4, 5], 1, 3, by decide⟩, 0, ⟨.raw, .post, false⟩, []⟩,
        .sleep 1]).records[0]?.map fun record => record.calls.map (·.1.body)) = some [[2, 3, 4]] :=
  ⟨⟨(windows_transmit_exactly (by decide) 1 3).1, (windows_transmit_exactly (by decide) 5 0).1,
    (windows_transmit_exactly (by decide) 18446744073709551615 2).1⟩, rfl, rfl, rfl, rfl⟩

end HttpExchange
