import HttpExchange.Upload

/-!
# Progress of an upload
-/

namespace HttpExchange
namespace Upload

/-- The first chunks, joined, are the first octets. -/
theorem flatten_take_chunksOfSucc (size count : Nat) (body : Bytes) :
    ((chunksOfSucc size body).take count).flatten = body.take (count * (size + 1)) := by
  fun_induction chunksOfSucc size body generalizing count with
  | case1 => simp
  | case2 octet rest ih =>
    cases count with
    | zero => simp
    | succ count =>
      have first : (count + 1) * (size + 1) = (size + count * (size + 1)) + 1 := by
        rw [Nat.succ_mul]
        omega
      rw [List.take_succ_cons, List.flatten_cons, ih, first, List.take_succ_cons, List.take_add,
        List.cons_append]

theorem flatten_take_chunks (requested count : Nat) (body : Bytes) :
    ((chunks requested body).take count).flatten = body.take (count * effectiveSize requested) := by
  rw [chunks, flatten_take_chunksOfSucc, Nat.sub_add_cancel (effectiveSize_pos requested)]

/-- A tick counts the octets of its chunk and of those before. -/
theorem progressFrom_eq_map (total loaded : Nat) (chunks : List Bytes) :
    progressFrom total loaded chunks = (List.range chunks.length).map fun index =>
      ⟨loaded + (chunks.take (index + 1)).flatten.length, some total⟩ := by
  induction chunks generalizing loaded with
  | nil => rfl
  | cons chunk chunks ih =>
    rw [progressFrom, ih, List.length_cons, List.range_succ_eq_map, List.map_cons, List.map_map]
    simp [Function.comp_def, Nat.add_assoc]

/-- The ticks of an upload. -/
structure Ticks (requested : Nat) (body : Bytes) (ticks : List Progress) : Prop where
  /-- There is one for each chunk. -/
  count : ticks.length = (chunks requested body).length
  /-- Each counts the octets up to the end of its chunk. -/
  loaded : ∀ (index : Nat) (tick : Progress), ticks[index]? = some tick →
    tick = ⟨min ((index + 1) * effectiveSize requested) body.length, some body.length⟩
  /-- The last counts all octets. -/
  last : body ≠ [] → ticks.getLast? = some ⟨body.length, some body.length⟩
  /-- There is none without octets. -/
  empty : body = [] → ticks = []

theorem ticks_progress (requested : Nat) (body : Bytes) :
    Ticks requested body (progress requested body) := by
  have all : progress requested body = (List.range (chunks requested body).length).map fun index =>
      ⟨((chunks requested body).take (index + 1)).flatten.length, some body.length⟩ := by
    rw [progress, progressFrom_eq_map]
    simp only [Nat.zero_add]
  refine ⟨by simp [all], fun index tick found => ?_, fun nonempty => ?_, ?_⟩
  · rw [all, List.getElem?_map, Option.map_eq_some_iff] at found
    obtain ⟨position, there, rfl⟩ := found
    obtain ⟨-, rfl⟩ := List.getElem?_eq_some_iff.1 there
    rw [List.getElem_range, flatten_take_chunks, List.length_take]
  · have chunked : chunks requested body ≠ [] := fun none => nonempty (by
      rw [← flatten_chunks requested body, none]
      rfl)
    obtain ⟨count, length⟩ := Nat.exists_eq_succ_of_ne_zero
      (mt List.length_eq_zero_iff.1 chunked)
    rw [all, length, List.range_succ, List.map_append, List.map_singleton, List.getLast?_concat,
      ← Nat.succ_eq_add_one count, ← length, List.take_length, flatten_chunks]
  · rintro rfl
    simp [progress, chunks, chunksOfSucc, progressFrom]

end Upload
end HttpExchange
