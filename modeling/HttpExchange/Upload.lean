import HttpExchange.Outcome.Basic

/-!
# Uploading in chunks
-/

namespace HttpExchange
namespace Upload

def defaultChunkSize : Nat := 16384

/-- The size that is used when `requested` is asked for: at least one octet. -/
def effectiveSize (requested : Nat) : Nat :=
  max 1 requested

theorem effectiveSize_pos (requested : Nat) : 0 < effectiveSize requested :=
  Nat.le_max_left 1 requested

/-- The body in chunks of `size + 1` octets. -/
def chunksOfSucc (size : Nat) (body : Bytes) : List Bytes :=
  match body with
  | [] => []
  | octet :: rest => (octet :: rest.take size) :: chunksOfSucc size (rest.drop size)
  termination_by body.length
  decreasing_by simp only [List.length_drop, List.length_cons]; omega

def chunks (requested : Nat) (body : Bytes) : List Bytes :=
  chunksOfSucc (effectiveSize requested - 1) body

/-- Where the chunks of `length` octets begin and end. -/
def ranges (requested length : Nat) : List (Nat × Nat) :=
  let size := effectiveSize requested
  (List.range ((length + (size - 1)) / size)).map fun i => (i * size, min (i * size + size) length)

def slice (body : Bytes) (range : Nat × Nat) : Bytes :=
  (body.drop range.1).take (range.2 - range.1)

/-- The progress after each chunk; `loaded` octets went out before. -/
def progressFrom (total : Nat) : (loaded : Nat) → List Bytes → List Progress
  | _, [] => []
  | loaded, chunk :: chunks =>
    ⟨loaded + chunk.length, some total⟩ :: progressFrom total (loaded + chunk.length) chunks

def progress (requested : Nat) (body : Bytes) : List Progress :=
  progressFrom body.length 0 (chunks requested body)

@[simp]
theorem flatten_chunksOfSucc (size : Nat) (body : Bytes) :
    (chunksOfSucc size body).flatten = body := by
  fun_induction chunksOfSucc size body with
  | case1 => rfl
  | case2 octet rest ih => simp [ih]

@[simp]
theorem flatten_chunks (requested : Nat) (body : Bytes) :
    (chunks requested body).flatten = body :=
  flatten_chunksOfSucc _ body

/-- The chunks lie one after another at multiples of their size. -/
theorem chunksOfSucc_eq_map (size : Nat) (body : Bytes) :
    chunksOfSucc size body =
      (List.range ((body.length + size) / (size + 1))).map fun i =>
        (body.drop (i * (size + 1))).take (size + 1) := by
  fun_induction chunksOfSucc size body with
  | case1 =>
    have none : (0 + size) / (size + 1) = 0 := Nat.div_eq_of_lt (by omega)
    rw [List.length_nil, none]
    rfl
  | case2 octet rest ih =>
    have more : ((octet :: rest).length + size) / (size + 1) =
        ((rest.drop size).length + size) / (size + 1) + 1 := by
      rw [List.length_cons, List.length_drop,
        show rest.length + 1 + size = rest.length + (size + 1) by omega,
        Nat.add_div_right _ (Nat.succ_pos size)]
      by_cases short : rest.length < size
      · rw [Nat.div_eq_of_lt (by omega), Nat.div_eq_of_lt (by omega)]
      · rw [Nat.sub_add_cancel (by omega)]
    rw [more, List.range_succ_eq_map, List.map_cons, List.map_map, ih]
    congr 1
    · rw [Nat.zero_mul, List.drop_zero, List.take_succ_cons]
    · refine List.map_congr_left fun i _ => ?_
      rw [Function.comp_apply, List.drop_drop, Nat.succ_mul, ← Nat.add_assoc, List.drop_succ_cons,
        Nat.add_comm size (i * (size + 1))]

theorem slice_min (body : Bytes) (start size : Nat) :
    slice body (start, min (start + size) body.length) = (body.drop start).take size := by
  simp only [slice]
  by_cases inside : start + size ≤ body.length
  · rw [Nat.min_eq_left inside, Nat.add_sub_cancel_left]
  · have left : (body.drop start).length = body.length - start := List.length_drop
    rw [Nat.min_eq_right (by omega), List.take_of_length_le (by omega),
      List.take_of_length_le (by omega)]

/-- Every chunk is the slice of its range. -/
theorem chunks_eq_map_slice (requested : Nat) (body : Bytes) :
    chunks requested body = (ranges requested body.length).map (slice body) := by
  rw [chunks, chunksOfSucc_eq_map, Nat.sub_add_cancel (effectiveSize_pos requested), ranges,
    List.map_map]
  exact List.map_congr_left fun i _ => (slice_min body _ _).symm

end Upload
end HttpExchange
