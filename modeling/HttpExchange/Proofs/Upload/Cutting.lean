import HttpExchange.Proofs.Upload
import HttpExchange.Words
import Mathlib.Algebra.Order.Floor.Div

/-!
# Cutting a body into chunks

For a body of less than `2 ^ 63` octets no sum exceeds a word, since a step adds the size to the
beginning or to a place to which a step led (`Reached`).
-/

namespace HttpExchange
namespace Upload

/-! ### Chunks -/

theorem chunksOfSucc_of_ne_nil {body : Bytes} (nonempty : body ≠ []) (size : Nat) :
    chunksOfSucc size body = body.take (size + 1) :: chunksOfSucc size (body.drop (size + 1)) := by
  obtain ⟨octet, rest, rfl⟩ := List.exists_cons_of_ne_nil nonempty
  rw [chunksOfSucc, List.take_succ_cons, List.drop_succ_cons]

theorem chunksOfSucc_eq_nil_iff {size : Nat} {body : Bytes} :
    chunksOfSucc size body = [] ↔ body = [] := by
  cases body with
  | nil => simp [chunksOfSucc]
  | cons octet rest => simp [chunksOfSucc]

theorem ne_nil_of_mem_chunksOfSucc {size : Nat} {body chunk : Bytes}
    (member : chunk ∈ chunksOfSucc size body) : chunk ≠ [] := by
  fun_induction chunksOfSucc size body with
  | case1 => cases member
  | case2 octet rest ih =>
    rcases List.mem_cons.1 member with rfl | later
    · exact List.cons_ne_nil _ _
    · exact ih later

/-- A chunk that is not the last is full. -/
theorem length_of_getElem?_chunksOfSucc {size index : Nat} {body chunk : Bytes}
    (found : (chunksOfSucc size body)[index]? = some chunk)
    (further : index + 1 < (chunksOfSucc size body).length) : chunk.length = size + 1 := by
  fun_induction chunksOfSucc size body generalizing index with
  | case1 => cases found
  | case2 octet rest ih =>
    rw [List.length_cons, Nat.add_lt_add_iff_right] at further
    cases index with
    | zero =>
      cases found
      have left : rest.drop size ≠ [] :=
        mt chunksOfSucc_eq_nil_iff.2 (List.length_pos_iff.1 further)
      have long : size < rest.length := by
        simpa using left
      rw [List.length_cons, List.length_take, Nat.min_eq_left (Nat.le_of_lt long)]
    | succ index => exact ih found further

theorem length_chunksOfSucc (size : Nat) (body : Bytes) :
    (chunksOfSucc size body).length = body.length ⌈/⌉ (size + 1) := by
  rw [chunksOfSucc_eq_map, List.length_map, List.length_range, Nat.ceilDiv_eq_add_pred_div]
  rfl

/-- The chunks of a body. -/
structure Chunked (size : Nat) (body : Bytes) (chunks : List Bytes) : Prop where
  /-- Every chunk has an octet. -/
  nonempty : ∀ chunk ∈ chunks, chunk ≠ []
  /-- Joined, they are the body. -/
  joined : chunks.flatten = body
  /-- All but the last have the size. -/
  full : ∀ (index : Nat) (chunk : Bytes), chunks[index]? = some chunk →
    index + 1 < chunks.length → chunk.length = size
  /-- There are as many as that takes. -/
  count : chunks.length = body.length ⌈/⌉ size

theorem chunked_chunks (requested : Nat) (body : Bytes) :
    Chunked (effectiveSize requested) body (chunks requested body) := by
  rw [← Nat.sub_add_cancel (effectiveSize_pos requested)]
  exact ⟨fun _ => ne_nil_of_mem_chunksOfSucc, flatten_chunks requested body,
    fun _ _ => length_of_getElem?_chunksOfSucc, length_chunksOfSucc _ _⟩

/-- A range lies in the body, and begins where the body does or a step led. -/
theorem bounds_of_mem_ranges {requested length : Nat} {range : Nat × Nat}
    (member : range ∈ ranges requested length) :
    range.1 < range.2 ∧ range.2 ≤ length ∧
      (range.1 = 0 ∨ effectiveSize requested ≤ range.1) := by
  obtain ⟨index, listed, rfl⟩ := List.mem_map.1 member
  have positive := effectiveSize_pos requested
  have inside : index * effectiveSize requested < length := by
    have below := List.mem_range.1 listed
    rw [Nat.lt_div_iff_mul_lt positive] at below
    omega
  refine ⟨lt_min (Nat.lt_add_of_pos_right positive) inside, Nat.min_le_right _ _, ?_⟩
  cases index with
  | zero => exact .inl (Nat.zero_mul _)
  | succ index => exact .inr (Nat.le_mul_of_pos_left _ (Nat.succ_pos index))

/-- Chunks that have octets are counted upwards. -/
theorem increasing_progressFrom {chunks : List Bytes} (nonempty : ∀ chunk ∈ chunks, chunk ≠ [])
    (total loaded : Nat) :
    (loaded :: (progressFrom total loaded chunks).map Progress.loaded).Pairwise (· < ·) := by
  induction chunks generalizing loaded with
  | nil => simp [progressFrom]
  | cons chunk chunks ih =>
    obtain ⟨first, others⟩ := List.forall_mem_cons.1 nonempty
    have counted := ih others (loaded + chunk.length)
    have more : loaded < loaded + chunk.length :=
      Nat.lt_add_of_pos_right (List.length_pos_iff.2 first)
    rw [progressFrom, List.map_cons]
    refine List.pairwise_cons.2 ⟨List.forall_mem_cons.2 ⟨more, fun other later => ?_⟩, counted⟩
    exact Nat.lt_trans more ((List.pairwise_cons.1 counted).1 other later)

/-! ### Words -/

theorem sum?_eq {left right : UInt64} (fits : left.toNat + right.toNat < UInt64.size) :
    ∃ sum, sum? left right = some sum ∧ sum.toNat = left.toNat + right.toNat :=
  have known : sum? left right = some (left + right) := if_pos fits
  ⟨_, known, toNat_of_sum? known⟩

/-- The place is the beginning, or a step led there. -/
def Reached (size start : UInt64) : Prop :=
  start = 0 ∨ size ≤ start

theorem toNat_max_one (requested : UInt64) :
    (max requested 1).toNat = effectiveSize requested.toNat := by
  rw [UInt64.toNat_max, effectiveSize, max_comm]
  rfl

section

variable {body : Bytes} (fits : body.length < 2 ^ 63)

include fits

theorem toNat_ofNat_length : (UInt64.ofNat body.length).toNat = body.length :=
  UInt64.toNat_ofNat_of_lt (Nat.lt_trans fits (by decide))

/-- A step within the body stays within a word. -/
theorem sum_lt_of_reached {size start : UInt64} (reached : Reached size start)
    (inside : start.toNat < body.length) : start.toNat + size.toNat < UInt64.size := by
  rcases reached with rfl | stepped
  · simpa using size.toNat_lt
  · rw [UInt64.le_iff_toNat_le] at stepped
    change start.toNat + size.toNat < 2 ^ 64
    omega

/-- A step takes a chunk and leads to a place that is reached. -/
theorem chunkAt?_eq {size start : UInt64} (reached : Reached size start)
    (inside : start.toNat < body.length) :
    ∃ next, chunkAt? size body start = some ((body.drop start.toNat).take size.toNat, next) ∧
      next.toNat = start.toNat + size.toNat ∧ Reached size next := by
  obtain ⟨next, known, meant⟩ := sum?_eq (sum_lt_of_reached fits reached inside)
  have last : (min next (UInt64.ofNat body.length)).toNat =
      min (start.toNat + size.toNat) body.length := by
    rw [UInt64.toNat_min, meant, toNat_ofNat_length fits]
  have ordered : start ≤ min next (UInt64.ofNat body.length) ∧
      (min next (UInt64.ofNat body.length)).toNat ≤ body.length := by
    rw [UInt64.le_iff_toNat_le, last]
    omega
  refine ⟨next, ?_, meant, .inr ?_⟩
  · simp [chunkAt?, known, cut?, ordered, last, slice_min]
  · rw [UInt64.le_iff_toNat_le, meant]
    exact Nat.le_add_left _ _

/-- From a place that is reached, words give the chunks of what is left of the body. -/
theorem chunksFrom?_eq {size start : UInt64} (positive : size ≠ 0) (reached : Reached size start) :
    chunksFrom? size positive body start =
      some (chunksOfSucc (size.toNat - 1) (body.drop start.toNat)) := by
  have succ : size.toNat - 1 + 1 = size.toNat := by
    have moves : size.toNat ≠ 0 := fun none => positive (UInt64.toNat_inj.1 none)
    omega
  fun_induction chunksFrom? size positive body start with
  | case1 start inside failed =>
    obtain ⟨next, taken, -⟩ := chunkAt?_eq fits reached inside
    cases failed.symm.trans taken
  | case2 start inside chunk next taken ih =>
    obtain ⟨_, known, meant, further⟩ := chunkAt?_eq fits reached inside
    cases taken.symm.trans known
    have left : body.drop start.toNat ≠ [] := by
      simpa using inside
    rw [ih further, chunksOfSucc_of_ne_nil left, List.drop_drop, succ, meant]
    rfl
  | case3 start outside =>
    rw [List.drop_of_length_le (Nat.not_lt.1 outside), chunksOfSucc]

/-- Words give the chunks of a body. -/
theorem chunks?_eq (requested : UInt64) :
    chunks? requested body = some (chunks requested.toNat body) := by
  have positive : max requested 1 ≠ 0 := by
    intro none
    have same := toNat_max_one requested
    rw [none] at same
    exact Nat.ne_of_gt (effectiveSize_pos requested.toNat) same.symm
  rw [chunks?, dif_pos positive, chunksFrom?_eq fits positive (.inl rfl), toNat_max_one, chunks]
  rfl

end

/-- Words count the progress, as long as a word holds all of it. -/
theorem pulled?_eq {total loaded : UInt64} {chunks : List Bytes}
    (fits : loaded.toNat + chunks.flatten.length < UInt64.size) (pulls : Nat) :
    pulled? total pulls loaded chunks =
      some ((chunks.zip (progressFrom total.toNat loaded.toNat chunks)).take pulls) := by
  induction pulls generalizing loaded chunks with
  | zero => rfl
  | succ pulls ih =>
    cases chunks with
    | nil => rfl
    | cons chunk chunks =>
      rw [List.flatten_cons, List.length_append] at fits
      have length : (UInt64.ofNat chunk.length).toNat = chunk.length :=
        UInt64.toNat_ofNat_of_lt (by omega)
      obtain ⟨sum, known, meant⟩ := sum?_eq
        (show loaded.toNat + (UInt64.ofNat chunk.length).toNat < UInt64.size by omega)
      rw [length] at meant
      rw [pulled?, known, progressFrom, ← meant]
      have further : sum.toNat + chunks.flatten.length < UInt64.size := by
        omega
      simp [ih further]

theorem streamed?_eq {body : Bytes} (fits : body.length < 2 ^ 63) (requested : UInt64)
    (pulls : Nat) : streamed? requested pulls body =
      some (((chunks requested.toNat body).zip (progress requested.toNat body)).take pulls) := by
  have all : (0 : UInt64).toNat + (chunks requested.toNat body).flatten.length < UInt64.size := by
    rw [flatten_chunks]
    exact Nat.lt_of_le_of_lt (Nat.le_of_eq (Nat.zero_add _)) (Nat.lt_trans fits (by decide))
  simp [streamed?, chunks?_eq fits, pulled?_eq all, toNat_ofNat_length fits, progress]

/-! ### Exactness -/

/-- A body is cut exactly when `requested` octets are asked for. -/
structure CutsExactly (requested : UInt64) (body : Bytes) : Prop where
  /-- Every step goes on. -/
  moves : 0 < effectiveSize requested.toNat
  /-- No step exceeds a word. -/
  steps : ∀ range ∈ ranges requested.toNat body.length,
    range.1 + effectiveSize requested.toNat ≤ 2 ^ 64 - 1
  /-- The ranges are those of the chunks, and lie in the body. -/
  sliced : chunks requested.toNat body = (ranges requested.toNat body.length).map (slice body) ∧
    ∀ range ∈ ranges requested.toNat body.length, range.1 ≤ range.2 ∧ range.2 ≤ body.length
  /-- So words are enough to compute the chunks. -/
  computed : chunks? requested body = some (chunks requested.toNat body)
  /-- The chunks are full and make up the body. -/
  chunked : Chunked (effectiveSize requested.toNat) body (chunks requested.toNat body)
  /-- Each pull hands over the next chunk and reports one tick, in words as well. -/
  pulls : ∀ pulls, streamed? requested pulls body =
    some (((chunks requested.toNat body).zip (progress requested.toNat body)).take pulls)
  /-- There is a tick for each chunk, which counts the octets up to its end. -/
  ticks : Ticks requested.toNat body (progress requested.toNat body)
  /-- Each tick counts more octets than the one before. -/
  increasing : ((progress requested.toNat body).map Progress.loaded).Pairwise (· < ·)

/-- Every body that has fewer octets than half a word counts is cut exactly, whatever size is asked
for. -/
theorem cuts_exactly (requested : UInt64) {body : Bytes} (fits : body.length < 2 ^ 63) :
    CutsExactly requested body := by
  have chunked := chunked_chunks requested.toNat body
  constructor
  case moves => exact effectiveSize_pos _
  case steps =>
    intro range member
    have word := requested.toNat_lt
    obtain ⟨nonempty, inside, first | stepped⟩ := bounds_of_mem_ranges member
    · rw [first, effectiveSize]
      omega
    · omega
  case sliced =>
    refine ⟨chunks_eq_map_slice _ _, fun range member => ?_⟩
    obtain ⟨nonempty, inside, -⟩ := bounds_of_mem_ranges member
    exact ⟨Nat.le_of_lt nonempty, inside⟩
  case computed => exact chunks?_eq fits requested
  case chunked => exact chunked
  case pulls => exact streamed?_eq fits requested
  case ticks => exact ticks_progress _ _
  case increasing =>
    exact (List.pairwise_cons.1 (increasing_progressFrom chunked.nonempty body.length 0)).2

/-- Five octets are cut into pairs, and are one chunk if the greatest word is asked for. -/
theorem cuts_five_octets :
    CutsExactly 2 [1, 2, 3, 4, 5] ∧ CutsExactly 18446744073709551615 [1, 2, 3, 4, 5] ∧
      chunks 2 [1, 2, 3, 4, 5] = [[1, 2], [3, 4], [5]] ∧
      progress 2 [1, 2, 3, 4, 5] = [⟨2, some 5⟩, ⟨4, some 5⟩, ⟨5, some 5⟩] ∧
      chunks 18446744073709551615 [1, 2, 3, 4, 5] = [[1, 2, 3, 4, 5]] :=
  ⟨cuts_exactly 2 (by decide), cuts_exactly 18446744073709551615 (by decide),
    by simp [chunks, chunksOfSucc, effectiveSize],
    by simp [progress, progressFrom, chunks, chunksOfSucc, effectiveSize],
    by simp [chunks, chunksOfSucc, effectiveSize]⟩

end Upload
end HttpExchange
