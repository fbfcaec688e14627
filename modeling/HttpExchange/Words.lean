import HttpExchange.Body
import HttpExchange.Upload

/-!
# Uploads and windows in words

Places and lengths are words of 64 bits here, with every sum and every slice checked.
-/

namespace HttpExchange

namespace Upload

/-- The sum of two words, if a word holds it. -/
def sum? (left right : UInt64) : Option UInt64 :=
  if left.toNat + right.toNat < UInt64.size then some (left + right) else none

/-- The octets of a body from `first` on and before `last`, if it has them. -/
def cut? (body : Bytes) (first last : UInt64) : Option Bytes :=
  if first ≤ last ∧ last.toNat ≤ body.length then some (slice body (first.toNat, last.toNat))
  else none

/-- The chunk at `start`, and where the next one begins. -/
def chunkAt? (size : UInt64) (body : Bytes) (start : UInt64) : Option (Bytes × UInt64) := do
  let next ← sum? start size
  let chunk ← cut? body start (min next (.ofNat body.length))
  some (chunk, next)

theorem toNat_of_sum? {left right sum : UInt64} (known : sum? left right = some sum) :
    sum.toNat = left.toNat + right.toNat := by
  rw [sum?] at known
  split at known
  · rename_i fits
    cases known
    rw [UInt64.toNat_add]
    exact Nat.mod_eq_of_lt fits
  · cases known

theorem toNat_of_chunkAt? {size start next : UInt64} {body chunk : Bytes}
    (taken : chunkAt? size body start = some (chunk, next)) :
    next.toNat = start.toNat + size.toNat := by
  simp only [chunkAt?, Option.bind_eq_bind, Option.bind_eq_some_iff, Option.some.injEq,
    Prod.mk.injEq] at taken
  obtain ⟨_, known, _, _, _, rfl⟩ := taken
  exact toNat_of_sum? known

def chunksFrom? (size : UInt64) (positive : size ≠ 0) (body : Bytes) (start : UInt64) :
    Option (List Bytes) :=
  if start.toNat < body.length then
    match _ : chunkAt? size body start with
    | none => none
    | some (chunk, next) => (chunksFrom? size positive body next).map (chunk :: ·)
  else some []
  termination_by body.length - start.toNat
  decreasing_by
    have further := toNat_of_chunkAt? ‹chunkAt? size body start = _›
    have moves : size.toNat ≠ 0 := fun none => positive (UInt64.toNat_inj.1 none)
    omega

def chunks? (requested : UInt64) (body : Bytes) : Option (List Bytes) :=
  let size := max requested 1
  if positive : size ≠ 0 then chunksFrom? size positive body 0 else none

/-- What at most `pulls` pulls hand over, each chunk with the progress that it reports; `loaded`
octets went out before. -/
def pulled? (total : UInt64) : (pulls : Nat) → (loaded : UInt64) → List Bytes →
    Option (List (Bytes × Progress))
  | 0, _, _ => some []
  | _ + 1, _, [] => some []
  | pulls + 1, loaded, chunk :: chunks => do
    let loaded ← sum? loaded (.ofNat chunk.length)
    let others ← pulled? total pulls loaded chunks
    some ((chunk, ⟨loaded.toNat, some total.toNat⟩) :: others)

/-- What at most `pulls` pulls hand over of a body. -/
def streamed? (requested : UInt64) (pulls : Nat) (body : Bytes) :
    Option (List (Bytes × Progress)) := do
  let chunks ← chunks? requested body
  pulled? (.ofNat body.length) pulls 0 chunks

end Upload

namespace Window

/-- The window of `length` octets from `offset`, if a word holds its end and the buffer has that
many octets. -/
def ofWords (backing : Bytes) (offset length : UInt64) : Except WindowFault Window :=
  match known : Upload.sum? offset length with
  | some last =>
    if inside : last.toNat ≤ backing.length then
      .ok ⟨backing, offset.toNat, length.toNat, Upload.toNat_of_sum? known ▸ inside⟩
    else .error ⟨offset.toNat, length.toNat, backing.length⟩
  | none => .error ⟨offset.toNat, length.toNat, backing.length⟩

/-- The octets of a window, from its offset on and before the end, which is computed again. -/
def slice? (window : Window) : Option Bytes := do
  let last ← Upload.sum? (.ofNat window.offset) (.ofNat window.length)
  Upload.cut? window.backing (.ofNat window.offset) last

end Window

end HttpExchange
