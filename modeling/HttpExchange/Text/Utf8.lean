/-!
# UTF-8

Decoding is a machine that is fed one octet at a time and remembers which may come next.
-/

namespace HttpExchange

abbrev Bytes := List UInt8

namespace Utf8

def encodeChar (c : Char) : Bytes :=
  let n := c.toNat
  if n < 0x80 then
    [UInt8.ofNat n]
  else if n < 0x800 then
    [UInt8.ofNat (0xC0 + n / 0x40), UInt8.ofNat (0x80 + n % 0x40)]
  else if n < 0x10000 then
    [UInt8.ofNat (0xE0 + n / 0x1000), UInt8.ofNat (0x80 + n / 0x40 % 0x40),
      UInt8.ofNat (0x80 + n % 0x40)]
  else
    [UInt8.ofNat (0xF0 + n / 0x40000), UInt8.ofNat (0x80 + n / 0x1000 % 0x40),
      UInt8.ofNat (0x80 + n / 0x40 % 0x40), UInt8.ofNat (0x80 + n % 0x40)]

def encodeChars (chars : List Char) : Bytes :=
  chars.flatMap encodeChar

def encode (text : String) : Bytes :=
  encodeChars text.toList

@[simp]
theorem encodeChars_nil : encodeChars [] = [] := rfl

@[simp]
theorem encodeChars_cons (c : Char) (chars : List Char) :
    encodeChars (c :: chars) = encodeChar c ++ encodeChars chars := rfl

@[simp]
theorem encodeChars_append (front back : List Char) :
    encodeChars (front ++ back) = encodeChars front ++ encodeChars back := by
  simp [encodeChars]

/-- A character that has begun. -/
structure Pending where
  bits : Nat
  /-- Octets that must follow the next one. -/
  further : Nat
  /-- Least value of the next octet. -/
  low : Nat
  /-- Greatest value of the next octet. -/
  high : Nat

/-- What one octet leads to. -/
inductive Advance where
  | complete (c : Char)
  | unfinished (pending : Pending)
  | malformed

/-- The first octet of a character.  The bounds on the second octet exclude overlong forms,
surrogates and values above U+10FFFF. -/
def start (octet : UInt8) : Advance :=
  let n := octet.toNat
  if n < 0x80 then
    .complete (Char.ofNat n)
  else if n < 0xC2 then
    .malformed
  else if n < 0xE0 then
    .unfinished ⟨n - 0xC0, 0, 0x80, 0xBF⟩
  else if n < 0xF0 then
    .unfinished ⟨n - 0xE0, 1, if n = 0xE0 then 0xA0 else 0x80, if n = 0xED then 0x9F else 0xBF⟩
  else if n < 0xF5 then
    .unfinished ⟨n - 0xF0, 2, if n = 0xF0 then 0x90 else 0x80, if n = 0xF4 then 0x8F else 0xBF⟩
  else
    .malformed

def Pending.feed (pending : Pending) (octet : UInt8) : Advance :=
  let n := octet.toNat
  if pending.low ≤ n ∧ n ≤ pending.high then
    let bits := pending.bits * 0x40 + (n - 0x80)
    match pending.further with
    | 0 => .complete (Char.ofNat bits)
    | further + 1 => .unfinished ⟨bits, further, 0x80, 0xBF⟩
  else
    .malformed

def advance (state : Option Pending) (octet : UInt8) : Advance :=
  match state with
  | none => start octet
  | some pending => pending.feed octet

/-- Decode onto the reversed characters `done`.  `mark` is the input from the character that has
begun; the second component of the result is the input from the first ill-formed character. -/
def scan : Option Pending → List Char → Bytes → Bytes → List Char × Bytes
  | _, done, mark, [] => (done, mark)
  | state, done, mark, octet :: rest =>
    match advance state octet with
    | .complete c => scan none (c :: done) rest rest
    | .unfinished pending => scan (some pending) done mark rest
    | .malformed => (done, mark)

/-- The longest well-formed beginning, decoded, and the octets after it. -/
def split (octets : Bytes) : List Char × Bytes :=
  let (done, rest) := scan none [] octets octets
  (done.reverse, rest)

/-- The text that the octets encode, if they are well-formed. -/
def decode? (octets : Bytes) : Option String :=
  match split octets with
  | (chars, []) => some (String.ofList chars)
  | (_, _ :: _) => none

/-- The number of octets after the longest well-formed beginning. -/
def excess (octets : Bytes) : Nat :=
  (split octets).2.length

/-- Decode onto the reversed characters `done`, one U+FFFD for each ill-formed part.  An octet
that cannot continue a character is tried again as the start of the next one. -/
def scanLenient : Option Pending → List Char → Bytes → List Char
  | none, done, [] => done
  | some _, done, [] => '\uFFFD' :: done
  | state, done, octet :: rest =>
    let (done, step) :=
      match state, advance state octet with
      | some _, .malformed => ('\uFFFD' :: done, start octet)
      | _, step => (done, step)
    match step with
    | .complete c => scanLenient none (c :: done) rest
    | .unfinished pending => scanLenient (some pending) done rest
    | .malformed => scanLenient none ('\uFFFD' :: done) rest

/-- The text that the octets encode, ill-formed parts replaced. -/
def decodeLenient (octets : Bytes) : String :=
  String.ofList (scanLenient none [] octets).reverse

theorem toNat_ofNat_of_lt {n : Nat} (h : n < 256) : (UInt8.ofNat n).toNat = n := by
  simp [Nat.mod_eq_of_lt h]

theorem scan_of_complete {state : Option Pending} {octet : UInt8} {c : Char}
    (h : advance state octet = .complete c) (done : List Char) (mark rest : Bytes) :
    scan state done mark (octet :: rest) = scan none (c :: done) rest rest := by
  simp [scan, h]

theorem scan_of_unfinished {state : Option Pending} {octet : UInt8} {pending : Pending}
    (h : advance state octet = .unfinished pending) (done : List Char) (mark rest : Bytes) :
    scan state done mark (octet :: rest) = scan (some pending) done mark rest := by
  simp [scan, h]

theorem start_two (bits : Nat) (low : 2 ≤ bits) (high : bits < 0x20) :
    advance none (UInt8.ofNat (0xC0 + bits)) = .unfinished ⟨bits, 0, 0x80, 0xBF⟩ := by
  simp [advance, start, Nat.mod_eq_of_lt (show 192 + bits < 256 by omega),
    show ¬ 192 + bits < 128 by omega, show ¬ 192 + bits < 194 by omega,
    show 192 + bits < 224 by omega]

theorem start_three (bits : Nat) (high : bits < 0x10) :
    advance none (UInt8.ofNat (0xE0 + bits)) =
      .unfinished ⟨bits, 1, if bits = 0 then 0xA0 else 0x80, if bits = 13 then 0x9F else 0xBF⟩ := by
  simp [advance, start, Nat.mod_eq_of_lt (show 224 + bits < 256 by omega),
    show ¬ 224 + bits < 128 by omega, show ¬ 224 + bits < 194 by omega,
    show ¬ 224 + bits < 224 by omega, show 224 + bits < 240 by omega,
    show 224 + bits = 237 ↔ bits = 13 by omega]

theorem start_four (bits : Nat) (high : bits < 5) :
    advance none (UInt8.ofNat (0xF0 + bits)) =
      .unfinished ⟨bits, 2, if bits = 0 then 0x90 else 0x80, if bits = 4 then 0x8F else 0xBF⟩ := by
  simp [advance, start, Nat.mod_eq_of_lt (show 240 + bits < 256 by omega),
    show ¬ 240 + bits < 128 by omega, show ¬ 240 + bits < 194 by omega,
    show ¬ 240 + bits < 224 by omega, show ¬ 240 + bits < 240 by omega,
    show 240 + bits < 245 by omega, show 240 + bits = 244 ↔ bits = 4 by omega]

theorem feed_last {bits low high k : Nat} (small : k < 0x40) (h : low ≤ 0x80 + k)
    (h' : 0x80 + k ≤ high) :
    advance (some ⟨bits, 0, low, high⟩) (UInt8.ofNat (0x80 + k)) =
      .complete (Char.ofNat (bits * 0x40 + k)) := by
  simp [advance, Pending.feed, Nat.mod_eq_of_lt (show 128 + k < 256 by omega), h, h']

theorem feed_more {bits further low high k : Nat} (small : k < 0x40) (h : low ≤ 0x80 + k)
    (h' : 0x80 + k ≤ high) :
    advance (some ⟨bits, further + 1, low, high⟩) (UInt8.ofNat (0x80 + k)) =
      .unfinished ⟨bits * 0x40 + k, further, 0x80, 0xBF⟩ := by
  simp [advance, Pending.feed, Nat.mod_eq_of_lt (show 128 + k < 256 by omega), h, h']

/-- Feeding the octets of a character completes that character. -/
theorem scan_encodeChar (c : Char) (done : List Char) (mark rest : Bytes) :
    scan none done mark (encodeChar c ++ rest) = scan none (c :: done) rest rest := by
  have valid : c.toNat < 0xD800 ∨ 0xDFFF < c.toNat ∧ c.toNat < 0x110000 := c.valid
  have back : Char.ofNat c.toNat = c := Char.ofNat_toNat c
  rw [encodeChar]
  generalize c.toNat = n at valid back ⊢
  by_cases one : n < 0x80
  · simp [one, scan, advance, start, toNat_ofNat_of_lt (show n < 256 by omega), back]
  by_cases two : n < 0x800
  · simp only [one, two, if_true, if_false, List.cons_append, List.nil_append]
    rw [scan_of_unfinished (start_two (n / 0x40) (by omega) (by omega)),
      scan_of_complete (feed_last (by omega) (by omega) (by omega)), ← back]
    congr 3
    omega
  by_cases three : n < 0x10000
  · simp only [one, two, three, if_true, if_false, List.cons_append, List.nil_append]
    rw [scan_of_unfinished (start_three (n / 0x1000) (by omega)),
      scan_of_unfinished (feed_more (by omega) (by split <;> omega) (by split <;> omega)),
      scan_of_complete (feed_last (by omega) (by omega) (by omega)), ← back]
    congr 3
    omega
  · simp only [one, two, three, if_false, List.cons_append, List.nil_append]
    rw [scan_of_unfinished (start_four (n / 0x40000) (by omega)),
      scan_of_unfinished (feed_more (by omega) (by split <;> omega) (by split <;> omega)),
      scan_of_unfinished (feed_more (by omega) (by omega) (by omega)),
      scan_of_complete (feed_last (by omega) (by omega) (by omega)), ← back]
    congr 3
    omega

theorem scan_encodeChars (chars done : List Char) (rest : Bytes) :
    scan none done (encodeChars chars ++ rest) (encodeChars chars ++ rest) =
      scan none (chars.reverse ++ done) rest rest := by
  induction chars generalizing done with
  | nil => rfl
  | cons c chars ih =>
    rw [encodeChars_cons, List.append_assoc, scan_encodeChar, ih]
    simp

theorem split_encodeChars (chars : List Char) : split (encodeChars chars) = (chars, []) := by
  have all := scan_encodeChars chars [] []
  simp only [List.append_nil] at all
  simp [split, all, scan]

@[simp]
theorem decode?_encode (text : String) : decode? (encode text) = some text := by
  simp [decode?, encode, split_encodeChars]

end Utf8
end HttpExchange
