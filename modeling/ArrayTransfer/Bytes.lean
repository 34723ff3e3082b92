/-!
Byte strings as lists. `slice` reads a window and `patch` overwrites one; packed elements of one size
are cut apart by `split` and changed in place by `mapChunks`. Numbers are laid out least significant
byte first, by `ofNat` and `toNat`.
-/

namespace ArrayTransfer

abbrev Bytes := List UInt8

namespace Bytes

/-- A string of `n` zero bytes. -/
def zeros (n : Nat) : Bytes := List.replicate n 0

/-- The `length` bytes from `start` on, or as many of them as there are. -/
def slice (b : Bytes) (start length : Nat) : Bytes := (b.drop start).take length

/-- `b` with the bytes from `start` on replaced by `chunk`, which lies within `b`. Nothing is checked; for a dataspace
    that is `Exact`, all windows of a memory lie within it. -/
def patch (b : Bytes) (start : Nat) (chunk : Bytes) : Bytes :=
  b.take start ++ chunk ++ b.drop (start + chunk.length)

/-- `b` cut or padded with zeros to `n` bytes. -/
def fit (b : Bytes) (n : Nat) : Bytes := b.take n ++ zeros (n - b.length)

def beforeZero (b : Bytes) : Bytes := b.takeWhile (· != 0)

/-- The first `n` packed elements of `size` bytes each. -/
def split (size : Nat) : (n : Nat) → Bytes → List Bytes
  | 0, _ => []
  | n + 1, b => b.take size :: split size n (b.drop size)

/-- Applies `f` to the first `n` packed elements of `size` bytes; what follows them stays. -/
def mapFirstChunks (size : Nat) (f : Bytes → Bytes) : (n : Nat) → Bytes → Bytes
  | 0, b => b
  | n + 1, b => f (b.take size) ++ mapFirstChunks size f n (b.drop size)

/-- Applies `f` to every whole chunk of `size` bytes; a shorter rest stays, as does everything if `size` is zero. -/
def mapChunks (size : Nat) (f : Bytes → Bytes) (b : Bytes) : Bytes :=
  mapFirstChunks size f (b.length / size) b

/-- The `width` low bytes of `n`, least significant first. -/
def ofNat : (width : Nat) → Nat → Bytes
  | 0, _ => []
  | width + 1, n => UInt8.ofNat (n % 256) :: ofNat width (n / 256)

/-- The number whose bytes are `b`, least significant first. -/
def toNat : Bytes → Nat
  | [] => 0
  | x :: b => x.toNat + 256 * toNat b

@[simp] theorem length_zeros (n : Nat) : (zeros n).length = n := by simp [zeros]

theorem length_slice (b : Bytes) (start length : Nat) (h : start + length ≤ b.length) :
    (slice b start length).length = length := by
  simp [slice]; omega

theorem length_patch (b : Bytes) (start : Nat) (chunk : Bytes) (h : start + chunk.length ≤ b.length) :
    (patch b start chunk).length = b.length := by
  simp [patch]; omega

@[simp] theorem length_fit (b : Bytes) (n : Nat) : (fit b n).length = n := by
  simp [fit]; omega

@[simp] theorem length_ofNat (width n : Nat) : (ofNat width n).length = width := by
  induction width generalizing n with
  | zero => rfl
  | succ w ih => simp [ofNat, ih]

theorem toNat_ofNat (width n : Nat) : toNat (ofNat width n) = n % Nat.pow 256 width := by
  induction width generalizing n with
  | zero => simp [ofNat, toNat, Nat.mod_one]
  | succ w ih =>
    have h : (UInt8.ofNat (n % 256)).toNat = n % 256 := by simp
    have hp : Nat.pow 256 (w + 1) = 256 * Nat.pow 256 w := Nat.mul_comm ..
    rw [ofNat, toNat, ih, h, hp, Nat.mod_mul]

end Bytes

/-- A buffer that does not have the length it should. -/
structure LengthMismatch where
  got : Nat
  expected : Nat
  deriving DecidableEq

namespace LengthMismatch

def message (e : LengthMismatch) : String := s!"buffer has length {e.got}, expected length {e.expected}"

def check (got expected : Nat) : Except LengthMismatch Unit :=
  if got = expected then .ok () else .error ⟨got, expected⟩

end LengthMismatch

end ArrayTransfer
