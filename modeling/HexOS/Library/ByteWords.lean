import Mathlib.Data.Nat.ModEq
import Mathlib.Tactic.Ring

/-!
Little-endian machine words over byte sequences.

A byte sequence is a function of the offset, so a word can be read at any
address of a buffer without slicing it. `byteAt` and `fromBytes` are inverse on
`k` bytes: `fromBytes_byteAt` one way, `byteAt_fromBytes` the other. The fixed
widths `word16` and `word32` inherit both directions.
-/

namespace ByteWords

/-- The byte of weight `256 ^ i` of `n`. -/
def byteAt (n i : Nat) : UInt8 := UInt8.ofNat (n / 256 ^ i)

/-- The number whose `k` little-endian bytes are `b 0, …, b (k - 1)`. -/
def fromBytes : Nat → (Nat → UInt8) → Nat
  | 0, _ => 0
  | k + 1, b => (b 0).toNat + 256 * fromBytes k fun i => b (i + 1)

theorem fromBytes_congr {k : Nat} {b b' : Nat → UInt8} (same : ∀ i < k, b i = b' i) :
    fromBytes k b = fromBytes k b' := by
  induction k generalizing b b' with
  | zero => rfl
  | succ k ih =>
      have tail : fromBytes k (fun i => b (i + 1)) = fromBytes k fun i => b' (i + 1) :=
        ih fun i hi => same (i + 1) (by omega)
      simp only [fromBytes, same 0 (by omega), tail]

theorem fromBytes_lt (k : Nat) (b : Nat → UInt8) : fromBytes k b < 256 ^ k := by
  induction k generalizing b with
  | zero => simp [fromBytes]
  | succ k ih =>
      have head : (b 0).toNat < 256 := (b 0).toNat_lt
      have tail := ih fun i => b (i + 1)
      simp only [fromBytes, pow_succ]
      omega

theorem byteAt_succ (n i : Nat) : byteAt n (i + 1) = byteAt (n / 256) i := by
  rw [byteAt, byteAt, pow_succ', Nat.div_div_eq_div_mul]

/-- Reading back the bytes of `n` keeps what fits. -/
theorem fromBytes_byteAt (k n : Nat) : fromBytes k (byteAt n) = n % 256 ^ k := by
  induction k generalizing n with
  | zero => simp [fromBytes, Nat.mod_one]
  | succ k ih =>
      have tail : (fun i => byteAt n (i + 1)) = byteAt (n / 256) :=
        funext fun i => byteAt_succ n i
      have head : (byteAt n 0).toNat = n % 256 := by simp [byteAt]
      rw [fromBytes, tail, ih, head, pow_succ', Nat.mod_mul]

/-- The bytes of a number read from `b` are `b`. -/
theorem byteAt_fromBytes {k i : Nat} (b : Nat → UInt8) (hi : i < k) :
    byteAt (fromBytes k b) i = b i := by
  induction k generalizing b i with
  | zero => omega
  | succ k ih =>
      have head : (b 0).toNat < 256 := (b 0).toNat_lt
      cases i with
      | zero =>
          apply UInt8.toNat_inj.mp
          simp only [byteAt, fromBytes, pow_zero, Nat.div_one, UInt8.toNat_ofNat']
          omega
      | succ i =>
          have shift : fromBytes (k + 1) b / 256 = fromBytes k fun i => b (i + 1) := by
            simp only [fromBytes]
            omega
          rw [byteAt_succ, shift]
          exact ih (fun i => b (i + 1)) (by omega)

/-! ### Fixed widths -/

def word16 (b : Nat → UInt8) : UInt16 := UInt16.ofNat (fromBytes 2 b)

def word32 (b : Nat → UInt8) : UInt32 := UInt32.ofNat (fromBytes 4 b)

theorem word16_congr {b b' : Nat → UInt8} (same : ∀ i < 2, b i = b' i) :
    word16 b = word16 b' := by
  rw [word16, fromBytes_congr same, word16]

theorem word32_congr {b b' : Nat → UInt8} (same : ∀ i < 4, b i = b' i) :
    word32 b = word32 b' := by
  rw [word32, fromBytes_congr same, word32]

@[simp] theorem word16_byteAt (w : UInt16) : word16 (byteAt w.toNat) = w := by
  have bound : w.toNat < 256 ^ 2 := w.toNat_lt
  rw [word16, fromBytes_byteAt, Nat.mod_eq_of_lt bound, UInt16.ofNat_toNat]

@[simp] theorem word32_byteAt (w : UInt32) : word32 (byteAt w.toNat) = w := by
  have bound : w.toNat < 256 ^ 4 := w.toNat_lt
  rw [word32, fromBytes_byteAt, Nat.mod_eq_of_lt bound, UInt32.ofNat_toNat]

theorem toNat_word16 (b : Nat → UInt8) : (word16 b).toNat = fromBytes 2 b := by
  have bound := fromBytes_lt 2 b
  rw [word16, UInt16.toNat_ofNat']
  omega

theorem toNat_word32 (b : Nat → UInt8) : (word32 b).toNat = fromBytes 4 b := by
  have bound := fromBytes_lt 4 b
  rw [word32, UInt32.toNat_ofNat']
  omega

theorem byteAt_word16 {i : Nat} (b : Nat → UInt8) (hi : i < 2) :
    byteAt (word16 b).toNat i = b i := by
  rw [toNat_word16, byteAt_fromBytes b hi]

theorem byteAt_word32 {i : Nat} (b : Nat → UInt8) (hi : i < 4) :
    byteAt (word32 b).toNat i = b i := by
  rw [toNat_word32, byteAt_fromBytes b hi]

/-! ### Fields of a word -/

theorem toNat_and_mask (w mask : UInt32) {k : Nat} (ones : mask.toNat = 2 ^ k - 1) :
    (w &&& mask).toNat = w.toNat % 2 ^ k := by
  rw [UInt32.toNat_and, ones, Nat.and_two_pow_sub_one_eq_mod]

theorem toNat_shiftRight (w s : UInt32) (below : s.toNat < 32) :
    (w >>> s).toNat = w.toNat / 2 ^ s.toNat := by
  rw [UInt32.toNat_shiftRight, Nat.mod_eq_of_lt below, Nat.shiftRight_eq_div_pow]

theorem succ_ne (b : UInt8) : b + 1 ≠ b := by
  intro same
  have value := congrArg UInt8.toNat same
  have one : (1 : UInt8).toNat = 1 := rfl
  have := b.toNat_lt
  rw [UInt8.toNat_add, one] at value
  omega

end ByteWords
