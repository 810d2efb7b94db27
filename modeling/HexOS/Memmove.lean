import HexOS.Library.InPlaceCopy
import Mathlib.Data.UInt
import Mathlib.Data.List.Range

/-!
`memmove` over the flat memory.

Both loops copy byte by byte in place. Which of them runs depends on the order
of the two addresses, and each is safe for that order: the bytes it still has to
read lie on the side it has not written yet.
-/

namespace HexOS

open InPlaceCopy

/-- One byte for each 32-bit address. -/
abbrev FlatMemory := UInt32 → UInt8

/-- Byte `i` of the range at `base`. -/
def byteOf (base : UInt32) (i : Nat) : UInt32 := base + UInt32.ofNat i

/-- The first loop counts `i` up from 0, the second down from `n`. -/
def memmove (dest src n : UInt32) (memory : FlatMemory) : UInt32 × FlatMemory :=
  if dest < src then
    (dest, copyEach (byteOf dest) (byteOf src) (List.range n.toNat) memory)
  else
    (dest, copyEach (byteOf dest) (byteOf src) (List.range n.toNat).reverse memory)

/-- The `n` bytes from `base` on do not wrap around the address space. -/
def Unwrapped (base n : UInt32) : Prop := base.toNat + n.toNat ≤ 2 ^ 32

instance (base n : UInt32) : Decidable (Unwrapped base n) := inferInstanceAs (Decidable (_ ≤ _))

section

variable {dest src n : UInt32}

theorem toNat_byteOf (fits : Unwrapped dest n) {i : Nat} (inside : i < n.toNat) :
    (byteOf dest i).toNat = dest.toNat + i := by
  unfold Unwrapped at fits
  rw [byteOf, UInt32.toNat_add, UInt32.toNat_ofNat']
  omega

theorem byteOf_ne (fits : Unwrapped dest n) (fits' : Unwrapped src n) {i j : Nat} (hi : i < n.toNat)
    (hj : j < n.toNat) (differ : dest.toNat + i ≠ src.toNat + j) : byteOf dest i ≠ byteOf src j := by
  intro same
  have value := congrArg UInt32.toNat same
  rw [toNat_byteOf fits hi, toNat_byteOf fits' hj] at value
  exact differ value

/-- Counting up is safe towards lower addresses. -/
theorem safe_up (fits : Unwrapped dest n) (fits' : Unwrapped src n) (down : dest < src) :
    Safe (byteOf dest) (byteOf src) (List.range n.toNat) := by
  have less := UInt32.lt_iff_toNat_lt.mp down
  refine (List.pairwise_lt_range (n := n.toNat)).imp_of_mem fun {i j} hi hj order => ?_
  rw [List.mem_range] at hi hj
  constructor
  · exact byteOf_ne fits fits' hi hj (by omega)
  · exact byteOf_ne fits fits hi hj (by omega)

/-- Counting down is safe towards higher addresses, and in place. -/
theorem safe_down (fits : Unwrapped dest n) (fits' : Unwrapped src n) (up : ¬ dest < src) :
    Safe (byteOf dest) (byteOf src) (List.range n.toNat).reverse := by
  have less := UInt32.le_iff_toNat_le.mp (UInt32.not_lt.mp up)
  refine List.pairwise_reverse.mpr ?_
  refine (List.pairwise_lt_range (n := n.toNat)).imp_of_mem fun {i j} hi hj order => ?_
  rw [List.mem_range] at hi hj
  constructor
  · exact byteOf_ne fits fits' hj hi (by omega)
  · exact byteOf_ne fits fits hj hi (by omega)

/-- Either loop is a safe copy of all the bytes. -/
theorem memmove_order (fits : Unwrapped dest n) (fits' : Unwrapped src n) (memory : FlatMemory) :
    ∃ order, Safe (byteOf dest) (byteOf src) order ∧ (∀ i, i ∈ order ↔ i < n.toNat) ∧
      memmove dest src n memory = (dest, copyEach (byteOf dest) (byteOf src) order memory) := by
  by_cases down : dest < src
  · refine ⟨List.range n.toNat, safe_up fits fits' down, fun i => List.mem_range, ?_⟩
    rw [memmove, if_pos down]
  · refine ⟨(List.range n.toNat).reverse, safe_down fits fits' down, fun i => ?_, ?_⟩
    · rw [List.mem_reverse, List.mem_range]
    · rw [memmove, if_neg down]

/-- **memmove moves.** Whether the ranges overlap or not, in either direction. -/
theorem memmove_moves (memory : FlatMemory) (fits : Unwrapped dest n) (fits' : Unwrapped src n) :
    (memmove dest src n memory).1 = dest ∧
      (∀ i < n.toNat, (memmove dest src n memory).2 (dest + UInt32.ofNat i) =
        memory (src + UInt32.ofNat i)) ∧
      ∀ a : UInt32, ¬ (dest.toNat ≤ a.toNat ∧ a.toNat < dest.toNat + n.toNat) →
        (memmove dest src n memory).2 a = memory a := by
  obtain ⟨order, safe, members, moved⟩ := memmove_order fits fits' memory
  rw [moved]
  refine ⟨rfl, fun i inside => ?_, fun a outside => ?_⟩
  · exact copyEach_dest safe ((members i).mpr inside)
  · refine copyEach_of_ne fun i member same => outside ?_
    have inside := (members i).mp member
    rw [← same, toNat_byteOf fits inside]
    omega

end

/-- The bytes at 16, 17 and 18 move up by one. -/
theorem memmove_moves_overlap :
    let memory : FlatMemory := fun a => a.toUInt8
    (memmove 17 16 3 memory).1 = 17 ∧
      (∀ i < (3 : UInt32).toNat, (memmove 17 16 3 memory).2 (17 + UInt32.ofNat i) =
        memory (16 + UInt32.ofNat i)) ∧
      ∀ a : UInt32, ¬ ((17 : UInt32).toNat ≤ a.toNat ∧
          a.toNat < (17 : UInt32).toNat + (3 : UInt32).toNat) →
        (memmove 17 16 3 memory).2 a = memory a :=
  memmove_moves _ (by decide) (by decide)

end HexOS
