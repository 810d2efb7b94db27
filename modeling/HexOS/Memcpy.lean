import HexOS.Memmove

/-!
`memcpy` over ranges that overlap.

Its one loop counts up. Towards higher addresses it reads what it has written, so it
repeats the bytes between the two addresses, and does what `memmove` does only if the
source repeats itself in the same way. The parameters are `restrict`, so this is the
loop as it stands, which the build does not optimise.
-/

namespace HexOS

open InPlaceCopy

def memcpy (dest src n : UInt32) (memory : FlatMemory) : UInt32 × FlatMemory :=
  (dest, copyEach (byteOf dest) (byteOf src) (List.range n.toNat) memory)

/-- The `n` bytes at `src` repeat with period `k`. -/
def Repeats (memory : FlatMemory) (src n : UInt32) (k : Nat) : Prop :=
  ∀ j, k ≤ j → j < n.toNat → memory (byteOf src j) = memory (byteOf src (j - k))

section

variable {dest src n : UInt32} {memory : FlatMemory}

theorem repeats_iff {k : Nat} : Repeats memory src n k ↔
    ∀ j < n.toNat, memory (byteOf src (j % k)) = memory (byteOf src j) := by
  constructor
  · intro repeats j
    induction j using Nat.strong_induction_on with
    | _ j ih =>
        intro inside
        by_cases far : k ≤ j
        · rcases Nat.eq_zero_or_pos k with rfl | positive
          · rw [Nat.mod_zero]
          · rw [Nat.mod_eq_sub_mod far, ih (j - k) (by omega) (by omega), repeats j far inside]
        · rw [Nat.mod_eq_of_lt (Nat.not_le.mp far)]
  · intro all j far inside
    rw [← all j inside, ← all (j - k) (by omega), Nat.mod_eq_sub_mod far]

theorem memcpy_outside (fits : Unwrapped dest n) {a : UInt32}
    (outside : ¬ (dest.toNat ≤ a.toNat ∧ a.toNat < dest.toNat + n.toNat)) :
    (memcpy dest src n memory).2 a = memory a := by
  refine copyEach_of_ne fun i member same => outside ?_
  have inside := List.mem_range.mp member
  rw [← same, toNat_byteOf fits inside]
  omega

/-- Towards higher addresses the bytes from `src` up to `dest` are repeated. -/
theorem memcpy_repeats (fits : Unwrapped dest n) (up : src < dest) {j : Nat}
    (inside : j < n.toNat) :
    (memcpy dest src n memory).2 (byteOf dest j) =
      memory (byteOf src (j % (dest.toNat - src.toNat))) := by
  have less := UInt32.lt_iff_toNat_lt.mp up
  have place : byteOf dest = fun i => byteOf src (dest.toNat - src.toNat + i) := by
    funext i
    apply UInt32.toNat_inj.mp
    rw [byteOf, byteOf, UInt32.toNat_add, UInt32.toNat_add, UInt32.toNat_ofNat', UInt32.toNat_ofNat']
    omega
  have apart : ∀ i < dest.toNat - src.toNat + n.toNat, ∀ j < dest.toNat - src.toNat + n.toNat,
      byteOf src i = byteOf src j → i = j := by
    intro i low j high same
    unfold Unwrapped at fits
    have value := congrArg UInt32.toNat same
    rw [byteOf, byteOf, UInt32.toNat_add, UInt32.toNat_add, UInt32.toNat_ofNat',
      UInt32.toNat_ofNat'] at value
    omega
  rw [memcpy, place]
  exact copyEach_repeats (by omega) apart inside

/-- What `memmove` leaves at a byte of its range, in either direction. -/
theorem memmove_byte (fits : Unwrapped dest n) (fits' : Unwrapped src n) {j : Nat}
    (inside : j < n.toNat) :
    (memmove dest src n memory).2 (byteOf dest j) = memory (byteOf src j) := by
  obtain ⟨order, safe, members, moved⟩ := memmove_order fits fits' memory
  rw [moved]
  exact copyEach_dest safe ((members j).mpr inside)

theorem memmove_outside (fits : Unwrapped dest n) (fits' : Unwrapped src n) {a : UInt32}
    (outside : ¬ (dest.toNat ≤ a.toNat ∧ a.toNat < dest.toNat + n.toNat)) :
    (memmove dest src n memory).2 a = memory a := by
  obtain ⟨order, -, members, moved⟩ := memmove_order fits fits' memory
  rw [moved]
  refine copyEach_of_ne fun i member same => outside ?_
  have inside := (members i).mp member
  rw [← same, toNat_byteOf fits inside]
  omega

/-- **`memcpy` is `memmove` exactly if** it does not copy towards higher addresses, or
the source repeats with the distance as its period; where the ranges do not overlap, it
does so trivially. -/
theorem memcpy_is_memmove_iff (fits : Unwrapped dest n) (fits' : Unwrapped src n) :
    memcpy dest src n memory = memmove dest src n memory ↔
      (src < dest → Repeats memory src n (dest.toNat - src.toNat)) := by
  have cases : dest < src ∨ dest = src ∨ src < dest := by
    simp only [UInt32.lt_iff_toNat_lt, ← UInt32.toNat_inj]
    exact Nat.lt_trichotomy _ _
  rcases cases with down | rfl | up
  · have order : ¬ src < dest := UInt32.lt_asymm down
    rw [memcpy, memmove, if_pos down]
    exact iff_of_true rfl fun up => absurd up order
  · have order : ¬ dest < dest := UInt32.lt_irrefl dest
    rw [memcpy, memmove, if_neg order, copyEach_self, copyEach_self]
    exact iff_of_true rfl fun up => absurd up order
  · have results : (memmove dest src n memory).1 = dest := by
      rw [memmove, if_neg (UInt32.lt_asymm up)]
    rw [repeats_iff, imp_iff_right up]
    constructor
    · intro same j inside
      have byte := congrFun (congrArg Prod.snd same) (byteOf dest j)
      rwa [memcpy_repeats fits up inside, memmove_byte fits fits' inside] at byte
    · intro all
      refine Prod.ext results.symm (funext fun a => ?_)
      by_cases inside : dest.toNat ≤ a.toNat ∧ a.toNat < dest.toNat + n.toNat
      · have less : a.toNat - dest.toNat < n.toNat := by omega
        have here : a = byteOf dest (a.toNat - dest.toNat) := by
          apply UInt32.toNat_inj.mp
          rw [toNat_byteOf fits less]
          omega
        rw [here, memcpy_repeats fits up less, memmove_byte fits fits' less, all _ less]
      · rw [memcpy_outside fits inside, memmove_outside fits fits' inside]

end

/-- Three bytes should move up by one, and the first is left three times. -/
theorem memcpy_is_memmove_iff_up :
    memcpy 17 16 3 UInt32.toUInt8 ≠ memmove 17 16 3 UInt32.toUInt8 := by
  intro same
  have repeats := (memcpy_is_memmove_iff (by decide) (by decide)).mp same (by decide)
  exact absurd (repeats 1 (by decide) (by decide)) (by decide)

end HexOS
