import Mathlib.Data.List.FinRange

/-!
The memory routines of `stdmem.c` over byte arrays of fixed length.
-/

namespace HexOS

abbrev Bytes (n : Nat) := Fin n → UInt8

/-- The comparison loop of `memcmp` over the offsets still to visit. -/
def memcmpLoop {n : Nat} (s1 s2 : Bytes n) : List (Fin n) → Int
  | [] => 0
  | i :: rest => if s1 i < s2 i then -1 else if s1 i > s2 i then 1 else memcmpLoop s1 s2 rest

def memcmp {n : Nat} (s1 s2 : Bytes n) : Int := memcmpLoop s1 s2 (List.finRange n)

private theorem memcmpLoop_eq_zero_iff {n : Nat} (s1 s2 : Bytes n) (offsets : List (Fin n)) :
    memcmpLoop s1 s2 offsets = 0 ↔ ∀ i ∈ offsets, s1 i = s2 i := by
  induction offsets with
  | nil => simp [memcmpLoop]
  | cons i rest ih =>
      rw [memcmpLoop, List.forall_mem_cons, ← ih]
      by_cases less : s1 i < s2 i
      · have differ : s1 i ≠ s2 i := UInt8.ne_of_lt less
        simp [less, differ]
      · by_cases more : s1 i > s2 i
        · have differ : s1 i ≠ s2 i := (UInt8.ne_of_lt more).symm
          simp [less, more, differ]
        · have same : s1 i = s2 i := UInt8.le_antisymm (UInt8.not_lt.mp more) (UInt8.not_lt.mp less)
          simp [same]

@[simp] theorem memcmp_eq_zero_iff {n : Nat} (s1 s2 : Bytes n) : memcmp s1 s2 = 0 ↔ s1 = s2 := by
  rw [memcmp, memcmpLoop_eq_zero_iff]
  exact ⟨fun same => funext fun i => same i (List.mem_finRange i), fun same i _ => congrFun same i⟩

end HexOS
