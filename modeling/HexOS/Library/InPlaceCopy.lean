import Mathlib.Data.List.Basic
import Mathlib.Logic.Function.Basic

/-!
Copying between places of one memory, one at a time.

`copyEach dest src order` copies, for each index of `order` in turn, the place
`src i` to the place `dest i`. A copy may read what an earlier one has written.
`Safe` says that none does and that no place is written twice; the copies then
read the memory as it was at the start (`copyEach_dest`).
-/

namespace InPlaceCopy

variable {ι α β : Type*} [DecidableEq α] {dest src : ι → α} {order : List ι} {m : α → β}

def copyEach (dest src : ι → α) : List ι → (α → β) → α → β
  | [], m => m
  | i :: rest, m => copyEach dest src rest (Function.update m (dest i) (m (src i)))

/-- No copy reads or writes a place an earlier one has written. -/
def Safe (dest src : ι → α) (order : List ι) : Prop :=
  order.Pairwise fun i j => dest i ≠ src j ∧ dest i ≠ dest j

/-- Places that are no destination keep what they hold. -/
theorem copyEach_of_ne {a : α} (outside : ∀ i ∈ order, dest i ≠ a) :
    copyEach dest src order m a = m a := by
  induction order generalizing m with
  | nil => rfl
  | cons i rest ih =>
      have other : a ≠ dest i := (outside i List.mem_cons_self).symm
      rw [copyEach, ih fun j member => outside j (List.mem_cons_of_mem i member)]
      exact Function.update_of_ne other _ _

/-- Each destination gets what its source held at the start. -/
theorem copyEach_dest (safe : Safe dest src order) {i : ι} (member : i ∈ order) :
    copyEach dest src order m (dest i) = m (src i) := by
  induction order generalizing m with
  | nil => cases member
  | cons j rest ih =>
      obtain ⟨apart, later⟩ := List.pairwise_cons.mp safe
      rw [copyEach]
      rcases List.mem_cons.mp member with rfl | behind
      · -- the place is not written again
        rw [copyEach_of_ne fun k inRest => (apart k inRest).2.symm, Function.update_self]
      · rw [ih later behind]
        exact Function.update_of_ne (apart i behind).1.symm _ _

theorem copyEach_self (dest : ι → α) (order : List ι) (m : α → β) :
    copyEach dest dest order m = m := by
  induction order with
  | nil => rfl
  | cons i rest ih => rw [copyEach, Function.update_eq_self, ih]

/-! ### Upwards over an overlap -/

theorem copyEach_append (first second : List ι) :
    copyEach dest src (first ++ second) m = copyEach dest src second (copyEach dest src first m) := by
  induction first generalizing m with
  | nil => rfl
  | cons i rest ih => exact ih

/-- Copies that reach `k` places up read what they have written: the first `k` places
are repeated. -/
theorem copyEach_repeats {place : ℕ → α} {k n : ℕ} (positive : 0 < k)
    (apart : ∀ i < k + n, ∀ j < k + n, place i = place j → i = j) {j : ℕ} (inside : j < n) :
    copyEach (fun i => place (k + i)) place (List.range n) m (place (k + j)) =
      m (place (j % k)) := by
  induction n generalizing j with
  | zero => exact absurd inside (Nat.not_lt_zero j)
  | succ n ih =>
      have before : ∀ j < n, copyEach (fun i => place (k + i)) place (List.range n) m
          (place (k + j)) = m (place (j % k)) := fun j less =>
        ih (fun i low j high => apart i (by omega) j (by omega)) less
      rw [List.range_succ, copyEach_append, copyEach, copyEach]
      rcases Nat.lt_succ_iff_lt_or_eq.mp inside with earlier | rfl
      · have other : place (k + j) ≠ place (k + n) := fun same => by
          have := apart _ (by omega) _ (by omega) same
          omega
        rw [Function.update_of_ne other]
        exact before j earlier
      · rw [Function.update_self]
        by_cases far : k ≤ j
        · have copied := before (j - k) (by omega)
          rw [Nat.add_sub_cancel' far] at copied
          rw [copied, Nat.mod_eq_sub_mod far]
        · rw [Nat.mod_eq_of_lt (Nat.not_le.mp far)]
          refine copyEach_of_ne fun i member same => far ?_
          have low := List.mem_range.mp member
          have := apart _ (by omega) _ (by omega) same
          omega

end InPlaceCopy
