import Mathlib.Logic.Function.Basic
import Mathlib.Data.List.Range

/-!
Replacing a stretch of a sequence.

`splice m f start len` is `m` with the `len` places from `start` on taken from
`f`. Adjacent stretches join (`splice_append`), so a loop whose rounds each
replace the next stretch replaces the whole (`foldl_splice`), whatever the width
of a round.
-/

namespace Splice

variable {β : Type*}

def splice (m f : Nat → β) (start len : Nat) : Nat → β := fun b =>
  if start ≤ b ∧ b < start + len then f (b - start) else m b

theorem splice_inside {m f : Nat → β} {start len k : Nat} (inside : k < len) :
    splice m f start len (start + k) = f k := by
  rw [splice, if_pos ⟨Nat.le_add_right _ _, by omega⟩, Nat.add_sub_cancel_left]

theorem splice_outside {m f : Nat → β} {start len b : Nat}
    (outside : ¬ (start ≤ b ∧ b < start + len)) :
    splice m f start len b = m b := if_neg outside

@[simp] theorem splice_zero (m f : Nat → β) (start : Nat) : splice m f start 0 = m :=
  funext fun _ => splice_outside (by omega)

theorem splice_congr {m f g : Nat → β} {start len : Nat} (same : ∀ k < len, f k = g k) :
    splice m f start len = splice m g start len := by
  funext b
  by_cases inside : start ≤ b ∧ b < start + len
  · obtain ⟨k, rfl⟩ := Nat.exists_eq_add_of_le inside.1
    rw [splice_inside (by omega), splice_inside (by omega), same k (by omega)]
  · rw [splice_outside inside, splice_outside inside]

/-- Two adjacent stretches are one. -/
theorem splice_append (m f : Nat → β) (start a b : Nat) :
    splice (splice m f start a) (fun k => f (a + k)) (start + a) b = splice m f start (a + b) := by
  funext x
  by_cases second : start + a ≤ x ∧ x < start + a + b
  · obtain ⟨k, rfl⟩ := Nat.exists_eq_add_of_le second.1
    rw [splice_inside (by omega), Nat.add_assoc start, splice_inside (by omega)]
  · rw [splice_outside second]
    by_cases first : start ≤ x ∧ x < start + a
    · obtain ⟨k, rfl⟩ := Nat.exists_eq_add_of_le first.1
      rw [splice_inside (by omega), splice_inside (by omega)]
    · rw [splice_outside first, splice_outside (by omega)]

theorem update_eq_splice (m f : Nat → β) (start : Nat) :
    Function.update m start (f 0) = splice m f start 1 := by
  funext b
  by_cases here : b = start
  · subst here
    rw [Function.update_self]
    exact (splice_inside Nat.one_pos).symm
  · rw [Function.update_of_ne here, splice_outside (by omega)]

/-- A loop whose `i`th round replaces the `i`th stretch of `width` places. -/
theorem foldl_splice {step : (Nat → β) → Nat → Nat → β} {f : Nat → β} {start width count : Nat}
    (round : ∀ i < count, ∀ m, step m i =
      splice m (fun k => f (width * i + k)) (start + width * i) width) (m : Nat → β) :
    (List.range count).foldl step m = splice m f start (width * count) := by
  induction count with
  | zero => simp
  | succ count ih =>
      rw [List.range_succ, List.foldl_append, ih fun i less => round i (by omega), List.foldl_cons,
        List.foldl_nil, round count (by omega), splice_append, Nat.mul_succ]

end Splice
