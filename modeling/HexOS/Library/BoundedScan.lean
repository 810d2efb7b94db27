import Mathlib.Algebra.GroupWithZero.Nat
import Mathlib.Data.Fintype.Basic
import Mathlib.Data.List.FinRange

/-!
Linear scans over the indices of a fixed-size table.

`firstFrom lo p` is the first index at or after `lo` that satisfies `p`;
`matchesFrom lo p` lists all of them in ascending order. The two are tied by
`matchesFrom_of_some` and `matchesFrom_of_none`, so a loop that searches again
from just behind its last hit walks along one list.
-/

namespace BoundedScan

variable {n : Nat} {lo : Nat} {p q : Fin n → Bool}

def firstFrom (lo : Nat) (p : Fin n → Bool) : Option (Fin n) :=
  (List.finRange n).find? fun i => decide (lo ≤ i.val) && p i

def matchesFrom (lo : Nat) (p : Fin n → Bool) : List (Fin n) :=
  (List.finRange n).filter fun i => decide (lo ≤ i.val) && p i

theorem ne_zero_of_one_le [NeZero n] {i : Fin n} (above : 1 ≤ i.val) : i ≠ 0 :=
  Fin.val_ne_zero_iff.mp (Nat.one_le_iff_ne_zero.mp above)

theorem firstFrom_eq_none_iff :
    firstFrom lo p = none ↔ ∀ i : Fin n, lo ≤ i.val → p i = false := by
  simp [firstFrom, List.find?_eq_none]

/-- The scan order is the index order, so what stands before a hit is smaller
and what stands behind it is larger. -/
private theorem finRange_split {i : Fin n} {before after : List (Fin n)}
    (split : List.finRange n = before ++ i :: after) :
    (∀ j ∈ before, j < i) ∧ ∀ j ∈ after, i < j := by
  have sorted := List.pairwise_lt_finRange n
  rw [split, List.pairwise_append, List.pairwise_cons] at sorted
  obtain ⟨-, ⟨behind, -⟩, front⟩ := sorted
  exact ⟨fun j hj => front j hj i List.mem_cons_self, behind⟩

theorem firstFrom_eq_some_iff {i : Fin n} :
    firstFrom lo p = some i ↔
      lo ≤ i.val ∧ p i = true ∧ ∀ j < i, lo ≤ j.val → p j = false := by
  constructor
  · intro found
    obtain ⟨hit, before, after, split, miss⟩ := List.find?_eq_some_iff_append.mp found
    simp only [Bool.and_eq_true, decide_eq_true_eq] at hit
    refine ⟨hit.1, hit.2, fun j hj hlo => ?_⟩
    have member : j ∈ before ++ i :: after := split ▸ List.mem_finRange j
    obtain ⟨-, behind⟩ := finRange_split split
    rcases List.mem_append.mp member with front | rest
    · simpa [hlo] using miss j front
    · rcases List.mem_cons.mp rest with same | rest
      · exact absurd same (ne_of_lt hj)
      · exact absurd (behind j rest) (lt_asymm hj)
  · rintro ⟨hlo, hit, least⟩
    cases found : firstFrom lo p with
    | none =>
        have := firstFrom_eq_none_iff.mp found i hlo
        simp [hit] at this
    | some k =>
        obtain ⟨khit, before, after, split, miss⟩ := List.find?_eq_some_iff_append.mp found
        simp only [Bool.and_eq_true, decide_eq_true_eq] at khit
        rcases lt_trichotomy k i with less | same | more
        · simp [least k less khit.1] at khit
        · rw [same]
        · have member : i ∈ before ++ k :: after := split ▸ List.mem_finRange i
          obtain ⟨-, behind⟩ := finRange_split split
          rcases List.mem_append.mp member with front | rest
          · simpa [hlo, hit] using miss i front
          · rcases List.mem_cons.mp rest with same | rest
            · exact absurd same (ne_of_lt more)
            · exact absurd (behind i rest) (lt_asymm more)

theorem firstFrom_here {i : Fin n} (hit : p i = true) : firstFrom i.val p = some i :=
  firstFrom_eq_some_iff.mpr ⟨le_rfl, hit, fun _ less above => absurd less (not_lt_of_ge above)⟩

/-- A scan passes an index that does not match. -/
theorem firstFrom_skip {i : Fin n} (miss : p i = false) :
    firstFrom i.val p = firstFrom (i.val + 1) p := by
  unfold firstFrom
  congr 1
  funext j
  by_cases here : j = i
  · simp [here, miss]
  · have apart : j.val ≠ i.val := Fin.val_ne_of_ne here
    have same : i.val ≤ j.val ↔ i.val + 1 ≤ j.val := by omega
    simp only [same]

theorem mem_matchesFrom {i : Fin n} : i ∈ matchesFrom lo p ↔ lo ≤ i.val ∧ p i = true := by
  simp [matchesFrom]

theorem matchesFrom_pairwise : (matchesFrom lo p).Pairwise (· < ·) :=
  (List.pairwise_lt_finRange n).filter _

theorem matchesFrom_congr (same : ∀ i : Fin n, lo ≤ i.val → p i = q i) :
    matchesFrom lo p = matchesFrom lo q := by
  apply List.filter_congr
  intro i _
  by_cases hlo : lo ≤ i.val
  · simp [hlo, same i hlo]
  · simp [hlo]

theorem matchesFrom_of_none (none : firstFrom lo p = none) : matchesFrom lo p = [] := by
  apply List.eq_nil_iff_forall_not_mem.mpr
  intro i member
  obtain ⟨hlo, hit⟩ := mem_matchesFrom.mp member
  simp [firstFrom_eq_none_iff.mp none i hlo] at hit

/-- All hits are the first one followed by the hits behind it. -/
theorem matchesFrom_of_some {i : Fin n} (found : firstFrom lo p = some i) :
    matchesFrom lo p = i :: matchesFrom (i.val + 1) p := by
  obtain ⟨hlo, hit, least⟩ := firstFrom_eq_some_iff.mp found
  obtain ⟨before, after, split⟩ := List.append_of_mem (List.mem_finRange i)
  obtain ⟨front, behind⟩ := finRange_split split
  have miss : ∀ (start : Nat), (∀ j ∈ before, start ≤ j.val → p j = false) →
      before.filter (fun j => decide (start ≤ j.val) && p j) = [] := by
    intro start none
    apply List.filter_eq_nil_iff.mpr
    intro j hj
    by_cases hs : start ≤ j.val
    · simp [none j hj hs]
    · simp [hs]
  have tail : after.filter (fun j => decide (lo ≤ j.val) && p j) =
      after.filter (fun j => decide (i.val + 1 ≤ j.val) && p j) := by
    apply List.filter_congr
    intro j hj
    have larger : i.val < j.val := behind j hj
    simp [show lo ≤ j.val by omega, show i.val + 1 ≤ j.val by omega]
  rw [matchesFrom, matchesFrom, split, List.filter_append, List.filter_append,
    miss lo fun j hj => least j (front j hj),
    miss (i.val + 1) fun j hj hs => absurd (show j.val < i.val from front j hj) (by omega),
    List.filter_cons_of_pos (by simp [hlo, hit]), List.filter_cons_of_neg (by simp), tail,
    List.nil_append, List.nil_append]

/-- Where everything matches from `lo` on, the matches are the rest of the table. -/
theorem matchesFrom_all (all : ∀ i : Fin n, lo ≤ i.val → p i = true) :
    matchesFrom lo p = (List.finRange n).drop lo := by
  have below : ∀ i ∈ (List.finRange n).take lo, i.val < lo := by
    intro i member
    obtain ⟨j, inside, rfl⟩ := List.getElem_of_mem member
    rw [List.length_take] at inside
    rw [List.getElem_take, List.getElem_finRange]
    exact (lt_min_iff.mp inside).1
  have above : ∀ i ∈ (List.finRange n).drop lo, lo ≤ i.val := by
    intro i member
    obtain ⟨j, -, rfl⟩ := List.getElem_of_mem member
    rw [List.getElem_drop, List.getElem_finRange]
    exact Nat.le_add_right lo j
  rw [matchesFrom]
  conv_lhs => rw [← List.take_append_drop lo (List.finRange n)]
  rw [List.filter_append, List.filter_eq_nil_iff.mpr, List.filter_eq_self.mpr, List.nil_append]
  · intro i member
    have low := above i member
    simp [low, all i low]
  · intro i member
    simp [below i member]

/-- A table that holds a list, and blanks behind it. -/
theorem map_getD_finRange {β : Type*} {items : List β} {blank : β} (fits : items.length ≤ n) :
    (List.finRange n).map (fun i => items.getD i.val blank) =
      items ++ List.replicate (n - items.length) blank := by
  apply List.ext_getElem
  · rw [List.length_map, List.length_finRange, List.length_append, List.length_replicate]
    omega
  · intro i low high
    rw [List.getElem_map, List.getElem_finRange]
    by_cases inside : i < items.length
    · simp [inside]
    · simp [Nat.not_lt.mp inside, List.getElem_append_right]

/-- Scanning such a table finds what searching the list finds. -/
theorem map_firstFrom_getD {β : Type*} {items : List β} {blank : β} (fits : items.length ≤ n)
    (q : β → Bool) :
    (firstFrom 0 fun i : Fin n => q (items.getD i.val blank)).map (fun i => items.getD i.val blank) =
      (items ++ List.replicate (n - items.length) blank).find? q := by
  rw [← map_getD_finRange fits, List.find?_map, firstFrom]
  simp only [Nat.zero_le, decide_true, Bool.true_and]
  rfl

end BoundedScan
