import Mathlib.Data.Fintype.Basic
import Mathlib.Data.List.Nodup
import Mathlib.Order.Basic

/-!
Tables whose entries link to other entries, as in a file allocation table.

An entry is free, ends a chain, links to another entry, or is none of these.
`Trail stop c path` says that following links from `c` visits exactly `path` and
leaves at an entry satisfying `stop`; `follow` computes the trail that ends a
chain. When every link points forward (`Ascending`), a trail exists from every
entry and visits each at most once.
-/

namespace LinkTable

inductive Link (n : Nat) where
  | free
  | last
  | next (d : Fin n)
  | bad
  deriving DecidableEq, Repr

variable {n : Nat} {link link' : Fin n → Link n} {stop : Link n → Prop}

inductive Trail (link : Fin n → Link n) (stop : Link n → Prop) : Fin n → List (Fin n) → Prop where
  | here {c : Fin n} : stop (link c) → Trail link stop c [c]
  | hop {c d : Fin n} {path : List (Fin n)} :
      link c = .next d → Trail link stop d path → Trail link stop c (c :: path)

/-- A chain is a trail up to a last entry. -/
abbrev Chain (link : Fin n → Link n) : Fin n → List (Fin n) → Prop :=
  Trail link (· = .last)

/-- Follow links up to the last entry; `none` when the trail leaves the table,
meets a free entry or is longer than `fuel`. -/
def follow (link : Fin n → Link n) : Nat → Fin n → Option (List (Fin n))
  | 0, _ => none
  | fuel + 1, c =>
      match link c with
      | .last => some [c]
      | .next d => (follow link fuel d).map (c :: ·)
      | .free => none
      | .bad => none

/-- A trail depends on the entries it visits only. -/
theorem Trail.congr {c : Fin n} {path : List (Fin n)} (trail : Trail link stop c path)
    (same : ∀ d ∈ path, link' d = link d) : Trail link' stop c path := by
  induction trail with
  | here ends => exact .here (by rw [same _ List.mem_cons_self]; exact ends)
  | @hop c d path leads _ ih =>
      have head : link' c = .next d := by rw [same c List.mem_cons_self]; exact leads
      exact .hop head (ih fun e he => same e (List.mem_cons_of_mem _ he))

theorem follow_of_chain {c : Fin n} {path : List (Fin n)} (chain : Chain link c path)
    {fuel : Nat} (enough : path.length ≤ fuel) : follow link fuel c = some path := by
  induction chain generalizing fuel with
  | @here c ends =>
      obtain ⟨fuel, rfl⟩ : ∃ m, fuel = m + 1 := ⟨fuel - 1, by simp at enough; omega⟩
      have last : link c = .last := ends
      simp [follow, last]
  | hop leads _ ih =>
      obtain ⟨fuel, rfl⟩ : ∃ m, fuel = m + 1 := ⟨fuel - 1, by simp at enough; omega⟩
      have tail := ih (by simpa using enough : _ ≤ fuel)
      simp [follow, leads, tail]

theorem chain_unique {c : Fin n} {path path' : List (Fin n)} (chain : Chain link c path)
    (chain' : Chain link c path') : path = path' := by
  have found := follow_of_chain chain (Nat.le_add_right path.length path'.length)
  have found' := follow_of_chain chain' (Nat.le_add_left path'.length path.length)
  exact Option.some.inj (found.symm.trans found')

/-- No entry of a chain is free. -/
theorem chain_used {c : Fin n} {path : List (Fin n)} (chain : Chain link c path) {d : Fin n}
    (member : d ∈ path) : link d ≠ .free := by
  induction chain with
  | here ends =>
      rw [List.mem_singleton.mp member, ends]
      simp
  | hop leads _ ih =>
      rcases List.mem_cons.mp member with rfl | later
      · simp [leads]
      · exact ih later

/-! ### Forward links -/

/-- From `lo` on, every entry is free, last, or links to a later entry. -/
def Ascending (lo : Nat) (link : Fin n → Link n) : Prop :=
  ∀ c : Fin n, lo ≤ c.val → link c = .free ∨ link c = .last ∨ ∃ d, c < d ∧ link c = .next d

/-- Forward links make every trail strictly ascending. -/
theorem Trail.pairwise {lo : Nat} (ascending : Ascending lo link) {c : Fin n}
    {path : List (Fin n)} (trail : Trail link stop c path) (start : lo ≤ c.val) :
    path.Pairwise (· < ·) ∧ ∀ d ∈ path, c ≤ d := by
  induction trail with
  | here => simp
  | @hop c d path leads _ ih =>
      have forward : c < d := by
        rcases ascending c start with free | last | ⟨e, less, leadsE⟩
        · rw [free] at leads; cases leads
        · rw [last] at leads; cases leads
        · rw [leads] at leadsE; cases leadsE; exact less
      obtain ⟨sorted, bound⟩ := ih (le_trans start (le_of_lt forward))
      refine ⟨List.pairwise_cons.mpr ⟨fun e he => lt_of_lt_of_le forward (bound e he), sorted⟩, ?_⟩
      intro e he
      rcases List.mem_cons.mp he with same | later
      · exact le_of_eq same.symm
      · exact le_trans (le_of_lt forward) (bound e later)

/-- With forward links a walk from `c` always stops, at a free or a last entry,
after visiting at most the entries from `c` on. -/
theorem Ascending.exists_trail {lo : Nat} (ascending : Ascending lo link) (c : Fin n)
    (start : lo ≤ c.val) :
    ∃ path, Trail link (fun l => l = .free ∨ l = .last) c path ∧ path.length ≤ n - c.val := by
  induction hk : n - c.val using Nat.strongRecOn generalizing c with
  | ind k ih =>
      have inside := c.isLt
      rcases ascending c start with free | last | ⟨d, less, leads⟩
      · exact ⟨[c], .here (.inl free), by simp; omega⟩
      · exact ⟨[c], .here (.inr last), by simp; omega⟩
      · have lessVal : c.val < d.val := less
        obtain ⟨path, trail, short⟩ := ih (n - d.val) (by omega) d (by omega) rfl
        exact ⟨c :: path, .hop leads trail, by simp; omega⟩

end LinkTable
