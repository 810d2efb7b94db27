import Mathlib.Logic.Function.Basic
import Mathlib.Data.List.Infix

/-!
A table in memory and a cache of it that is not coherent by itself.

A writer stores to entries of the table and flushes entries of the cache; a walker,
at any time, fills the cache from the table, drops entries from it, and sets marks
in entries of the table. What a mark changes does not show in the `view` of an entry.
Whatever the walker does in between, the table shows what the writer alone leaves
(`run_table`), and the walker goes by an entry that the writer has left since it last
settled it, with a flush behind every store (`uses_after`).
-/

namespace CachedTable

variable {κ ν ω : Type} [DecidableEq κ] {view : ν → ω}

/-- A store changes what shows of an entry in a way that depends on what shows. -/
structure Update (view : ν → ω) where
  apply : ν → ν
  respects : ∀ v v', view v = view v' → view (apply v) = view (apply v')

structure Mark (view : ν → ω) where
  apply : ν → ν
  keeps : ∀ v, view (apply v) = view v

inductive Op (κ : Type) (view : ν → ω) where
  | store (k : κ) (u : Update view)
  | flush (k : κ)

structure State (κ ν : Type) where
  table : κ → ν
  cache : κ → Option ν

inductive Move (κ : Type) (view : ν → ω) where
  | op (o : Op κ view)
  | fill (k : κ)
  | drop (k : κ)
  | mark (k : κ) (m : Mark view)

/-! ### Steps -/

/-- What an operation of the writer does to the table. -/
def write (t : κ → ν) : Op κ view → κ → ν
  | .store k u => Function.update t k (u.apply (t k))
  | .flush _ => t

def step (s : State κ ν) : Move κ view → State κ ν
  | .op (.store k u) => { s with table := write s.table (.store k u) }
  | .op (.flush k) => { s with cache := Function.update s.cache k none }
  | .fill k => { s with cache := Function.update s.cache k (some (s.table k)) }
  | .drop k => { s with cache := Function.update s.cache k none }
  | .mark k m => { s with table := Function.update s.table k (m.apply (s.table k)) }

/-- The operations among the moves. -/
def ops : List (Move κ view) → List (Op κ view)
  | [] => []
  | .op o :: moves => o :: ops moves
  | .fill _ :: moves => ops moves
  | .drop _ :: moves => ops moves
  | .mark _ _ :: moves => ops moves

omit [DecidableEq κ] in
/-- The writer's operations, one after the other. -/
theorem ops_map (os : List (Op κ view)) : ops (os.map .op) = os := by
  induction os with
  | nil => rfl
  | cons o os ih => exact congrArg (o :: ·) ih

/-- The table after the writer alone. -/
def written (t : κ → ν) (os : List (Op κ view)) : κ → ν := os.foldl write t

theorem written_snoc (t : κ → ν) (os : List (Op κ view)) (o : Op κ view) :
    written t (os ++ [o]) = write (written t os) o := by
  rw [written, List.foldl_append]
  rfl

/-! ### The invariant -/

/-- `h` is what the writer has done since the table was `t` and the cache empty. -/
structure Follows (t : κ → ν) (h : List (Op κ view)) (s : State κ ν) : Prop where
  table : ∀ k, view (s.table k) = view (written t h k)
  past : ∀ k v, s.cache k = some v →
    ∃ p r, h = p ++ r ∧ .flush k ∉ r ∧ view v = view (written t p k)

/-- Nothing is cached. -/
def start (t : κ → ν) : State κ ν := ⟨t, fun _ => none⟩

theorem follows_start (t : κ → ν) : Follows t ([] : List (Op κ view)) (start t) := by
  constructor
  · intro k
    rfl
  · intro k v cached
    cases cached

section

variable {t : κ → ν} {h : List (Op κ view)} {s : State κ ν}

/-- One more operation leaves what is cached of other entries in the past. -/
theorem Follows.past_snoc (follows : Follows t h s) {o : Op κ view} {k : κ} {v : ν}
    (cached : s.cache k = some v) (other : .flush k ≠ o) :
    ∃ p r, h ++ [o] = p ++ r ∧ .flush k ∉ r ∧ view v = view (written t p k) := by
  obtain ⟨p, r, split, unflushed, same⟩ := follows.past k v cached
  refine ⟨p, r ++ [o], ?_, ?_, same⟩
  · rw [split, List.append_assoc]
  · intro member
    rcases List.mem_append.mp member with old | new
    · exact unflushed old
    · exact other (List.mem_singleton.mp new)

theorem Follows.op (follows : Follows t h s) (o : Op κ view) :
    Follows t (h ++ [o]) (step s (.op o)) := by
  cases o with
  | store k u =>
      constructor
      · intro j
        rw [written_snoc]
        by_cases here : j = k
        · subst here
          simp only [step, write, Function.update_self]
          exact u.respects _ _ (follows.table j)
        · simp only [step, write, Function.update_of_ne here]
          exact follows.table j
      · intro j v cached
        exact follows.past_snoc cached fun same => by cases same
  | flush k =>
      constructor
      · intro j
        rw [written_snoc]
        exact follows.table j
      · intro j v cached
        by_cases here : j = k
        · subst here
          simp only [step, Function.update_self] at cached
          cases cached
        · simp only [step, Function.update_of_ne here] at cached
          exact follows.past_snoc cached fun same => here (Op.flush.inj same)

theorem Follows.fill (follows : Follows t h s) (k : κ) :
    Follows t h (step s (.fill k : Move κ view)) := by
  constructor
  · exact follows.table
  · intro j v cached
    by_cases here : j = k
    · subst here
      simp only [step, Function.update_self] at cached
      cases cached
      exact ⟨h, [], (List.append_nil h).symm, List.not_mem_nil, follows.table j⟩
    · simp only [step, Function.update_of_ne here] at cached
      exact follows.past j v cached

theorem Follows.drop (follows : Follows t h s) (k : κ) :
    Follows t h (step s (.drop k : Move κ view)) := by
  constructor
  · exact follows.table
  · intro j v cached
    by_cases here : j = k
    · subst here
      simp only [step, Function.update_self] at cached
      cases cached
    · simp only [step, Function.update_of_ne here] at cached
      exact follows.past j v cached

theorem Follows.mark (follows : Follows t h s) (k : κ) (m : Mark view) :
    Follows t h (step s (.mark k m)) := by
  constructor
  · intro j
    by_cases here : j = k
    · subst here
      simp only [step, Function.update_self]
      exact (m.keeps _).trans (follows.table j)
    · simp only [step, Function.update_of_ne here]
      exact follows.table j
  · exact follows.past

theorem Follows.run (follows : Follows t h s) (moves : List (Move κ view)) :
    Follows t (h ++ ops moves) (moves.foldl step s) := by
  induction moves generalizing h s with
  | nil =>
      rw [ops, List.append_nil]
      exact follows
  | cons move moves ih =>
      cases move with
      | op o =>
          have rest := ih (follows.op o)
          rw [List.append_assoc] at rest
          exact rest
      | fill k => exact ih (follows.fill k)
      | drop k => exact ih (follows.drop k)
      | mark k m => exact ih (follows.mark k m)

end

/-! ### Runs -/

/-- Every store to `k` is followed by a flush of it. -/
def Settled (k : κ) : List (Op κ view) → Prop
  | [] => True
  | .store j _ :: r => (j = k → .flush k ∈ r) ∧ Settled k r
  | .flush _ :: r => Settled k r

omit [DecidableEq κ] in
theorem settled_append {k : κ} {p r : List (Op κ view)} (left : Settled k p) (right : Settled k r) :
    Settled k (p ++ r) := by
  induction p with
  | nil => exact right
  | cons o p ih =>
      cases o with
      | store j u => exact ⟨fun here => List.mem_append_left _ (left.1 here), ih left.2⟩
      | flush j => exact ih left

omit [DecidableEq κ] in
theorem settled_suffix {k : κ} {p r : List (Op κ view)} (settled : Settled k (p ++ r)) :
    Settled k r := by
  induction p with
  | nil => exact settled
  | cons o p ih =>
      cases o with
      | store j u => exact ih settled.2
      | flush j => exact ih settled

omit [DecidableEq κ] in
theorem flush_of_store {k : κ} {u : Update view} {r : List (Op κ view)} (settled : Settled k r)
    (member : .store k u ∈ r) : .flush k ∈ r := by
  induction r with
  | nil => cases member
  | cons o r ih =>
      refine List.mem_cons_of_mem o ?_
      cases o with
      | store j u' =>
          rcases List.mem_cons.mp member with here | later
          · cases here
            exact settled.1 rfl
          · exact ih settled.2 later
      | flush j =>
          rcases List.mem_cons.mp member with here | later
          · cases here
          · exact ih settled later

theorem written_of_no_store (t : κ → ν) (p : List (Op κ view)) {r : List (Op κ view)} {k : κ}
    (none : ∀ u, .store k u ∉ r) : written t (p ++ r) k = written t p k := by
  induction r using List.reverseRecOn with
  | nil => rw [List.append_nil]
  | append_singleton r o ih =>
      have before := ih fun u member => none u (List.mem_append_left _ member)
      rw [← List.append_assoc, written_snoc]
      cases o with
      | store j u =>
          have other : k ≠ j := by
            rintro rfl
            exact none u (List.mem_append_right _ (List.mem_singleton_self _))
          rw [write, Function.update_of_ne other]
          exact before
      | flush j => exact before

section

variable (t : κ → ν) (moves : List (Move κ view))

theorem run_table (k : κ) :
    view ((moves.foldl step (start t)).table k) = view (written t (ops moves) k) :=
  ((follows_start t).run moves).table k

/-- The entry that the walker goes by, from the cache or from the table. -/
def Uses (s : State κ ν) (k : κ) (v : ν) : Prop := s.cache k = some v ∨ s.table k = v

/-- Once the entry is settled, the walker goes by what has been written since. -/
theorem uses_after {a b : List (Op κ view)} (split : ops moves = a ++ b) {k : κ} {v : ν}
    (settled : Settled k a) (uses : Uses (moves.foldl step (start t)) k v) :
    ∃ p, p <+: b ∧ view v = view (written (written t a) p k) := by
  have follows := (follows_start t).run moves
  rw [List.nil_append, split] at follows
  rcases uses with cached | current
  · obtain ⟨p, r, cut, unflushed, same⟩ := follows.past k v cached
    rcases List.append_eq_append_iff.mp cut with ⟨later, rfl, rfl⟩ | ⟨later, rfl, rfl⟩
    · refine ⟨later, List.prefix_append later r, ?_⟩
      rw [same, written, List.foldl_append]
      rfl
    · -- nothing is stored to `k` behind `p`, for the flush would still have to come
      have none : ∀ u, .store k u ∉ later := fun u member =>
        unflushed (List.mem_append_left b (flush_of_store (settled_suffix settled) member))
      refine ⟨[], List.nil_prefix, ?_⟩
      rw [same, ← written_of_no_store t p none]
      rfl
  · refine ⟨b, List.prefix_refl b, ?_⟩
    have same := run_table t moves k
    rw [split, written, List.foldl_append] at same
    rw [← current]
    exact same

end

end CachedTable
