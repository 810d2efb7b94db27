import Mathlib.Data.List.Basic
import Mathlib.Data.List.Forall2
import Mathlib.Data.List.Induction

/-!
Items laid out one behind the other.

Each item takes `size` units. `placed` gives every item the unit it starts at, from a
base on, and `owner` is the item that a unit belongs to. Items are only ever added at
the end, so the rules say what one more item changes: `owner_snoc` and `placed_snoc`.
-/

namespace Extents

variable {α : Type*} {size : α → Nat} {base : Nat} {items : List α} {a : α} {p q : Nat × α} {x : Nat}

def total (size : α → Nat) : List α → Nat
  | [] => 0
  | a :: rest => size a + total size rest

/-- The items with the units they start at. -/
def placed (size : α → Nat) : Nat → List α → List (Nat × α)
  | _, [] => []
  | base, a :: rest => (base, a) :: placed size (base + size a) rest

/-- Unit `x` is one of the item's. -/
def Covers (size : α → Nat) (p : Nat × α) (x : Nat) : Prop := p.1 ≤ x ∧ x < p.1 + size p.2

instance (p : Nat × α) (x : Nat) : Decidable (Covers size p x) := inferInstanceAs (Decidable (_ ∧ _))

/-- The item that a unit belongs to. -/
def owner (size : α → Nat) (base : Nat) (items : List α) (x : Nat) : Option (Nat × α) :=
  (placed size base items).find? fun p => Covers size p x

theorem total_snoc : total size (items ++ [a]) = total size items + size a := by
  induction items with
  | nil => exact Nat.add_comm _ _
  | cons b rest ih => rw [List.cons_append, total, ih, total, Nat.add_assoc]

theorem placed_snoc :
    placed size base (items ++ [a]) = placed size base items ++ [(base + total size items, a)] := by
  induction items generalizing base with
  | nil => rfl
  | cons b rest ih =>
      have behind : base + size b + total size rest = base + total size (b :: rest) := by
        rw [total, Nat.add_assoc]
      rw [List.cons_append, placed, ih, behind, placed, List.cons_append]

/-- An item lies between the base and the end. -/
theorem placed_bounds (member : p ∈ placed size base items) :
    base ≤ p.1 ∧ p.1 + size p.2 ≤ base + total size items ∧ p.2 ∈ items := by
  induction items using List.reverseRecOn with
  | nil => cases member
  | append_singleton items a ih =>
      rw [placed_snoc] at member
      rw [total_snoc]
      rcases List.mem_append.mp member with old | new
      · obtain ⟨low, high, inside⟩ := ih old
        exact ⟨low, by omega, List.mem_append_left _ inside⟩
      · rw [List.mem_singleton.mp new]
        exact ⟨Nat.le_add_right _ _, Nat.le_of_eq (Nat.add_assoc _ _ _),
          List.mem_append_right _ (List.mem_singleton_self a)⟩

theorem owner_spec (found : owner size base items x = some p) :
    p ∈ placed size base items ∧ Covers size p x := by
  rw [owner] at found
  have covers := List.find?_some (p := fun p => decide (Covers size p x)) found
  exact ⟨List.mem_of_find?_eq_some found, of_decide_eq_true covers⟩

theorem owner_none_of_below (below : x < base) : owner size base items x = none := by
  rw [owner, List.find?_eq_none]
  intro p member covers
  have low := (placed_bounds member).1
  have here := (of_decide_eq_true covers).1
  omega

theorem owner_none_of_beyond (beyond : base + total size items ≤ x) :
    owner size base items x = none := by
  rw [owner, List.find?_eq_none]
  intro p member covers
  have high := (placed_bounds member).2.1
  have here := (of_decide_eq_true covers).2
  omega

/-- One more item owns the units behind the others, which keep their owners. -/
theorem owner_snoc : owner size base (items ++ [a]) x =
    if Covers size (base + total size items, a) x then some (base + total size items, a)
    else owner size base items x := by
  have old : owner size base items x = (placed size base items).find? fun p => Covers size p x := rfl
  rw [owner, placed_snoc, List.find?_append, ← old]
  split
  · rename_i covers
    rw [owner_none_of_beyond covers.1, Option.none_or]
    exact List.find?_cons_of_pos (decide_eq_true covers)
  · rename_i outside
    have none : [(base + total size items, a)].find? (fun p => Covers size p x) = none :=
      List.find?_cons_of_neg fun covers => outside (of_decide_eq_true covers)
    rw [none, Option.or_none]

/-- Every unit before the end has an owner. -/
theorem exists_owner (above : base ≤ x) (below : x < base + total size items) :
    ∃ p, owner size base items x = some p := by
  induction items using List.reverseRecOn with
  | nil => exact absurd below (Nat.not_lt.mpr above)
  | append_singleton items a ih =>
      rw [total_snoc] at below
      rw [owner_snoc]
      split
      · exact ⟨_, rfl⟩
      · rename_i outside
        refine ih ?_
        by_contra beyond
        exact outside ⟨Nat.not_lt.mp beyond, Nat.lt_of_lt_of_eq below (Nat.add_assoc _ _ _).symm⟩

/-- The items own their units. -/
theorem owner_of_placed (member : p ∈ placed size base items) (covers : Covers size p x) :
    owner size base items x = some p := by
  induction items using List.reverseRecOn with
  | nil => cases member
  | append_singleton items a ih =>
      rw [placed_snoc] at member
      rw [owner_snoc]
      rcases List.mem_append.mp member with old | new
      · have high := (placed_bounds old).2.1
        have before := covers.2
        rw [if_neg fun inside => by
          have := inside.1
          omega]
        exact ih old
      · rw [List.mem_singleton.mp new] at covers ⊢
        rw [if_pos covers]

/-! ### Equal owners -/

theorem owner_cons : owner size base (a :: items) x =
    if Covers size (base, a) x then some (base, a) else owner size (base + size a) items x := by
  rw [owner, placed, List.find?_cons]
  by_cases covers : Covers size (base, a) x
  · rw [if_pos covers]
    simp only [covers, decide_true]
  · rw [if_neg covers]
    simp only [covers, decide_false]
    rfl

/-- Two items that start at the same unit and are related. -/
def Located (R : α → α → Prop) (p q : Nat × α) : Prop := p.1 = q.1 ∧ R p.2 q.2

section

variable {R : α → α → Prop} {others : List α}

/-- Lists whose units have related owners are related item by item. -/
theorem forall₂_of_owners (positive : ∀ a, 0 < size a) (sizes : ∀ a b, R a b → size a = size b)
    (related : ∀ x, Option.Rel (Located R) (owner size base items x) (owner size base others x)) :
    List.Forall₂ R items others := by
  have here : ∀ (base : Nat) (a : α), Covers size (base, a) base := fun base a =>
    ⟨Nat.le_refl base, Nat.lt_add_of_pos_right (positive a)⟩
  induction items generalizing base others with
  | nil =>
      cases others with
      | nil => exact .nil
      | cons b rest =>
          have first := related base
          rw [owner_cons, if_pos (here base b)] at first
          cases first
  | cons a items ih =>
      cases others with
      | nil =>
          have first := related base
          rw [owner_cons, if_pos (here base a)] at first
          cases first
      | cons b others =>
          have first := related base
          rw [owner_cons, owner_cons, if_pos (here base a), if_pos (here base b)] at first
          cases first with
          | some head =>
              have same : size a = size b := sizes _ _ head.2
              refine .cons head.2 (@ih (base + size a) others fun x => ?_)
              by_cases behind : base + size a ≤ x
              · have rest := related x
                have outside : ∀ c, size c = size a → ¬ Covers size (base, c) x := by
                  rintro c width ⟨-, inside⟩
                  simp only at inside
                  omega
                rw [owner_cons, owner_cons, if_neg (outside a rfl), if_neg (outside b same.symm),
                  ← same] at rest
                exact rest
              · rw [owner_none_of_below (Nat.not_le.mp behind),
                  owner_none_of_below (Nat.not_le.mp behind)]
                exact .none

/-- Related lists are laid out alike. -/
theorem placed_of_forall₂ (sizes : ∀ a b, R a b → size a = size b)
    (related : List.Forall₂ R items others) :
    List.Forall₂ (Located R) (placed size base items) (placed size base others) := by
  induction related generalizing base with
  | nil => exact .nil
  | cons head rest ih =>
      rw [placed, placed, ← sizes _ _ head]
      exact .cons ⟨rfl, head⟩ ih

theorem owners_of_forall₂ (sizes : ∀ a b, R a b → size a = size b)
    (related : List.Forall₂ R items others) (x : Nat) :
    Option.Rel (Located R) (owner size base items x) (owner size base others x) := by
  induction related generalizing base with
  | nil => exact .none
  | @cons a b items others head rest ih =>
      have same := sizes _ _ head
      rw [owner_cons, owner_cons]
      by_cases covers : Covers size (base, a) x
      · have too : Covers size (base, b) x := ⟨covers.1, same ▸ covers.2⟩
        rw [if_pos covers, if_pos too]
        exact .some ⟨rfl, head⟩
      · have too : ¬ Covers size (base, b) x := fun inside => covers ⟨inside.1, same.symm ▸ inside.2⟩
        rw [if_neg covers, if_neg too, ← same]
        exact ih

end

end Extents
