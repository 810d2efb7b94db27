import Mathlib.Data.List.GetD
import Mathlib.Logic.Function.Basic

/-!
A line kept in an array with an index is a zipper.

`line` is what stands before the index and `behind` what earlier edits have left
from the index on; the rest of the array is blank. `filled_store` says what a
store at the index does to the zipper; going back over a character does nothing to
the array at all (`all_erase`).
-/

namespace LineZipper

variable {α : Type*} {n : Nat} {blank : α} {array : Fin n → α}

structure Zipper (α : Type*) where
  line : List α
  behind : List α

def Zipper.all (z : Zipper α) : List α := z.line ++ z.behind

/-- The character takes the place of the first one behind the line. -/
def Zipper.type (a : α) (z : Zipper α) : Zipper α := ⟨z.line ++ [a], z.behind.tail⟩

/-- The last character of the line is left behind it. -/
def Zipper.erase (z : Zipper α) : Zipper α :=
  ⟨z.line.dropLast, z.line.getLast?.toList ++ z.behind⟩

/-- Past the end of the array the index starts again at its beginning. -/
def Zipper.wrap (n : Nat) (z : Zipper α) : Zipper α := if z.line.length = n then ⟨[], z.all⟩ else z

@[simp] theorem all_erase (z : Zipper α) : z.erase.all = z.all := by
  rw [Zipper.all, Zipper.all, Zipper.erase, ← List.append_assoc]
  congr 1
  rcases List.eq_nil_or_concat z.line with empty | ⟨rest, last, whole⟩
  · rw [empty]
    rfl
  · rw [whole, List.concat_eq_append, List.dropLast_concat, List.getLast?_concat]
    rfl

@[simp] theorem all_wrap (z : Zipper α) : (z.wrap n).all = z.all := by
  unfold Zipper.wrap
  split
  · rfl
  · rfl

@[simp] theorem length_erase (z : Zipper α) : z.erase.line.length = z.line.length - 1 :=
  List.length_dropLast

@[simp] theorem length_type (a : α) (z : Zipper α) :
    (z.type a).line.length = z.line.length + 1 := by
  rw [Zipper.type, List.length_append, List.length_singleton]

/-- The array holds `bytes`, and blanks behind them. -/
structure Filled (blank : α) (array : Fin n → α) (bytes : List α) : Prop where
  fits : bytes.length ≤ n
  cells : ∀ i : Fin n, array i = bytes.getD i.val blank

theorem filled_blank : Filled blank (fun _ : Fin n => blank) [] :=
  ⟨Nat.zero_le n, fun _ => rfl⟩

/-- A store at the index. -/
theorem filled_store {line behind : List α} (filled : Filled blank array (line ++ behind))
    {i : Fin n} (index : i.val = line.length) (a : α) :
    Filled blank (Function.update array i a) (line ++ a :: behind.tail) := by
  have inside := i.isLt
  have fits := filled.fits
  rw [List.length_append] at fits
  constructor
  · rw [List.length_append, List.length_cons, List.length_tail]
    omega
  · intro j
    rcases Nat.lt_trichotomy j.val line.length with before | here | after
    · have other : j ≠ i := Fin.ne_of_val_ne (by omega)
      rw [Function.update_of_ne other, filled.cells, List.getD_append _ _ _ _ before,
        List.getD_append _ _ _ _ before]
    · have same : j = i := Fin.ext (here.trans index.symm)
      rw [same, Function.update_self, List.getD_append_right _ _ _ _ (by omega), index, Nat.sub_self,
        List.getD_cons_zero]
    · have other : j ≠ i := Fin.ne_of_val_ne (by omega)
      obtain ⟨k, distance⟩ : ∃ k, j.val - line.length = k + 1 := ⟨j.val - line.length - 1, by omega⟩
      rw [Function.update_of_ne other, filled.cells, List.getD_append_right _ _ _ _ (by omega),
        List.getD_append_right _ _ _ _ (by omega), distance, List.getD_cons_succ]
      cases behind with
      | nil => rfl
      | cons b rest => rfl

/-- A store at the index followed by a step forward types the character. -/
theorem filled_type {z : Zipper α} (filled : Filled blank array z.all) {i : Fin n}
    (index : i.val = z.line.length) (a : α) :
    Filled blank (Function.update array i a) (z.type a).all := by
  have stored := filled_store filled index a
  rwa [Zipper.all, Zipper.type, List.append_assoc, List.singleton_append]

end LineZipper
