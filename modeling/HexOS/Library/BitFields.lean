import Mathlib.Tactic.Ring
import Mathlib.Data.Nat.ModEq

/-!
Records of bit fields.

A record is the list of its fields, a width and a value each, from the lowest bits
up. `pack` is the number whose bits they are, and `slice` reads any run of bits of a
number: a run that is a field gives the value of the field (`slice_field`), and a run
may be cut anywhere (`slice_add`).
-/

namespace BitFields

def pack : List (Nat × Nat) → Nat
  | [] => 0
  | (w, v) :: fields => v % 2 ^ w + 2 ^ w * pack fields

/-- How many bits the fields have. -/
def width : List (Nat × Nat) → Nat
  | [] => 0
  | (w, _) :: fields => w + width fields

/-- The `count` bits from bit `offset` on. -/
def slice (bits offset count : Nat) : Nat := bits / 2 ^ offset % 2 ^ count

theorem pack_lt (fields : List (Nat × Nat)) : pack fields < 2 ^ width fields := by
  induction fields with
  | nil => exact Nat.one_pos
  | cons field fields ih =>
      obtain ⟨w, v⟩ := field
      have value : v % 2 ^ w < 2 ^ w := Nat.mod_lt _ (Nat.two_pow_pos w)
      have step : 2 ^ w * (pack fields + 1) ≤ 2 ^ w * 2 ^ width fields :=
        Nat.mul_le_mul_left _ ih
      rw [Nat.mul_succ] at step
      rw [pack, width, pow_add]
      omega

theorem pack_append (lower upper : List (Nat × Nat)) :
    pack (lower ++ upper) = pack lower + 2 ^ width lower * pack upper := by
  induction lower with
  | nil => simp [pack, width]
  | cons field lower ih =>
      obtain ⟨w, v⟩ := field
      rw [List.cons_append, pack, ih, pack, width, pow_add]
      ring

/-- The bits of a field are its value. -/
theorem slice_pack (lower upper : List (Nat × Nat)) (w v : Nat) :
    slice (pack (lower ++ (w, v) :: upper)) (width lower) w = v % 2 ^ w := by
  have above : pack (lower ++ (w, v) :: upper) / 2 ^ width lower = v % 2 ^ w + 2 ^ w * pack upper := by
    rw [pack_append, Nat.add_mul_div_left _ _ (Nat.two_pow_pos _),
      Nat.div_eq_of_lt (pack_lt lower), Nat.zero_add, pack]
  rw [slice, above, Nat.add_mul_mod_self_left, Nat.mod_mod]

/-- Field `k`, when its value fits. -/
theorem slice_field (fields : List (Nat × Nat)) (k : Nat) (inside : k < fields.length)
    (fits : fields[k].2 < 2 ^ fields[k].1) :
    slice (pack fields) (width (fields.take k)) fields[k].1 = fields[k].2 := by
  have cut : fields = fields.take k ++ fields[k] :: fields.drop (k + 1) := by
    rw [List.getElem_cons_drop, List.take_append_drop]
  have read := slice_pack (fields.take k) (fields.drop (k + 1)) fields[k].1 fields[k].2
  rw [Nat.mod_eq_of_lt fits] at read
  rw [← cut] at read
  exact read

theorem slice_add (bits offset m n : Nat) :
    slice bits offset (m + n) = slice bits offset m + 2 ^ m * slice bits (offset + m) n := by
  rw [slice, slice, slice, pow_add, pow_add, Nat.mod_mul, Nat.div_div_eq_div_mul]

end BitFields
