import HexOS.Library.ByteWords
import Mathlib.Data.UInt

/-!
A descending stack of 32-bit words in a byte-addressed memory.

`Holds m sp ws` says that the words `ws` lie from address `sp` on, the top of the
stack first. Addresses wrap around at `2 ^ 32`, so a stack may lie anywhere;
`holds_push` is the rule of a push, `holds_behind` that of words that are dropped, and
`Holds.congr` the frame rule for whatever else writes to the memory.
-/

namespace StackWords

open ByteWords

abbrev Memory := UInt32 → UInt8

def load (m : Memory) (a : UInt32) : UInt32 := word32 fun k => m (a + UInt32.ofNat k)

def store (m : Memory) (a w : UInt32) : Memory :=
  fun b => if (b - a).toNat < 4 then byteAt w.toNat (b - a).toNat else m b

/-- The address of word `i` of a stack. -/
def slot (sp : UInt32) (i : Nat) : UInt32 := sp + UInt32.ofNat (4 * i)

def Holds (m : Memory) (sp : UInt32) (ws : List UInt32) : Prop :=
  ∀ (i : Nat) (inside : i < ws.length), load m (slot sp i) = ws[i]

theorem toNat_offset (a : UInt32) {k : Nat} (small : k < 2 ^ 32) :
    (a + UInt32.ofNat k - a).toNat = k := by
  have back : a + UInt32.ofNat k - a = UInt32.ofNat k := by
    rw [add_comm, add_sub_cancel_right]
  rw [back, UInt32.toNat_ofNat', Nat.mod_eq_of_lt small]

theorem add_ofNat (a : UInt32) (i j : Nat) :
    a + UInt32.ofNat i + UInt32.ofNat j = a + UInt32.ofNat (i + j) := by
  rw [add_assoc, UInt32.ofNat_add]

/-! ### One word -/

theorem load_store (m : Memory) (a w : UInt32) : load (store m a w) a = w := by
  have bytes : ∀ k < 4, store m a w (a + UInt32.ofNat k) = byteAt w.toNat k := by
    intro k small
    have offset := toNat_offset a (show k < 2 ^ 32 by omega)
    rw [store, offset, if_pos small]
  rw [load, word32_congr bytes, word32_byteAt]

/-- A word at least 4 bytes further on keeps its value. -/
theorem load_store_apart (m : Memory) (a w : UInt32) {d : Nat} (low : 4 ≤ d) (high : d + 4 ≤ 2 ^ 32) :
    load (store m a w) (a + UInt32.ofNat d) = load m (a + UInt32.ofNat d) := by
  refine word32_congr fun k small => ?_
  have offset := toNat_offset a (show d + k < 2 ^ 32 by omega)
  rw [add_ofNat, store, offset, if_neg (by omega)]

/-! ### The stack -/

section

variable {m m' : Memory} {sp w : UInt32} {ws : List UInt32}

theorem slot_zero (sp : UInt32) : slot sp 0 = sp := by
  rw [slot, Nat.mul_zero]
  exact add_zero sp

theorem slot_succ (sp : UInt32) (i : Nat) : slot sp (i + 1) = slot (sp + 4) i := by
  rw [slot, slot, Nat.mul_succ, Nat.add_comm, ← add_ofNat]
  rfl

theorem holds_nil (m : Memory) (sp : UInt32) : Holds m sp [] :=
  fun i inside => absurd inside (Nat.not_lt_zero i)

theorem holds_cons : Holds m sp (w :: ws) ↔ load m sp = w ∧ Holds m (sp + 4) ws := by
  constructor
  · intro holds
    constructor
    · have top := holds 0 (Nat.succ_pos _)
      rwa [slot_zero] at top
    · intro i inside
      have below := holds (i + 1) (Nat.succ_lt_succ inside)
      rwa [slot_succ] at below
  · rintro ⟨top, rest⟩ i inside
    cases i with
    | zero => rwa [slot_zero]
    | succ i =>
        rw [slot_succ]
        exact rest i (Nat.lt_of_succ_lt_succ inside)

/-- The address of a word does not depend on where one counts from. -/
theorem slot_add (sp : UInt32) (k i : Nat) : slot (sp + UInt32.ofNat (4 * k)) i = slot sp (k + i) := by
  rw [slot, slot, add_ofNat, Nat.mul_add]

/-- Memory that agrees on the words of the stack. -/
theorem Holds.congr (holds : Holds m sp ws)
    (same : ∀ i < ws.length, load m' (slot sp i) = load m (slot sp i)) : Holds m' sp ws :=
  fun i inside => (same i inside).trans (holds i inside)

theorem holds_push (holds : Holds m sp ws) (w : UInt32) (room : 4 * (ws.length + 1) ≤ 2 ^ 32) :
    Holds (store m (sp - 4) w) (sp - 4) (w :: ws) := by
  have back : sp - 4 + 4 = sp := sub_add_cancel sp 4
  refine holds_cons.mpr ⟨load_store _ _ _, ?_⟩
  rw [back]
  refine holds.congr fun i inside => ?_
  have place : slot sp i = sp - 4 + UInt32.ofNat (4 + 4 * i) := by
    rw [← add_ofNat]
    exact congrArg (· + UInt32.ofNat (4 * i)) back.symm
  rw [place]
  exact load_store_apart _ _ _ (by omega) (by omega)

/-- Below a stack of `k` words on `base`, a push writes only the next word. -/
theorem store_beyond (m : Memory) {sp base a : UInt32} (w : UInt32) {k : Nat}
    (depth : sp + UInt32.ofNat (4 * k) = base) (far : 4 * (k + 1) ≤ (base - 1 - a).toNat) :
    store m (sp - 4) w a = m a := by
  have small : (base - 1 - a).toNat < 2 ^ 32 := UInt32.toNat_lt _
  have bound := UInt32.toNat_lt a
  have bound' := UInt32.toNat_lt sp
  have one : (1 : UInt32).toNat = 1 := rfl
  have four : (4 : UInt32).toNat = 4 := rfl
  rw [store, if_neg]
  subst depth
  rw [UInt32.toNat_sub, UInt32.toNat_sub, UInt32.toNat_add, UInt32.toNat_ofNat', one] at far small
  rw [UInt32.toNat_sub, UInt32.toNat_sub, four]
  omega

/-- Whatever lies far enough below `base` lies as far below a stack on `base`. -/
theorem below_of_below {sp base a : UInt32} {k n : Nat} (depth : sp + UInt32.ofNat (4 * k) = base)
    (far : 4 * k + n ≤ (base - 1 - a).toNat) : n ≤ (sp - 1 - a).toNat := by
  have one : (1 : UInt32).toNat = 1 := rfl
  subst depth
  rw [UInt32.toNat_sub, UInt32.toNat_sub, UInt32.toNat_add, UInt32.toNat_ofNat', one] at far
  rw [UInt32.toNat_sub, UInt32.toNat_sub, one]
  omega

/-- The bytes of the stack lie directly below its base. -/
theorem within_stack {sp base : UInt32} {k i : Nat} (depth : sp + UInt32.ofNat (4 * k) = base)
    (inside : i < 4 * k) :
    (base - 1 - (sp + UInt32.ofNat i)).toNat < 4 * k := by
  have bound := UInt32.toNat_lt sp
  have one : (1 : UInt32).toNat = 1 := rfl
  subst depth
  rw [UInt32.toNat_sub, UInt32.toNat_sub, UInt32.toNat_add, UInt32.toNat_add, UInt32.toNat_ofNat',
    UInt32.toNat_ofNat', one]
  omega

/-- What is on the stack is not below it. -/
theorem not_below (sp : UInt32) {i n : Nat} (room : i + n < 2 ^ 32) :
    ¬ (sp - 1 - (sp + UInt32.ofNat i)).toNat < n := by
  have bound := UInt32.toNat_lt sp
  have one : (1 : UInt32).toNat = 1 := rfl
  rw [UInt32.toNat_sub, UInt32.toNat_sub, UInt32.toNat_add, UInt32.toNat_ofNat', one]
  omega

/-- Memory that agrees on the bytes of the stack. -/
theorem Holds.of_bytes (holds : Holds m sp ws)
    (same : ∀ i < 4 * ws.length, m' (sp + UInt32.ofNat i) = m (sp + UInt32.ofNat i)) :
    Holds m' sp ws := by
  refine holds.congr fun i inside => word32_congr fun k small => ?_
  rw [slot, add_ofNat]
  exact same _ (by omega)

/-- What lies behind the words on top. -/
theorem holds_behind {top : List UInt32} (holds : Holds m sp (top ++ ws)) :
    Holds m (sp + UInt32.ofNat (4 * top.length)) ws := by
  intro i inside
  have word := holds (top.length + i) (by rw [List.length_append]; omega)
  rw [List.getElem_append_right (Nat.le_add_right _ _)] at word
  rw [slot_add, word]
  simp only [Nat.add_sub_cancel_left]

end

end StackWords
