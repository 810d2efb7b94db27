import HexOS.Console.Keyboard

/-!
What a key does to the screen.

`typeEcho` and `eraseEcho` work on a row and a column, with a case for the edge
of the row. On positions they are one step forward and one step back: a character
is written where the cursor is, and a blank where it is put.
-/

namespace HexOS.Console

/-! ### Row and column -/

theorem toNat_succ {n : UInt8} (small : n.toNat < 255) : (n + 1).toNat = n.toNat + 1 := by
  rw [UInt8.toNat_add, show (1 : UInt8).toNat = 1 from rfl]
  omega

theorem positive_iff {n : UInt8} : n > 0 ↔ n ≠ 0 := by
  rw [gt_iff_lt, UInt8.lt_iff_toNat_lt, ne_eq, ← UInt8.toNat_inj, show (0 : UInt8).toNat = 0 from rfl]
  exact Nat.pos_iff_ne_zero

theorem toNat_pred {n : UInt8} (positive : n ≠ 0) : (n - 1).toNat = n.toNat - 1 := by
  have one : (1 : UInt8).toNat ≤ n.toNat :=
    Nat.pos_of_ne_zero fun zero => positive (UInt8.toNat_inj.mp zero)
  exact UInt8.toNat_sub_of_le _ _ (UInt8.le_iff_toNat_le.mpr one)

theorem toNat_col (fb : Framebuffer) :
    (framebufferGetCursor fb).2.1.toNat = fb.position % 80 := by
  rw [(getCursor_eq fb).2, UInt8.toNat_ofNat']
  omega

theorem toNat_row {fb : Framebuffer} (inside : fb.position < 80 * 256) :
    (framebufferGetCursor fb).1.toNat = fb.position / 80 := by
  rw [(getCursor_eq fb).1, UInt8.toNat_ofNat']
  omega

/-! ### The echo of a key -/

theorem typeEcho_eq (char : UInt8) {fb : Framebuffer} (inside : fb.position < 80 * 255) :
    ∃ row col r c, typeEcho char fb = framebufferSetCursor r c
        (framebufferWrite row col char 0x0F 0x00 (framebufferGetCursor fb).2.2) ∧
      row.toNat * 80 + col.toNat = fb.position ∧ r.toNat * 80 + c.toNat = fb.position + 1 := by
  have row := @toNat_row fb (by omega)
  have col := toNat_col fb
  have cell : (framebufferGetCursor fb).1.toNat * 80 + (framebufferGetCursor fb).2.1.toNat =
      fb.position := by omega
  by_cases edge : (framebufferGetCursor fb).2.1 = 79
  · have nextRow := toNat_succ (n := (framebufferGetCursor fb).1) (by omega)
    have last : fb.position % 80 = 79 := by rw [← col, edge]; rfl
    refine ⟨_, _, _, _, by simp only [typeEcho, if_pos edge]; rfl, cell, ?_⟩
    rw [nextRow, row, show (0 : UInt8).toNat = 0 from rfl]
    omega
  · have nextCol := toNat_succ (n := (framebufferGetCursor fb).2.1) (by omega)
    refine ⟨_, _, _, _, by simp only [typeEcho, if_neg edge]; rfl, cell, ?_⟩
    rw [nextCol, row, col]
    omega

theorem eraseEcho_eq {fb : Framebuffer} (inside : fb.position < 80 * 256) (behind : 0 < fb.position) :
    ∃ row col, eraseEcho fb = framebufferWrite row col 0x20 0xF 0
        (framebufferSetCursor row col (framebufferGetCursor fb).2.2) ∧
      row.toNat * 80 + col.toNat = fb.position - 1 := by
  have row := toNat_row inside
  have col := toNat_col fb
  by_cases edge : (framebufferGetCursor fb).2.1 = 0
  · have first : fb.position % 80 = 0 := by rw [← col, edge]; rfl
    have above : (framebufferGetCursor fb).1 > 0 := by
      rw [gt_iff_lt, UInt8.lt_iff_toNat_lt, row, show (0 : UInt8).toNat = 0 from rfl]
      omega
    have up := toNat_pred (positive_iff.mp above)
    refine ⟨_, _, by simp only [eraseEcho, if_pos edge, if_pos above]; rfl, ?_⟩
    rw [up, row, show (79 : UInt8).toNat = 79 from rfl]
    omega
  · have inner : fb.position % 80 ≠ 0 := fun zero => edge (UInt8.toNat_inj.mp (col.trans zero))
    refine ⟨_, _, by simp only [eraseEcho, if_neg edge]; rfl, ?_⟩
    rw [toNat_pred edge, row, col]
    omega

/-- Above the first cell there is nothing to erase. -/
theorem eraseEcho_zero {fb : Framebuffer} (zero : fb.position = 0) :
    eraseEcho fb = (framebufferGetCursor fb).2.2 := by
  have row := @toNat_row fb (by omega)
  have col := toNat_col fb
  have left : (framebufferGetCursor fb).2.1 = 0 := UInt8.toNat_inj.mp (by rw [col, zero]; rfl)
  have top : ¬ (framebufferGetCursor fb).1 > 0 := by
    rw [gt_iff_lt, UInt8.lt_iff_toNat_lt, row, zero]
    decide
  simp only [eraseEcho, if_pos left, if_neg top]

section

variable {fb : Framebuffer}

theorem position_typeEcho (char : UInt8) (inside : fb.position < 80 * 255) :
    (typeEcho char fb).position = fb.position + 1 := by
  obtain ⟨row, col, r, c, echo, -, next⟩ := typeEcho_eq char inside
  rw [echo, position_setCursor, next]

/-- The character, grey on black, where the cursor was. -/
theorem memory_typeEcho (char : UInt8) (inside : fb.position < 80 * 255) (offset : Nat) :
    (typeEcho char fb).memory offset =
      if offset = 2 * fb.position + 1 then 0x0F
      else if offset = 2 * fb.position then char
      else fb.memory offset := by
  obtain ⟨row, col, r, c, echo, cell, -⟩ := typeEcho_eq char inside
  rw [echo, memory_setCursor, memory_write, cell, memory_getCursor]
  rfl

theorem position_eraseEcho (inside : fb.position < 80 * 256) (behind : 0 < fb.position) :
    (eraseEcho fb).position = fb.position - 1 := by
  obtain ⟨row, col, echo, cell⟩ := eraseEcho_eq inside behind
  rw [echo, position_write, position_setCursor, cell]

/-- A blank in the cell before the cursor. -/
theorem memory_eraseEcho (inside : fb.position < 80 * 256) (behind : 0 < fb.position)
    (offset : Nat) :
    (eraseEcho fb).memory offset =
      if offset = 2 * (fb.position - 1) + 1 then 0x0F
      else if offset = 2 * (fb.position - 1) then 0x20
      else fb.memory offset := by
  obtain ⟨row, col, echo, cell⟩ := eraseEcho_eq inside behind
  rw [echo, memory_write, cell, memory_setCursor, memory_getCursor]
  rfl

end

/-- The echo of a key that is not Enter. -/
theorem commitKey_screen {t : Terminal} (other : t.lastKeyPressed ≠ newline) :
    (commitKey t).screen =
      if t.lastKeyPressed = backspace then
        if t.keyboard.bufferIndex > 0 then eraseEcho t.screen
        else (framebufferGetCursor t.screen).2.2
      else typeEcho t.lastKeyPressed t.screen := by
  by_cases erase : t.lastKeyPressed = backspace
  · simp only [commitKey, if_neg other, if_pos erase]
    split <;> rfl
  · simp only [commitKey, if_neg other, if_neg erase]
    rfl

end HexOS.Console
