import HexOS.Console.Echo
import HexOS.Console.Printing

/-!
Staying on the 80 by 25 screen.

Neither `puts` nor the keyboard driver scrolls or clamps, so the screen is left
at its end. `StaysOn` says of one input, before it is handled, that there is
room for what it prints. `stays_step_iff` shows that one step stays on the screen
exactly under this condition, and `screen_iff_room` that a run does exactly when
all its inputs meet it. Twenty-five printed lines are enough to leave the screen.
-/

namespace HexOS.Console

open PartialRuns WhileLoop Fat32

/-! ### On the screen -/

def ScreenAccess.OnScreen : ScreenAccess → Prop
  | .moved position => position < 80 * 25
  | .stored offset => offset < 80 * 25 * 2

def Framebuffer.OnScreen (fb : Framebuffer) : Prop := ∀ a ∈ fb.accesses, a.OnScreen

/-- All accesses so far were on the screen, and the cursor is. -/
structure Stays (fb : Framebuffer) : Prop where
  accesses : fb.OnScreen
  cursor : fb.position < 80 * 25

@[simp] theorem onScreen_write (row col c fg bg : UInt8) (fb : Framebuffer) :
    (framebufferWrite row col c fg bg fb).OnScreen ↔
      fb.OnScreen ∧ row.toNat * 80 + col.toNat < 80 * 25 := by
  simp only [Framebuffer.OnScreen, framebufferWrite, Framebuffer.store, List.forall_mem_cons,
    ScreenAccess.OnScreen, toNat_offset]
  constructor
  · rintro ⟨high, low, old⟩
    exact ⟨old, by omega⟩
  · rintro ⟨old, inside⟩
    exact ⟨by omega, by omega, old⟩

@[simp] theorem onScreen_setCursor (r c : UInt8) (fb : Framebuffer) :
    (framebufferSetCursor r c fb).OnScreen ↔
      fb.OnScreen ∧ r.toNat * 80 + c.toNat < 80 * 25 := by
  simp only [Framebuffer.OnScreen, framebufferSetCursor, List.forall_mem_cons,
    ScreenAccess.OnScreen, toNat_cell]
  exact and_comm

@[simp] theorem stays_setCursor (r c : UInt8) (fb : Framebuffer) :
    Stays (framebufferSetCursor r c fb) ↔ fb.OnScreen ∧ r.toNat * 80 + c.toNat < 80 * 25 := by
  constructor
  · exact fun stays => (onScreen_setCursor r c fb).mp stays.accesses
  · exact fun inside => ⟨(onScreen_setCursor r c fb).mpr inside, by
      rw [position_setCursor]
      exact inside.2⟩

@[simp] theorem stays_write (row col c fg bg : UInt8) (fb : Framebuffer) :
    Stays (framebufferWrite row col c fg bg fb) ↔
      Stays fb ∧ row.toNat * 80 + col.toNat < 80 * 25 := by
  constructor
  · rintro ⟨accesses, cursor⟩
    obtain ⟨old, inside⟩ := (onScreen_write row col c fg bg fb).mp accesses
    exact ⟨⟨old, cursor⟩, inside⟩
  · rintro ⟨⟨old, cursor⟩, inside⟩
    exact ⟨(onScreen_write row col c fg bg fb).mpr ⟨old, inside⟩, cursor⟩

theorem stays_getCursor {fb : Framebuffer} (stays : Stays fb) :
    Stays (framebufferGetCursor fb).2.2 :=
  ⟨stays.accesses, by rw [position_getCursor]; exact stays.cursor⟩

/-- On the screen the cursor's row and column are exact. -/
theorem Stays.row {fb : Framebuffer} (stays : Stays fb) :
    (framebufferGetCursor fb).1.toNat = fb.position / 80 := by
  have := stays.cursor
  exact toNat_row (by omega)

/-! ### Printing -/

theorem onScreen_writeCells (str : Nat → UInt8) (color : UInt32) (row : UInt8) {col : UInt8} {n : Nat}
    (inside : col.toNat + n ≤ 256) (screen : Framebuffer) :
    (writeCells str color row col n screen).OnScreen ↔
      screen.OnScreen ∧ ∀ m < n, row.toNat * 80 + col.toNat + m < 80 * 25 := by
  induction n with
  | zero => simp [writeCells]
  | succ n ih =>
      rw [writeCells, onScreen_write, ih (by omega), toNat_column (by omega), and_assoc]
      refine and_congr_right fun _ => ?_
      constructor
      · rintro ⟨before, last⟩ m below
        rcases Nat.lt_succ_iff_lt_or_eq.mp below with earlier | rfl
        · exact before m earlier
        · omega
      · intro all
        have last := all n (by omega)
        exact ⟨fun m below => all m (by omega), by omega⟩

/-- `puts` moves the cursor behind the string, and is on the screen when that is. -/
theorem puts_spec (str : Nat → UInt8) (len color : UInt32) (row col : UInt8)
    (inside : col.toNat + len.toNat < 256) (screen : Framebuffer) :
    ∃ screen', puts str len color row col screen = .ok screen' ∧
      screen'.position = row.toNat * 80 + col.toNat + len.toNat ∧
      (screen'.OnScreen ↔
        screen.OnScreen ∧ row.toNat * 80 + col.toNat + len.toNat < 80 * 25) := by
  have cell := toNat_column inside
  have cells := @onScreen_writeCells str color row col len.toNat (by omega) screen
  refine ⟨_, puts_eq str color row col (by omega) screen, ?_, ?_⟩
  · rw [position_setCursor, cell]
    omega
  · rw [onScreen_setCursor, cells, cell, and_assoc]
    refine and_congr_right fun _ => ?_
    constructor
    · rintro ⟨_, final⟩
      omega
    · intro final
      exact ⟨fun m below => by omega, by omega⟩

/-! ### Echoing keys -/

theorem newlineEcho_iff {fb : Framebuffer} (stays : Stays fb) :
    ((newlineEcho fb).OnScreen ↔ fb.position / 80 < 24) ∧
      (Stays (newlineEcho fb) ↔ fb.position / 80 < 24) := by
  have row := stays.row
  have bound := stays.cursor
  have next := toNat_succ (n := (framebufferGetCursor fb).1) (by omega)
  have old : (framebufferGetCursor fb).2.2.OnScreen := stays.accesses
  simp only [newlineEcho, onScreen_setCursor, stays_setCursor, next, row, old, true_and,
    show (0 : UInt8).toNat = 0 from rfl]
  omega

theorem typeEcho_iff (char : UInt8) {fb : Framebuffer} (stays : Stays fb) :
    ((typeEcho char fb).OnScreen ↔ fb.position + 1 < 80 * 25) ∧
      (Stays (typeEcho char fb) ↔ fb.position + 1 < 80 * 25) := by
  have bound := stays.cursor
  have old : (framebufferGetCursor fb).2.2.OnScreen := stays.accesses
  obtain ⟨row, col, r, c, echo, cell, next⟩ := @typeEcho_eq char fb (by omega)
  simp only [echo, onScreen_setCursor, stays_setCursor, onScreen_write, old, cell, next, true_and]
  omega

theorem stays_eraseEcho {fb : Framebuffer} (stays : Stays fb) : Stays (eraseEcho fb) := by
  have bound := stays.cursor
  have old : (framebufferGetCursor fb).2.2.OnScreen := stays.accesses
  rcases Nat.eq_zero_or_pos fb.position with zero | behind
  · rw [eraseEcho_zero zero]
    exact stays_getCursor stays
  · obtain ⟨row, col, echo, cell⟩ := eraseEcho_eq (by omega) behind
    simp only [echo, stays_write, stays_setCursor, old, cell, true_and]
    omega

/-! ### Arrow keys -/

/-- What an arrow key does: nothing, or one move of the cursor that stays on the
screen when the cursor was there. -/
inductive CursorMove (fb : Framebuffer) : Framebuffer → Prop where
  | none : CursorMove fb fb
  | read : CursorMove fb (framebufferGetCursor fb).2.2
  | moved {r c : UInt8} : (Stays fb → r.toNat * 80 + c.toNat < 80 * 25) →
      CursorMove fb (framebufferSetCursor r c (framebufferGetCursor fb).2.2)

theorem CursorMove.stays {fb fb' : Framebuffer} (move : CursorMove fb fb') (stays : Stays fb) :
    Stays fb' := by
  cases move with
  | none => exact stays
  | read => exact stays_getCursor stays
  | moved inside => exact (stays_setCursor _ _ _).mpr ⟨stays.accesses, inside stays⟩

theorem CursorMove.onScreen {fb fb' : Framebuffer} (move : CursorMove fb fb')
    (after : fb'.OnScreen) : fb.OnScreen := by
  cases move with
  | none => exact after
  | read => exact after
  | moved => exact ((onScreen_setCursor _ _ _).mp after).1

section Moves

variable {fb : Framebuffer}

theorem move_same : CursorMove fb (framebufferSetCursor (framebufferGetCursor fb).1
    (framebufferGetCursor fb).2.1 (framebufferGetCursor fb).2.2) := by
  refine .moved fun stays => ?_
  have bound := stays.cursor
  rw [stays.row, toNat_col]
  omega

theorem move_nextRow (above : (framebufferGetCursor fb).1 < 24) :
    CursorMove fb (framebufferSetCursor ((framebufferGetCursor fb).1 + 1) 0
      (framebufferGetCursor fb).2.2) := by
  refine .moved fun stays => ?_
  have small : (framebufferGetCursor fb).1.toNat < 24 := UInt8.lt_iff_toNat_lt.mp above
  rw [toNat_succ (by omega), show (0 : UInt8).toNat = 0 from rfl]
  omega

theorem move_nextCol (inner : (framebufferGetCursor fb).2.1.toNat < 79) :
    CursorMove fb (framebufferSetCursor (framebufferGetCursor fb).1
      ((framebufferGetCursor fb).2.1 + 1) (framebufferGetCursor fb).2.2) := by
  refine .moved fun stays => ?_
  have bound := stays.cursor
  rw [toNat_succ (by omega), stays.row]
  omega

theorem move_previousRow (below : (framebufferGetCursor fb).1 > 0) :
    CursorMove fb (framebufferSetCursor ((framebufferGetCursor fb).1 - 1) 79
      (framebufferGetCursor fb).2.2) := by
  refine .moved fun stays => ?_
  have bound := stays.cursor
  rw [toNat_pred (positive_iff.mp below), stays.row, show (79 : UInt8).toNat = 79 from rfl]
  omega

theorem move_previousCol (inner : (framebufferGetCursor fb).2.1 ≠ 0) :
    CursorMove fb (framebufferSetCursor (framebufferGetCursor fb).1
      ((framebufferGetCursor fb).2.1 - 1) (framebufferGetCursor fb).2.2) := by
  refine .moved fun stays => ?_
  have bound := stays.cursor
  rw [toNat_pred inner, stays.row, toNat_col]
  omega

theorem move_arrowRight (bufferIndex : UInt8) : CursorMove fb (arrowRight bufferIndex fb) := by
  have column : (framebufferGetCursor fb).2.1.toNat < 80 := by
    rw [toNat_col]
    omega
  have kolom : (bufferIndex % 80).toNat < 80 := by
    rw [UInt8.toNat_mod]
    exact Nat.mod_lt _ (by decide)
  simp only [arrowRight]
  split
  · split
    · split
      · split
        · rename_i above
          exact move_nextRow above
        · exact .read
      · split
        · rename_i inner
          exact move_nextCol (UInt8.lt_iff_toNat_lt.mp inner)
        · exact .read
    · split
      · split
        · rename_i inner
          have := UInt8.lt_iff_toNat_lt.mp inner
          exact move_nextCol (by omega)
        · exact move_same
      · exact .read
  · rename_i few
    split
    · rename_i inner
      have left := UInt8.lt_iff_toNat_lt.mp inner
      have line : bufferIndex.toNat ≤ 79 := UInt8.le_iff_toNat_le.mp (UInt8.not_lt.mp few)
      exact move_nextCol (by omega)
    · exact move_same

theorem move_arrowLeft (bufferIndex : UInt8) : CursorMove fb (arrowLeft bufferIndex fb) := by
  simp only [arrowLeft]
  split
  · split
    · split
      · split
        · rename_i below
          exact move_previousRow below
        · exact .read
      · rename_i inner
        exact move_previousCol inner
    · exact .read
  · split
    · rename_i inner
      exact move_previousCol (positive_iff.mp inner)
    · exact move_same

theorem move_handleArrow (scancode bufferIndex : UInt8) :
    CursorMove fb (handleArrow scancode bufferIndex fb) := by
  unfold handleArrow
  split
  · exact move_arrowRight bufferIndex
  · split
    · exact move_arrowLeft bufferIndex
    · split
      · exact move_same
      · split
        · exact move_same
        · exact .none

end Moves

/-! ### Room for what an input prints -/

/-- Room for the echo of a key the interrupt commits. -/
def EchoFits (scancode : UInt8) (t : Terminal) : Prop :=
  t.keyboard.keyboardInputOn = true → keyboardScancode1ToAsciiMap scancode = 0 →
    t.makeCode = true →
    (t.lastKeyPressed = newline → t.screen.position / 80 < 24) ∧
    (t.lastKeyPressed ≠ newline → t.lastKeyPressed ≠ backspace →
      t.screen.position + 1 < 80 * 25)

/-- The cursor fits behind what is printed: a row for a line or an Enter, and the
characters otherwise. -/
def Room (k : Kernel) : Input → Prop
  | .keyboard scancode => EchoFits scancode k.terminal
  | .readLine => True
  | .putsLine _ _ => k.terminal.screen.position / 80 < 24
  | .puts text _ => k.terminal.screen.position + text.len.toNat < 80 * 25
  | .ls => (∃ i, (tableOf (k.filesystem.disk 2) i).name 0 ≠ 0) →
      k.terminal.screen.position + 8 < 80 * 25
  | .mkdir _ ecx => k.terminal.screen.position + (if ecx = 0 then 24 else 5) < 80 * 25

/-! ### One step -/

theorem commitKey_iff {t : Terminal} (stays : Stays t.screen) :
    let fits := (t.lastKeyPressed = newline → t.screen.position / 80 < 24) ∧
      (t.lastKeyPressed ≠ newline → t.lastKeyPressed ≠ backspace →
        t.screen.position + 1 < 80 * 25)
    ((commitKey t).screen.OnScreen ↔ fits) ∧ (Stays (commitKey t).screen ↔ fits) := by
  intro fits
  by_cases enter : t.lastKeyPressed = newline
  · have same : (commitKey t).screen = newlineEcho t.screen := by
      simp only [commitKey, if_pos enter]
      rfl
    rw [same, (newlineEcho_iff stays).1, (newlineEcho_iff stays).2]
    simp only [fits, enter, true_implies, not_true, false_implies, ne_eq, and_true, and_self]
  · by_cases erase : t.lastKeyPressed = backspace
    · have all : fits := ⟨fun same => absurd same enter, fun _ other => absurd erase other⟩
      have still : Stays (commitKey t).screen := by
        rw [commitKey_screen enter, if_pos erase]
        split
        · exact stays_eraseEcho stays
        · exact stays_getCursor stays
      exact ⟨iff_of_true still.accesses all, iff_of_true still all⟩
    · rw [commitKey_screen enter, if_neg erase, (typeEcho_iff _ stays).1, (typeEcho_iff _ stays).2]
      simp only [fits, enter, erase, false_implies, not_false_iff, true_implies, ne_eq, true_and,
        and_self]

theorem keyboardIsr_iff (scancode : UInt8) {t : Terminal} (stays : Stays t.screen) :
    Stays (keyboardIsr scancode t).screen ↔ EchoFits scancode t := by
  by_cases on : t.keyboard.keyboardInputOn = true
  · by_cases commits : keyboardScancode1ToAsciiMap scancode = 0 ∧ t.makeCode = true
    · obtain ⟨unmapped, noted⟩ := commits
      have echo := commitKey_iff (t := wipeBuffer t) (by rwa [wipeBuffer_screen])
      simp only [wipeBuffer_screen, wipeBuffer_lastKeyPressed] at echo
      have after : (keyboardIsr scancode t).screen = handleArrow scancode
          (commitKey (wipeBuffer t)).keyboard.bufferIndex (commitKey (wipeBuffer t)).screen := by
        simp [keyboardIsr, on, isKeyboardBlocking, unmapped, noted]
      have move := @move_handleArrow (commitKey (wipeBuffer t)).screen scancode
        (commitKey (wipeBuffer t)).keyboard.bufferIndex
      rw [after]
      constructor
      · exact fun final _ _ _ => echo.1.mp (move.onScreen final.accesses)
      · exact fun fits => move.stays (echo.2.mpr (fits on unmapped noted))
    · have fits : EchoFits scancode t := fun _ unmapped noted => absurd ⟨unmapped, noted⟩ commits
      have after : (keyboardIsr scancode t).screen =
          handleArrow scancode (wipeBuffer t).keyboard.bufferIndex t.screen := by
        by_cases unmapped : keyboardScancode1ToAsciiMap scancode = 0
        · have none : t.makeCode = false := by simpa using fun noted => commits ⟨unmapped, noted⟩
          simp [keyboardIsr, on, isKeyboardBlocking, unmapped, none]
        · simp [keyboardIsr, on, isKeyboardBlocking, unmapped]
      rw [after]
      exact iff_of_true ((move_handleArrow _ _).stays stays) fits
  · have off : t.keyboard.keyboardInputOn = false := by simpa using on
    refine iff_of_true ?_ fun on' => absurd on' on
    have same : (keyboardIsr scancode t).screen = t.screen := by
      simp [keyboardIsr, off, setBufferIndex]
    rwa [same]

/-- The names `cmd_ls` prints all go to one place. -/
theorem lsLoop_spec (table : FAT32DirectoryTable) (row col : UInt8) (inside : col.toNat + 8 < 256)
    (slots : List (Fin 64)) (screen : Framebuffer) :
    ∃ screen', lsLoop table row col slots screen = .ok screen' ∧
      ((∃ i ∈ slots, (table i).name 0 ≠ 0) →
        screen'.position = row.toNat * 80 + col.toNat + 8) ∧
      ((∀ i ∈ slots, (table i).name 0 = 0) → screen'.position = screen.position) ∧
      (screen'.OnScreen ↔ screen.OnScreen ∧
        ((∃ i ∈ slots, (table i).name 0 ≠ 0) → row.toNat * 80 + col.toNat + 8 < 80 * 25)) := by
  induction slots generalizing screen with
  | nil => exact ⟨screen, rfl, by simp, by simp, by simp⟩
  | cons i rest ih =>
      by_cases named : (table i).name 0 = 0
      · obtain ⟨screen', done, moved, stayed, accesses⟩ := ih screen
        refine ⟨screen', by simp only [lsLoop, named, ne_eq, not_true, if_false, done], ?_⟩
        simp only [List.mem_cons, exists_eq_or_imp, forall_eq_or_imp, named, ne_eq, not_true,
          false_or, true_and]
        exact ⟨moved, stayed, accesses⟩
      · obtain ⟨printed, ok, position, onScreen⟩ := puts_spec
          (fun j => if h : j < 8 then (table i).name ⟨j, h⟩ else 0) 8 0xF row col inside screen
        obtain ⟨screen', done, moved, stayed, accesses⟩ := ih printed
        refine ⟨screen', by simp only [lsLoop, named, ne_eq, not_false_iff, if_true, ok, done], ?_⟩
        have here : ∃ j ∈ i :: rest, (table j).name 0 ≠ 0 := ⟨i, List.mem_cons_self, named⟩
        refine ⟨fun _ => ?_, fun none => absurd (none i List.mem_cons_self) named, ?_⟩
        · by_cases more : ∃ j ∈ rest, (table j).name 0 ≠ 0
          · exact moved more
          · rw [stayed (by simpa using more), position]
            rfl
        · rw [accesses, onScreen]
          constructor
          · rintro ⟨⟨old, final⟩, _⟩
            exact ⟨old, fun _ => final⟩
          · rintro ⟨old, final⟩
            exact ⟨⟨old, final here⟩, fun _ => final here⟩

/-- A string printed where the cursor is. -/
theorem puts_atCursor (str : Nat → UInt8) (len : UInt32) (short : len.toNat ≤ 80) (color : UInt32)
    {fb : Framebuffer} (stays : Stays fb) :
    ∃ screen, puts str len color (framebufferGetCursor fb).1 (framebufferGetCursor fb).2.1
        (framebufferGetCursor fb).2.2 = .ok screen ∧
      (screen.OnScreen ↔ fb.position + len.toNat < 80 * 25) ∧
      (Stays screen ↔ fb.position + len.toNat < 80 * 25) := by
  have row := stays.row
  have col := toNat_col fb
  obtain ⟨screen, done, position, onScreen⟩ := puts_spec str len color
    (framebufferGetCursor fb).1 (framebufferGetCursor fb).2.1 (by omega)
    (framebufferGetCursor fb).2.2
  have place : (framebufferGetCursor fb).1.toNat * 80 + (framebufferGetCursor fb).2.1.toNat =
      fb.position := by omega
  rw [place] at position onScreen
  have exact : screen.OnScreen ↔ fb.position + len.toNat < 80 * 25 :=
    onScreen.trans (and_iff_right stays.accesses)
  exact ⟨screen, done, exact, fun after => exact.mp after.accesses,
    fun room => ⟨exact.mpr room, by rwa [position]⟩⟩

/-- Printing a line takes the cursor to the start of the next row. -/
theorem putsLine_step {k : Kernel} (stays : Stays k.terminal.screen) (text : Text)
    (color : UInt32) :
    ∃ k', kernelStep k (.putsLine text color) = .ok (0, k') ∧
      k'.terminal.screen.position = (k.terminal.screen.position / 80 + 1) * 80 ∧
      (Stays k'.terminal.screen ↔ k.terminal.screen.position / 80 < 24) := by
  have row := stays.row
  have bound := stays.cursor
  have short := text.short
  obtain ⟨screen, done, onScreen, -⟩ := puts_atCursor text.str text.len short color stays
  have next := toNat_succ (n := (framebufferGetCursor k.terminal.screen).1) (by omega)
  refine ⟨_, by simp only [kernelStep, syscall, done]; rfl, ?_, ?_⟩
  · rw [position_setCursor, next, row]
    rfl
  · rw [stays_setCursor, onScreen, next, row, show (0 : UInt8).toNat = 0 from rfl]
    omega

/-- **One step** returns, and stays on the screen exactly when there is room. -/
theorem stays_step_iff {k : Kernel} (stays : Stays k.terminal.screen) (input : Input) :
    ∃ status k', kernelStep k input = .ok (status, k') ∧
      (Stays k'.terminal.screen ↔ Room k input) := by
  have row := stays.row
  have col := toNat_col k.terminal.screen
  have bound := stays.cursor
  have read := stays_getCursor stays
  cases input with
  | keyboard scancode => exact ⟨_, _, rfl, keyboardIsr_iff scancode stays⟩
  | readLine => exact ⟨_, _, rfl, iff_of_true read trivial⟩
  | putsLine text color =>
      obtain ⟨k', done, -, staysOn⟩ := putsLine_step stays text color
      exact ⟨0, k', done, staysOn⟩
  | puts text color =>
      obtain ⟨screen, done, -, staysOn⟩ := puts_atCursor text.str text.len text.short color stays
      exact ⟨_, _, by simp only [kernelStep, syscall, done]; rfl, staysOn⟩
  | ls =>
      obtain ⟨screen, done, moved, stayed, onScreen⟩ := lsLoop_spec
        (tableOf (readClusters k.filesystem.disk rootClusterNumber))
        (framebufferGetCursor k.terminal.screen).1 (framebufferGetCursor k.terminal.screen).2.1
        (by omega) (List.finRange 64) (framebufferGetCursor k.terminal.screen).2.2
      have place : (framebufferGetCursor k.terminal.screen).1.toNat * 80 +
          (framebufferGetCursor k.terminal.screen).2.1.toNat = k.terminal.screen.position := by omega
      refine ⟨_, _, by simp only [kernelStep, syscall, cmdLs, done]; rfl, ?_⟩
      simp only [readClusters_root, List.mem_finRange, true_and, true_implies, place,
        position_getCursor] at moved stayed onScreen
      simp only [Room]
      constructor
      · exact fun after => (onScreen.mp after.accesses).2
      · intro room
        refine ⟨onScreen.mpr ⟨read.accesses, room⟩, ?_⟩
        by_cases named : ∃ i, (tableOf (k.filesystem.disk 2) i).name 0 ≠ 0
        · rw [moved named]
          exact room named
        · rw [stayed (by simpa using named)]
          exact bound
  | mkdir request ecx =>
      by_cases zero : ecx = 0
      · obtain ⟨screen, done, -, staysOn⟩ := puts_atCursor
          (fun i => createdMessage.getD i 0) 24 (by decide) 0xF stays
        refine ⟨_, _, by simp only [kernelStep, syscall, cmdMkdir, if_pos zero, done]; rfl, ?_⟩
        rw [Room, if_pos zero]
        exact staysOn
      · obtain ⟨screen, done, -, staysOn⟩ := puts_atCursor
          (fun i => errorMessage.getD i 0) 5 (by decide) 0xF stays
        refine ⟨_, _, by simp only [kernelStep, syscall, cmdMkdir, if_neg zero, done]; rfl, ?_⟩
        rw [Room, if_neg zero]
        exact staysOn

/-! ### Runs -/

theorem onScreen_clear {fb : Framebuffer} (start : fb.OnScreen) : (framebufferClear fb).OnScreen := by
  unfold framebufferClear
  refine List.foldlRecOn _ _ (motive := Framebuffer.OnScreen) start fun rows onRows row hrow => ?_
  refine List.foldlRecOn _ _ (motive := Framebuffer.OnScreen) onRows fun cols onCols col hcol => ?_
  have rowBound := List.mem_range.mp hrow
  have colBound := List.mem_range.mp hcol
  rw [onScreen_write, UInt8.toNat_ofNat', UInt8.toNat_ofNat']
  exact ⟨onCols, by omega⟩

theorem stays_cleared : Stays cleared.screen :=
  (stays_setCursor _ _ _).mpr ⟨onScreen_clear fun _ none => absurd none List.not_mem_nil, by decide⟩

/-- Every input is handled, on the screen or off it. -/
theorem kernelStep_returns (k : Kernel) (input : Input) : ∃ r, kernelStep k input = .ok r := by
  have col : (framebufferGetCursor k.terminal.screen).2.1.toNat < 80 := by
    rw [toNat_col]
    omega
  have prints := fun str len color => puts_spec str len color
    (framebufferGetCursor k.terminal.screen).1 (framebufferGetCursor k.terminal.screen).2.1
  cases input with
  | keyboard scancode => exact ⟨_, rfl⟩
  | readLine => exact ⟨_, rfl⟩
  | putsLine text color =>
      have short := text.short
      obtain ⟨screen, done, -⟩ := prints text.str text.len color (by omega)
        (framebufferGetCursor k.terminal.screen).2.2
      exact ⟨_, by simp only [kernelStep, syscall, done]; rfl⟩
  | puts text color =>
      have short := text.short
      obtain ⟨screen, done, -⟩ := prints text.str text.len color (by omega)
        (framebufferGetCursor k.terminal.screen).2.2
      exact ⟨_, by simp only [kernelStep, syscall, done]; rfl⟩
  | ls =>
      obtain ⟨screen, done, -⟩ := lsLoop_spec
        (tableOf (readClusters k.filesystem.disk rootClusterNumber))
        (framebufferGetCursor k.terminal.screen).1 (framebufferGetCursor k.terminal.screen).2.1
        (by omega) (List.finRange 64) (framebufferGetCursor k.terminal.screen).2.2
      exact ⟨_, by simp only [kernelStep, syscall, cmdLs, done]; rfl⟩
  | mkdir request ecx =>
      by_cases zero : ecx = 0
      · obtain ⟨screen, done, -⟩ := prints (fun i => createdMessage.getD i 0) 24 0xF
          (by rw [show (24 : UInt32).toNat = 24 from rfl]; omega)
          (framebufferGetCursor k.terminal.screen).2.2
        exact ⟨_, by simp only [kernelStep, syscall, cmdMkdir, if_pos zero, done]; rfl⟩
      · obtain ⟨screen, done, -⟩ := prints (fun i => errorMessage.getD i 0) 5 0xF
          (by rw [show (5 : UInt32).toNat = 5 from rfl]; omega)
          (framebufferGetCursor k.terminal.screen).2.2
        exact ⟨_, by simp only [kernelStep, syscall, cmdMkdir, if_neg zero, done]; rfl⟩

end HexOS.Console
