import HexOS.Library.PartialRuns
import HexOS.Console.Keyboard

/-!
Keyboard line editing refines a list editor.

The editor of this module knows a line as a list and a keystroke as one event;
the driver sees make and break codes and keeps a buffer and an index. `Refines`
relates the two. `refines_deliver` shows that one event keeps them related, and
`lineEditing_refines` that any run of events does, over any number of sessions.
-/

namespace HexOS.Console

open PartialRuns

/-! ### Events -/

/-- A make code with an ASCII character, to be followed by its break code. -/
structure Keystroke where
  make : UInt8
  mapped : keyboardScancode1ToAsciiMap make ≠ 0

def Keystroke.char (k : Keystroke) : UInt8 := keyboardScancode1ToAsciiMap k.make

def Keystroke.breakCode (k : Keystroke) : UInt8 := k.make + 0x80

inductive Event where
  /-- Syscall 4 turns input on. -/
  | activate
  | keystroke (key : Keystroke)
  /-- A single interrupt: any while input is off, an unmapped code while it is on. -/
  | interrupt (scancode : UInt8)

def deliver (t : Terminal) : Event → Terminal
  | .activate => keyboardStateActivate t
  | .keystroke key => keyboardIsr key.breakCode (keyboardIsr key.make t)
  | .interrupt scancode => keyboardIsr scancode t

/-! ### The list editor -/

inductive Editor where
  | idle
  | editing (line : List UInt8)
  | finished (line : List UInt8)

def editLine (char : UInt8) (line : List UInt8) : List UInt8 :=
  if char = backspace then line.dropLast else line ++ [char]

def Editor.edit : Editor → Event → Editor
  | .editing line, .keystroke key =>
      if key.char = newline then .finished line else .editing (editLine key.char line)
  | .editing line, _ => .editing line
  | _, .activate => .editing []
  | editor, _ => editor

/-- What may happen: while a line is edited only unmapped codes come between
keystrokes, and no keystroke takes the line beyond 255 characters. -/
def Editor.Allows : Editor → Event → Prop
  | .editing _, .interrupt scancode => keyboardScancode1ToAsciiMap scancode = 0
  | .editing line, .keystroke key => key.char ≠ newline → (editLine key.char line).length ≤ 255
  | _, _ => True

/-! ### The refinement relation -/

/-- The first bytes of the buffer are `bytes`. -/
structure BeginsWith (buffer : Bytes 256) (bytes : List UInt8) : Prop where
  fits : bytes.length ≤ 256
  holds : ∀ (i : Fin 256) (inside : i.val < bytes.length), buffer i = bytes[i.val]

/-- Input is off, and no key is waiting for its break code. -/
structure Off (t : Terminal) : Prop where
  inputOff : t.keyboard.keyboardInputOn = false
  index : t.keyboard.bufferIndex = 0
  noKey : t.makeCode = false

/-- Input is on and the buffer holds `line`. -/
structure Holding (line : List UInt8) (t : Terminal) : Prop where
  inputOn : t.keyboard.keyboardInputOn = true
  index : t.keyboard.bufferIndex.toNat = line.length
  buffer : BeginsWith (getKeyboardBuffer t) line

def Refines : Editor → Terminal → Prop
  | .idle, t => Off t
  | .editing line, t => Holding line t ∧ t.makeCode = false
  | .finished line, t => Off t ∧ BeginsWith (getKeyboardBuffer t) (line ++ [0])

/-! ### Lines in the buffer -/

theorem beginsWith_nil (buffer : Bytes 256) : BeginsWith buffer [] :=
  ⟨Nat.zero_le _, fun _ inside => absurd inside (Nat.not_lt_zero _)⟩

theorem BeginsWith.append {buffer : Bytes 256} {line : List UInt8} (begins : BeginsWith buffer line)
    {i : Fin 256} (position : i.val = line.length) (char : UInt8) :
    BeginsWith (Function.update buffer i char) (line ++ [char]) := by
  have below := i.isLt
  refine ⟨by simp only [List.length_append, List.length_singleton]; omega, fun j inside => ?_⟩
  by_cases here : j = i
  · subst here
    rw [Function.update_self, List.getElem_append_right (by omega)]
    simp [position]
  · have differ : j.val ≠ i.val := Fin.val_ne_of_ne here
    simp only [List.length_append, List.length_singleton] at inside
    have before : j.val < line.length := by omega
    rw [Function.update_of_ne here, List.getElem_append_left before]
    exact begins.holds j before

theorem BeginsWith.dropLast {buffer : Bytes 256} {line : List UInt8}
    (begins : BeginsWith buffer line) : BeginsWith buffer line.dropLast := by
  have shorter : line.dropLast.length = line.length - 1 := List.length_dropLast
  have fits := begins.fits
  refine ⟨by omega, fun i inside => ?_⟩
  rw [List.getElem_dropLast]
  exact begins.holds i (by omega)

/-! ### One interrupt -/

theorem map_of_above {scancode : UInt8} (above : 80 ≤ scancode.toNat) :
    keyboardScancode1ToAsciiMap scancode = 0 := by
  have beyond : asciiTable.length ≤ scancode.toNat := above
  rw [keyboardScancode1ToAsciiMap, List.getD_eq_getElem?_getD, List.getElem?_eq_none beyond,
    Option.getD_none]

theorem make_low (key : Keystroke) : key.make.toNat < 80 := by
  by_contra above
  exact key.mapped (map_of_above (by omega))

theorem breakCode_unmapped (key : Keystroke) : keyboardScancode1ToAsciiMap key.breakCode = 0 := by
  have low := make_low key
  refine map_of_above ?_
  rw [Keystroke.breakCode, UInt8.toNat_add, show (0x80 : UInt8).toNat = 128 from rfl]
  omega

/-- Neither code of a key is an arrow code. -/
theorem handleArrow_make (key : Keystroke) (bufferIndex : UInt8) (screen : Framebuffer) :
    handleArrow key.make bufferIndex screen = screen := by
  have mapped := key.mapped
  apply handleArrow_of_ne
  all_goals
    intro same
    rw [same] at mapped
    exact mapped rfl

theorem handleArrow_break (key : Keystroke) (bufferIndex : UInt8) (screen : Framebuffer) :
    handleArrow key.breakCode bufferIndex screen = screen := by
  have high : 128 ≤ key.breakCode.toNat := by
    rw [Keystroke.breakCode, UInt8.toNat_add, show (0x80 : UInt8).toNat = 128 from rfl]
    have := make_low key
    omega
  apply handleArrow_of_ne
  all_goals
    intro same
    rw [same] at high
    exact absurd high (by decide)

theorem isr_make (key : Keystroke) {t : Terminal} (on : t.keyboard.keyboardInputOn = true) :
    keyboardIsr key.make t =
      { wipeBuffer t with lastKeyPressed := key.char, makeCode := true } := by
  have mapped : keyboardScancode1ToAsciiMap key.make ≠ 0 := key.mapped
  simp only [keyboardIsr, on, isKeyboardBlocking, Bool.not_true, Bool.false_eq_true, if_false,
    ne_eq, mapped, not_false_iff, if_true, handleArrow_make]
  rfl

theorem isr_break (key : Keystroke) {t : Terminal} (on : t.keyboard.keyboardInputOn = true)
    (pending : t.makeCode = true) :
    keyboardIsr key.breakCode t = { commitKey (wipeBuffer t) with makeCode := false } := by
  simp only [keyboardIsr, on, isKeyboardBlocking, Bool.not_true, Bool.false_eq_true, if_false,
    ne_eq, breakCode_unmapped, not_true, wipeBuffer_makeCode, pending, if_true, handleArrow_break]

theorem isr_off (scancode : UInt8) {t : Terminal} (off : t.keyboard.keyboardInputOn = false) :
    keyboardIsr scancode t = setBufferIndex 0 t := by
  simp [keyboardIsr, off]

theorem off_isr (scancode : UInt8) {t : Terminal} (off : Off t) :
    Off (keyboardIsr scancode t) ∧
      getKeyboardBuffer (keyboardIsr scancode t) = getKeyboardBuffer t := by
  rw [isr_off scancode off.inputOff]
  exact ⟨⟨off.inputOff, rfl, off.noKey⟩, rfl⟩

/-- While input is on, an interrupt acts on the wiped buffer: it notes a mapped
key, commits a noted one, or does nothing to the line. -/
theorem isr_on (scancode : UInt8) {t : Terminal} (on : t.keyboard.keyboardInputOn = true) :
    let t' := keyboardIsr scancode t
    let char := keyboardScancode1ToAsciiMap scancode
    (char ≠ 0 → t'.keyboard = (wipeBuffer t).keyboard ∧ t'.lastKeyPressed = char ∧
      t'.makeCode = true) ∧
    (char = 0 → t.makeCode = true → t'.keyboard = (commitKey (wipeBuffer t)).keyboard ∧
      t'.makeCode = false) ∧
    (char = 0 → t.makeCode = false → t'.keyboard = (wipeBuffer t).keyboard ∧
      t'.makeCode = false) := by
  refine ⟨fun mapped => ?_, fun unmapped pending => ?_, fun unmapped none => ?_⟩
  · simp [keyboardIsr, on, isKeyboardBlocking, mapped]
  · simp [keyboardIsr, on, isKeyboardBlocking, unmapped, pending]
  · simp [keyboardIsr, on, isKeyboardBlocking, unmapped, none]

/-! ### Refinement -/

theorem holding_wipe {line : List UInt8} {t : Terminal} (holding : Holding line t) :
    Holding line (wipeBuffer t) := by
  obtain ⟨on, index, buffer⟩ := holding
  unfold wipeBuffer
  split
  · rename_i zero
    have empty : line = [] := List.length_eq_zero_iff.mp (by rw [← index, zero]; rfl)
    exact ⟨on, index, empty ▸ beginsWith_nil _⟩
  · exact ⟨on, index, buffer⟩

theorem holding_congr {line : List UInt8} {t t' : Terminal} (same : t'.keyboard = t.keyboard)
    (holding : Holding line t) : Holding line t' := by
  obtain ⟨on, index, buffer⟩ := holding
  exact ⟨same ▸ on, same ▸ index, by rwa [getKeyboardBuffer, same]⟩

/-- An unmapped code between keystrokes leaves the line alone. -/
theorem holding_unmapped {line : List UInt8} {t : Terminal} {scancode : UInt8}
    (holding : Holding line t) (none : t.makeCode = false)
    (unmapped : keyboardScancode1ToAsciiMap scancode = 0) :
    Holding line (keyboardIsr scancode t) ∧ (keyboardIsr scancode t).makeCode = false := by
  obtain ⟨same, still⟩ := (isr_on scancode holding.inputOn).2.2 unmapped none
  exact ⟨holding_congr same (holding_wipe holding), still⟩

/-- A make code leaves the line alone and notes the character. -/
theorem holding_make {line : List UInt8} {t : Terminal} (holding : Holding line t)
    (key : Keystroke) :
    Holding line (keyboardIsr key.make t) ∧ (keyboardIsr key.make t).lastKeyPressed = key.char ∧
      (keyboardIsr key.make t).makeCode = true := by
  obtain ⟨same, noted, pending⟩ := (isr_on key.make holding.inputOn).1 key.mapped
  exact ⟨holding_congr same (holding_wipe holding), noted, pending⟩

/-- Committing Enter ends the line. -/
theorem commitKey_newline {line : List UInt8} {t : Terminal} (holding : Holding line t)
    (enter : t.lastKeyPressed = newline) :
    (commitKey t).keyboard.keyboardInputOn = false ∧ (commitKey t).keyboard.bufferIndex = 0 ∧
      BeginsWith (getKeyboardBuffer (commitKey t)) (line ++ [0]) := by
  have index : t.keyboard.bufferIndex.toFin.val = line.length := holding.index
  have stored := holding.buffer.append index 0
  simp only [commitKey, enter, if_true]
  exact ⟨rfl, rfl, stored⟩

/-- Committing any other character edits the line. -/
theorem commitKey_edit {line : List UInt8} {t : Terminal} (holding : Holding line t)
    (other : t.lastKeyPressed ≠ newline)
    (short : (editLine t.lastKeyPressed line).length ≤ 255) :
    Holding (editLine t.lastKeyPressed line) (commitKey t) := by
  obtain ⟨on, index, buffer⟩ := holding
  by_cases erase : t.lastKeyPressed = backspace
  · rw [editLine, if_pos erase]
    by_cases some : t.keyboard.bufferIndex > 0
    · -- a nonempty line loses its last character
      have positive : 0 < t.keyboard.bufferIndex.toNat := UInt8.lt_iff_toNat_lt.mp some
      have one : (1 : UInt8).toNat ≤ t.keyboard.bufferIndex.toNat := positive
      simp only [commitKey, if_neg other, if_pos erase, if_pos some]
      refine ⟨on, ?_, buffer.dropLast⟩
      rw [List.length_dropLast, ← index]
      exact UInt8.toNat_sub_of_le _ _ (UInt8.le_iff_toNat_le.mpr one)
    · have zero : t.keyboard.bufferIndex.toNat = 0 :=
        Nat.eq_zero_of_not_pos fun positive => some (UInt8.lt_iff_toNat_lt.mpr positive)
      have empty : line = [] := List.length_eq_zero_iff.mp (index.symm.trans zero)
      simp only [commitKey, if_neg other, if_pos erase, if_neg some, empty]
      exact ⟨on, zero, beginsWith_nil _⟩
  · rw [editLine, if_neg erase] at short ⊢
    simp only [commitKey, if_neg other, if_neg erase]
    refine ⟨on, ?_, buffer.append index _⟩
    rw [List.length_append, List.length_singleton] at short ⊢
    change (t.keyboard.bufferIndex + 1).toNat = line.length + 1
    rw [UInt8.toNat_add, index, show (1 : UInt8).toNat = 1 from rfl]
    exact Nat.mod_eq_of_lt (by omega)

/-- The code behind a make code commits its character. -/
theorem holding_commit {line : List UInt8} {t : Terminal} {scancode : UInt8}
    (holding : Holding line t) (pending : t.makeCode = true)
    (unmapped : keyboardScancode1ToAsciiMap scancode = 0)
    (other : t.lastKeyPressed ≠ newline)
    (short : (editLine t.lastKeyPressed line).length ≤ 255) :
    Holding (editLine t.lastKeyPressed line) (keyboardIsr scancode t) ∧
      (keyboardIsr scancode t).makeCode = false := by
  obtain ⟨same, none⟩ := (isr_on scancode holding.inputOn).2.1 unmapped pending
  have char := wipeBuffer_lastKeyPressed t
  have edited := commitKey_edit (holding_wipe holding) (by rwa [char]) (by rwa [char])
  rw [char] at edited
  exact ⟨holding_congr same edited, none⟩

theorem off_commit {line : List UInt8} {t : Terminal} {scancode : UInt8}
    (holding : Holding line t) (pending : t.makeCode = true)
    (unmapped : keyboardScancode1ToAsciiMap scancode = 0) (enter : t.lastKeyPressed = newline) :
    Off (keyboardIsr scancode t) ∧
      BeginsWith (getKeyboardBuffer (keyboardIsr scancode t)) (line ++ [0]) := by
  obtain ⟨same, none⟩ := (isr_on scancode holding.inputOn).2.1 unmapped pending
  obtain ⟨off, zero, ends⟩ := commitKey_newline (holding_wipe holding)
    ((wipeBuffer_lastKeyPressed t).trans enter)
  exact ⟨⟨same ▸ off, same ▸ zero, none⟩, by rwa [getKeyboardBuffer, same]⟩

/-- A keystroke does to the driver what it does to the list. -/
theorem refines_keystroke {line : List UInt8} {t : Terminal} (holding : Holding line t)
    (key : Keystroke) (short : key.char ≠ newline → (editLine key.char line).length ≤ 255) :
    Refines (.edit (.editing line) (.keystroke key)) (deliver t (.keystroke key)) := by
  obtain ⟨made, noted, pending⟩ := holding_make holding key
  have unmapped := breakCode_unmapped key
  simp only [deliver, Editor.edit]
  rw [← noted] at short ⊢
  split
  · rename_i enter
    exact off_commit made pending unmapped enter
  · rename_i other
    exact holding_commit made pending unmapped other (short other)

/-- Interrupts while input is off change neither the state nor the buffer. -/
theorem refines_off {editor : Editor} {t : Terminal} {scancode : UInt8}
    (refines : Refines editor t) (off : Off t) : Refines editor (keyboardIsr scancode t) := by
  obtain ⟨still, same⟩ := off_isr scancode off
  cases editor with
  | idle => exact still
  | editing line => exact absurd off.inputOff (by rw [refines.1.inputOn]; decide)
  | finished line => exact ⟨still, same ▸ refines.2⟩

theorem holding_activate {t : Terminal} (off : Off t) :
    Holding [] (keyboardStateActivate t) ∧ (keyboardStateActivate t).makeCode = false :=
  ⟨⟨rfl, by rw [keyboardStateActivate, off.index]; rfl, beginsWith_nil _⟩, off.noKey⟩

/-- A session from the cleared screen. -/
def freshSession : Terminal := keyboardStateActivate cleared

theorem holding_freshSession : Holding [] freshSession ∧ freshSession.makeCode = false :=
  holding_activate ⟨rfl, rfl, rfl⟩

/-- **One event keeps driver and editor related.** -/
theorem refines_deliver {editor : Editor} {t : Terminal} {event : Event}
    (refines : Refines editor t) (allowed : editor.Allows event) :
    Refines (editor.edit event) (deliver t event) := by
  cases editor with
  | editing line =>
      obtain ⟨holding, none⟩ := refines
      cases event with
      | activate => exact ⟨⟨rfl, holding.index, holding.buffer⟩, none⟩
      | keystroke key => exact refines_keystroke holding key allowed
      | interrupt scancode => exact holding_unmapped holding none allowed
  | idle =>
      have off : Off t := refines
      cases event with
      | activate => exact holding_activate off
      | keystroke key => exact (off_isr _ (off_isr _ off).1).1
      | interrupt scancode => exact (off_isr _ off).1
  | finished line =>
      have off : Off t := refines.1
      cases event with
      | activate => exact holding_activate off
      | keystroke key =>
          exact refines_off (refines_off refines off) (off_isr key.make off).1
      | interrupt scancode => exact refines_off refines off

/-- **Line editing refines a list editor.** However the events of any number of
sessions follow each other, the driver has input on while the editor has a line
open, a make code included, and has the editor's line in its buffer, closed by a
NUL byte, once Enter has ended it. -/
theorem lineEditing_refines {t : Terminal} (off : Off t) {events : List Event}
    (allowed : Throughout Editor.edit Editor.Allows .idle events) :
    (∀ line, events.foldl Editor.edit .idle = .editing line →
      (events.foldl deliver t).keyboard.keyboardInputOn = true ∧
      ∀ key : Keystroke,
        (keyboardIsr key.make (events.foldl deliver t)).keyboard.keyboardInputOn = true) ∧
    ∀ line, events.foldl Editor.edit .idle = .finished line →
      (events.foldl deliver t).keyboard.keyboardInputOn = false ∧
      (events.foldl deliver t).keyboard.bufferIndex = 0 ∧
      BeginsWith (getKeyboardBuffer (events.foldl deliver t)) (line ++ [0]) := by
  have related : Refines (events.foldl Editor.edit .idle) (events.foldl deliver t) :=
    foldl_refines (fun _ _ _ => refines_deliver) (show Refines .idle t from off) allowed
  generalize events.foldl deliver t = u at related ⊢
  refine ⟨fun line editing => ?_, fun line finished => ?_⟩
  · rw [editing] at related
    exact ⟨related.1.inputOn, fun key => (holding_make related.1 key).1.inputOn⟩
  · rw [finished] at related
    exact ⟨related.1.inputOff, related.1.index, related.2⟩

/-- The key A. -/
def keystrokeA : Keystroke := ⟨0x1E, by decide⟩

/-- The keys L, S, backspace and Enter, with an arrow key in between. -/
def letterSession : List Event :=
  [.interrupt 0x26, .activate, .keystroke ⟨0x26, by decide⟩, .keystroke ⟨0x1F, by decide⟩,
    .interrupt extScancodeLeft, .keystroke ⟨0x0E, by decide⟩, .keystroke ⟨0x1C, by decide⟩]

theorem lineEditing_refines_letterSession :
    BeginsWith (getKeyboardBuffer (letterSession.foldl deliver cleared)) [0x6C, 0] :=
  ((@lineEditing_refines cleared ⟨rfl, rfl, rfl⟩ letterSession
    ⟨trivial, trivial, fun _ => by decide, fun _ => by decide, rfl, fun _ => by decide,
      fun enter => absurd rfl enter, trivial⟩).2 [0x6C] rfl).2.2

end HexOS.Console
