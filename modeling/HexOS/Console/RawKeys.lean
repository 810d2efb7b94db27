import HexOS.Library.LineZipper
import HexOS.Console.LineEditing

/-!
The keyboard driver over raw scancodes.

`LineEditing` asks for complete keystrokes and lines that fit. Here any scancode
may follow any other, with input on or off and over any number of sessions. What
the driver then keeps is a zipper: the line up to the index, and behind it what
erased characters and the wrap of the index have left. `tracks_step` shows it for
one event, and `driver_is_zipper` for every stream of events.
-/

namespace HexOS.Console

open LineZipper

/-! ### The editor -/

inductive RawEvent where
  /-- Syscall 4 turns input on. -/
  | activate
  | code (scancode : UInt8)

/-- `pending` is the key that waits for an unmapped code. -/
inductive RawEditor where
  | off (bytes : List UInt8)
  | editing (z : Zipper UInt8) (pending : Option UInt8)

/-- At the start of the line the rest of the buffer is wiped. -/
def refresh (z : Zipper UInt8) : Zipper UInt8 := if z.line = [] then ⟨[], []⟩ else z

/-- Enter puts a NUL byte behind the line. -/
def closed (z : Zipper UInt8) : List UInt8 := z.line ++ 0 :: z.behind.tail

def RawEditor.commit (z : Zipper UInt8) (key : UInt8) : RawEditor :=
  if key = newline then .off (closed z)
  else if key = backspace then .editing z.erase none
  else .editing ((z.type key).wrap 256) none

def RawEditor.step : RawEditor → RawEvent → RawEditor
  | .off bytes, .activate => .editing ⟨[], bytes⟩ none
  | .off bytes, .code _ => .off bytes
  | .editing z pending, .activate => .editing z pending
  | .editing z pending, .code scancode =>
      if keyboardScancode1ToAsciiMap scancode ≠ 0 then
        .editing (refresh z) (some (keyboardScancode1ToAsciiMap scancode))
      else
        match pending with
        | none => .editing (refresh z) none
        | some key => .commit (refresh z) key

/-! ### The driver -/

def rawDeliver (t : Terminal) : RawEvent → Terminal
  | .activate => keyboardStateActivate t
  | .code scancode => keyboardIsr scancode t

/-- The driver while input is on. -/
structure TracksLine (z : Zipper UInt8) (pending : Option UInt8) (t : Terminal) : Prop where
  inputOn : t.keyboard.keyboardInputOn = true
  index : t.keyboard.bufferIndex.toNat = z.line.length
  buffer : Filled 0 t.keyboard.keyboardBuffer z.all
  noted : t.makeCode = pending.isSome
  key : ∀ k ∈ pending, t.lastKeyPressed = k

/-- The driver while input is off. -/
structure TracksOff (bytes : List UInt8) (t : Terminal) : Prop where
  off : Off t
  buffer : Filled 0 t.keyboard.keyboardBuffer bytes

def Tracks : RawEditor → Terminal → Prop
  | .off bytes, t => TracksOff bytes t
  | .editing z pending, t => TracksLine z pending t

theorem tracks_cleared : Tracks (.off []) cleared := ⟨⟨rfl, rfl, rfl⟩, filled_blank⟩

section

variable {z : Zipper UInt8} {pending : Option UInt8} {t : Terminal}

/-- The wipe at index 0. -/
theorem tracks_wipe (tracks : TracksLine z pending t) :
    (wipeBuffer t).keyboard.bufferIndex.toNat = (refresh z).line.length ∧
      Filled 0 (wipeBuffer t).keyboard.keyboardBuffer (refresh z).all := by
  have index := tracks.index
  unfold wipeBuffer refresh
  by_cases empty : z.line = []
  · have zero : t.keyboard.bufferIndex = 0 := UInt8.toNat_inj.mp (by rw [index, empty]; rfl)
    rw [if_pos zero, if_pos empty]
    exact ⟨congrArg UInt8.toNat zero, filled_blank⟩
  · have some : t.keyboard.bufferIndex ≠ 0 := by
      intro zero
      rw [zero] at index
      exact empty (List.length_eq_zero_iff.mp index.symm)
    rw [if_neg some, if_neg empty]
    exact ⟨index, tracks.buffer⟩

/-- Committing a key on a wiped buffer. -/
theorem tracks_commit (on : t.keyboard.keyboardInputOn = true)
    (index : t.keyboard.bufferIndex.toNat = z.line.length)
    (buffer : Filled 0 t.keyboard.keyboardBuffer z.all) (u : Terminal)
    (same : u.keyboard = (commitKey t).keyboard) (none : u.makeCode = false) :
    Tracks (.commit z t.lastKeyPressed) u := by
  have below := t.keyboard.bufferIndex.toNat_lt
  have place : t.keyboard.bufferIndex.toFin.val = z.line.length := index
  unfold RawEditor.commit
  by_cases enter : t.lastKeyPressed = newline
  · rw [if_pos enter]
    simp only [commitKey, if_pos enter] at same
    exact ⟨⟨by rw [same]; rfl, by rw [same]; rfl, none⟩,
      by rw [same]; exact filled_store buffer place 0⟩
  · rw [if_neg enter]
    by_cases back : t.lastKeyPressed = backspace
    · rw [if_pos back]
      simp only [commitKey, if_neg enter, if_pos back] at same
      by_cases some : t.keyboard.bufferIndex > 0
      · have positive : 1 ≤ t.keyboard.bufferIndex.toNat := UInt8.lt_iff_toNat_lt.mp some
        rw [if_pos some] at same
        refine ⟨by rw [same]; exact on, ?_, by rw [same, all_erase]; exact buffer, none, by simp⟩
        rw [same, length_erase, ← index]
        exact UInt8.toNat_sub_of_le _ _ (UInt8.le_iff_toNat_le.mpr positive)
      · have zero : t.keyboard.bufferIndex.toNat = 0 :=
          Nat.eq_zero_of_not_pos fun positive => some (UInt8.lt_iff_toNat_lt.mpr positive)
        rw [if_neg some] at same
        have still : u.keyboard = t.keyboard := same
        refine ⟨still ▸ on, ?_, by rw [still, all_erase]; exact buffer, none, by simp⟩
        rw [still, length_erase, ← index]
        omega
    · rw [if_neg back]
      simp only [commitKey, if_neg enter, if_neg back] at same
      refine ⟨by rw [same]; exact on, ?_, by rw [same, all_wrap]; exact filled_type buffer place _,
        none, by simp⟩
      have next : u.keyboard.bufferIndex.toNat = (z.line.length + 1) % 256 := by
        rw [same, ← index]
        exact UInt8.toNat_add _ _
      rw [next, Zipper.wrap, length_type]
      split
      · rename_i full
        rw [full]
        rfl
      · rw [length_type]
        omega

end

/-- **One event, any event.** -/
theorem tracks_step {editor : RawEditor} {t : Terminal} (tracks : Tracks editor t)
    (event : RawEvent) : Tracks (editor.step event) (rawDeliver t event) := by
  cases editor with
  | off bytes =>
      obtain ⟨off, buffer⟩ := tracks
      cases event with
      | activate =>
          refine ⟨rfl, ?_, buffer, off.noKey, by simp⟩
          rw [rawDeliver, keyboardStateActivate, off.index]
          rfl
      | code scancode =>
          obtain ⟨still, same⟩ := off_isr scancode off
          refine ⟨still, ?_⟩
          rw [rawDeliver, ← getKeyboardBuffer, same]
          exact buffer
  | editing z pending =>
      have line : TracksLine z pending t := tracks
      cases event with
      | activate => exact ⟨rfl, line.index, line.buffer, line.noted, line.key⟩
      | code scancode =>
          obtain ⟨index, buffer⟩ := tracks_wipe line
          have on : (wipeBuffer t).keyboard.keyboardInputOn = true :=
            (wipeBuffer_inputOn t).trans line.inputOn
          obtain ⟨mapped, commits, passes⟩ := isr_on scancode line.inputOn
          simp only [RawEditor.step, rawDeliver]
          split
          · rename_i char
            obtain ⟨same, noted, pends⟩ := mapped char
            exact ⟨same ▸ on, same ▸ index, same ▸ buffer, pends, by simp [noted]⟩
          · rename_i unmapped
            have zero := not_not.mp unmapped
            cases pending with
            | none =>
                obtain ⟨same, quiet⟩ := passes zero line.noted
                exact ⟨same ▸ on, same ▸ index, same ▸ buffer, quiet, by simp⟩
            | some key =>
                obtain ⟨same, quiet⟩ := commits zero line.noted
                have last : (wipeBuffer t).lastKeyPressed = key :=
                  (wipeBuffer_lastKeyPressed t).trans (line.key key rfl)
                have committed := tracks_commit on index buffer _ same quiet
                rwa [last] at committed

theorem tracks_run {editor : RawEditor} {t : Terminal} (tracks : Tracks editor t)
    (events : List RawEvent) :
    Tracks (events.foldl RawEditor.step editor) (events.foldl rawDeliver t) := by
  induction events generalizing editor t with
  | nil => exact tracks
  | cons event rest ih => exact ih (tracks_step tracks event)

/-- **The driver is a zipper.** Over any stream of scancodes and activations the
index and the 256 bytes of the buffer are those of the editor. -/
theorem driver_is_zipper (events : List RawEvent) :
    (∀ z pending, events.foldl RawEditor.step (.off []) = .editing z pending →
      (events.foldl rawDeliver cleared).keyboard.keyboardInputOn = true ∧
      (events.foldl rawDeliver cleared).keyboard.bufferIndex.toNat = z.line.length ∧
      ∀ i : Fin 256, getKeyboardBuffer (events.foldl rawDeliver cleared) i = z.all.getD i.val 0) ∧
    ∀ bytes, events.foldl RawEditor.step (.off []) = .off bytes →
      (events.foldl rawDeliver cleared).keyboard.keyboardInputOn = false ∧
      (events.foldl rawDeliver cleared).keyboard.bufferIndex = 0 ∧
      ∀ i : Fin 256, getKeyboardBuffer (events.foldl rawDeliver cleared) i = bytes.getD i.val 0 := by
  have tracks := tracks_run tracks_cleared events
  generalize events.foldl rawDeliver cleared = t at tracks ⊢
  constructor
  · intro z pending editing
    rw [editing] at tracks
    exact ⟨tracks.inputOn, tracks.index, tracks.buffer.cells⟩
  · intro bytes off
    rw [off] at tracks
    exact ⟨tracks.off.inputOff, tracks.off.index, tracks.buffer.cells⟩

end HexOS.Console
