import HexOS.Console.Syscall

/-!
What the drivers can see of a terminal.

A stored character has an offset of 16 bits, so of the memory behind
`MEMORY_FRAMEBUFFER` only the first 64 KiB count; and the log of accesses is no state
of the drivers at all. Terminals that agree on the rest agree on it after every
keystroke, and after everything that is printed.
-/

namespace HexOS.Console

open WhileLoop Fat32

structure SameScreen (left right : Framebuffer) : Prop where
  crtc : left.crtc = right.crtc
  cells : ∀ offset < 0x10000, left.memory offset = right.memory offset

structure SameTerminal (left right : Terminal) : Prop where
  keyboard : left.keyboard = right.keyboard
  lastKeyPressed : left.lastKeyPressed = right.lastKeyPressed
  makeCode : left.makeCode = right.makeCode
  screen : SameScreen left.screen right.screen

theorem SameScreen.refl (screen : Framebuffer) : SameScreen screen screen := ⟨rfl, fun _ _ => rfl⟩

theorem SameTerminal.refl (t : Terminal) : SameTerminal t t := ⟨rfl, rfl, rfl, .refl _⟩

theorem SameTerminal.trans {t u v : Terminal} (left : SameTerminal t u) (right : SameTerminal u v) :
    SameTerminal t v :=
  ⟨left.keyboard.trans right.keyboard, left.lastKeyPressed.trans right.lastKeyPressed,
    left.makeCode.trans right.makeCode, left.screen.crtc.trans right.screen.crtc,
    fun offset low => (left.screen.cells offset low).trans (right.screen.cells offset low)⟩

/-! ### The screen -/

section

variable {left right : Framebuffer} (same : SameScreen left right)
include same

theorem getCursor_row : (framebufferGetCursor left).1 = (framebufferGetCursor right).1 := by
  rw [framebufferGetCursor, framebufferGetCursor, same.crtc]

theorem getCursor_col : (framebufferGetCursor left).2.1 = (framebufferGetCursor right).2.1 := by
  rw [framebufferGetCursor, framebufferGetCursor, same.crtc]

theorem getCursor_same :
    SameScreen (framebufferGetCursor left).2.2 (framebufferGetCursor right).2.2 := by
  refine ⟨?_, same.cells⟩
  rw [framebufferGetCursor, framebufferGetCursor, same.crtc]

theorem setCursor_same (r c : UInt8) :
    SameScreen (framebufferSetCursor r c left) (framebufferSetCursor r c right) := by
  refine ⟨?_, same.cells⟩
  rw [framebufferSetCursor, framebufferSetCursor, same.crtc]

theorem store_same (offset : Nat) (c : UInt8) :
    SameScreen (left.store offset c) (right.store offset c) := by
  refine ⟨same.crtc, fun other low => ?_⟩
  simp only [Framebuffer.store, Function.update_apply, same.cells other low]

theorem write_same (row col c fg bg : UInt8) :
    SameScreen (framebufferWrite row col c fg bg left) (framebufferWrite row col c fg bg right) :=
  store_same (store_same same _ _) _ _

/-! ### The keys -/

theorem eraseEcho_same : SameScreen (eraseEcho left) (eraseEcho right) := by
  have cursor := getCursor_same same
  simp only [eraseEcho, getCursor_row same, getCursor_col same]
  split
  · split
    · exact write_same (setCursor_same cursor _ _) _ _ _ _ _
    · exact cursor
  · exact write_same (setCursor_same cursor _ _) _ _ _ _ _

theorem typeEcho_same (char : UInt8) : SameScreen (typeEcho char left) (typeEcho char right) := by
  have cursor := getCursor_same same
  simp only [typeEcho, getCursor_row same, getCursor_col same]
  split
  all_goals exact setCursor_same (write_same cursor _ _ _ _ _) _ _

theorem newlineEcho_same : SameScreen (newlineEcho left) (newlineEcho right) := by
  simp only [newlineEcho, getCursor_row same]
  exact setCursor_same (getCursor_same same) _ _

theorem arrowRight_same (index : UInt8) :
    SameScreen (arrowRight index left) (arrowRight index right) := by
  have cursor := getCursor_same same
  simp only [arrowRight, getCursor_row same, getCursor_col same]
  repeat' split
  all_goals first
    | exact cursor
    | exact setCursor_same cursor _ _

theorem arrowLeft_same (index : UInt8) :
    SameScreen (arrowLeft index left) (arrowLeft index right) := by
  have cursor := getCursor_same same
  simp only [arrowLeft, getCursor_row same, getCursor_col same]
  repeat' split
  all_goals first
    | exact cursor
    | exact setCursor_same cursor _ _

theorem arrowVertical_same : SameScreen (arrowVertical left) (arrowVertical right) := by
  simp only [arrowVertical, getCursor_row same, getCursor_col same]
  exact setCursor_same (getCursor_same same) _ _

theorem handleArrow_same (scancode index : UInt8) :
    SameScreen (handleArrow scancode index left) (handleArrow scancode index right) := by
  simp only [handleArrow]
  split
  · exact arrowRight_same same index
  · split
    · exact arrowLeft_same same index
    · repeat' split
      all_goals first
        | exact arrowVertical_same same
        | exact same

end

/-! ### The terminal -/

/-- Such terminals differ in their screens alone. -/
theorem SameTerminal.screens {left right : Terminal} (same : SameTerminal left right) :
    ∃ screen, right = { left with screen } ∧ SameScreen left.screen screen := by
  obtain ⟨keyboard, lastKeyPressed, makeCode, screen⟩ := right
  obtain ⟨rfl, rfl, rfl, agree⟩ := same
  exact ⟨screen, rfl, agree⟩

section

variable {left right : Terminal}

theorem commitKey_same (same : SameTerminal left right) :
    SameTerminal (commitKey left) (commitKey right) := by
  obtain ⟨_, rfl, screen⟩ := same.screens
  simp only [commitKey, keyboardStateDeactivate, setBufferIndex, storeChar]
  split
  · exact ⟨rfl, rfl, rfl, newlineEcho_same screen⟩
  · split
    · split
      · exact ⟨rfl, rfl, rfl, eraseEcho_same screen⟩
      · exact ⟨rfl, rfl, rfl, getCursor_same screen⟩
    · exact ⟨rfl, rfl, rfl, typeEcho_same screen _⟩

theorem wipeBuffer_same (same : SameTerminal left right) :
    SameTerminal (wipeBuffer left) (wipeBuffer right) := by
  obtain ⟨_, rfl, screen⟩ := same.screens
  simp only [wipeBuffer]
  split
  all_goals exact ⟨rfl, rfl, rfl, screen⟩

theorem keyboardIsr_same (scancode : UInt8) (same : SameTerminal left right) :
    SameTerminal (keyboardIsr scancode left) (keyboardIsr scancode right) := by
  have wiped := wipeBuffer_same same
  have committed := commitKey_same wiped
  have arrow : ∀ {t u : Terminal}, SameTerminal t u →
      SameTerminal { t with screen := handleArrow scancode t.keyboard.bufferIndex t.screen }
        { u with screen := handleArrow scancode u.keyboard.bufferIndex u.screen } := by
    intro t u agree
    obtain ⟨_, rfl, screen⟩ := agree.screens
    exact ⟨rfl, rfl, rfl, handleArrow_same screen scancode _⟩
  simp only [keyboardIsr, isKeyboardBlocking, same.keyboard, wiped.makeCode]
  split
  · exact ⟨by simp only [setBufferIndex, same.keyboard], same.lastKeyPressed, same.makeCode,
      same.screen⟩
  · refine arrow ?_
    split
    · exact ⟨wiped.keyboard, rfl, rfl, wiped.screen⟩
    · split
      · exact ⟨committed.keyboard, committed.lastKeyPressed, rfl, committed.screen⟩
      · exact wiped

end

end HexOS.Console
