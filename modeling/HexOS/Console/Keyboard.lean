import HexOS.Stdmem
import HexOS.Console.Framebuffer

/-!
The keyboard driver of `keyboard.c`.

`keyboardIsr` handles one interrupt; `scancode` is what the data port holds. A
key is noted when its make code arrives and committed by the next unmapped
code. Commits edit the line and echo to the screen; arrow keys only move the
cursor, and run after the commit.
-/

namespace HexOS.Console

/-! ### State -/

structure KeyboardDriverState where
  keyboardInputOn : Bool
  bufferIndex : UInt8
  keyboardBuffer : Bytes 256

/-- The driver state, the two statics of `keyboard_isr`, and the screen. -/
structure Terminal where
  keyboard : KeyboardDriverState
  lastKeyPressed : UInt8
  makeCode : Bool
  screen : Framebuffer

/-- The terminal once `kernel_setup` has cleared the screen. -/
def cleared : Terminal :=
  ⟨⟨false, 0, fun _ => 0⟩, 0, false,
    framebufferSetCursor 0 0 (framebufferClear ⟨⟨0, fun _ => 0⟩, fun _ => 0, []⟩)⟩

/-! ### Scancodes -/

def extScancodeUp : UInt8 := 0x48
def extScancodeDown : UInt8 := 0x50
def extScancodeLeft : UInt8 := 0x4B
def extScancodeRight : UInt8 := 0x4D

def newline : UInt8 := 0x0A
def backspace : UInt8 := 0x08

/-- The entries of the map below 0x50. -/
def asciiTable : List UInt8 :=
  [0, 0x1B, 0x31, 0x32, 0x33, 0x34, 0x35, 0x36, 0x37, 0x38, 0x39, 0x30, 0x2D, 0x3D, 0x08, 0x09,
   0x71, 0x77, 0x65, 0x72, 0x74, 0x79, 0x75, 0x69, 0x6F, 0x70, 0x5B, 0x5D, 0x0A, 0, 0x61, 0x73,
   0x64, 0x66, 0x67, 0x68, 0x6A, 0x6B, 0x6C, 0x3B, 0x27, 0x60, 0, 0x5C, 0x7A, 0x78, 0x63, 0x76,
   0x62, 0x6E, 0x6D, 0x2C, 0x2E, 0x2F, 0, 0x2A, 0, 0x20, 0, 0, 0, 0, 0, 0,
   0, 0, 0, 0, 0, 0, 0, 0, 0, 0, 0x2D, 0, 0, 0, 0x2B, 0]

/-- All entries from 0x50 on are 0. -/
def keyboardScancode1ToAsciiMap (scancode : UInt8) : UInt8 := asciiTable.getD scancode.toNat 0

/-! ### Driver interface -/

def keyboardStateActivate (t : Terminal) : Terminal :=
  { t with keyboard := { t.keyboard with keyboardInputOn := true } }

def keyboardStateDeactivate (t : Terminal) : Terminal :=
  { t with keyboard := { t.keyboard with keyboardInputOn := false } }

def getKeyboardBuffer (t : Terminal) : Bytes 256 := t.keyboard.keyboardBuffer

def isKeyboardBlocking (t : Terminal) : Bool := t.keyboard.keyboardInputOn

/-! ### Committing a key -/

def setBufferIndex (index : UInt8) (t : Terminal) : Terminal :=
  { t with keyboard := { t.keyboard with bufferIndex := index } }

/-- `keyboard_buffer[buffer_index] = char`. -/
def storeChar (char : UInt8) (t : Terminal) : Terminal :=
  { t with keyboard := { t.keyboard with
      keyboardBuffer := Function.update t.keyboard.keyboardBuffer t.keyboard.bufferIndex.toFin char } }

/-- The cursor goes one column back and the character there is blanked. -/
def eraseEcho (screen : Framebuffer) : Framebuffer :=
  let cursor := framebufferGetCursor screen
  let cursorX := cursor.1
  let cursorY := cursor.2.1
  let screen := cursor.2.2
  if cursorY = 0 then
    if cursorX > 0 then
      framebufferWrite (cursorX - 1) 79 0x20 0xF 0 (framebufferSetCursor (cursorX - 1) 79 screen)
    else screen
  else
    framebufferWrite cursorX (cursorY - 1) 0x20 0xF 0
      (framebufferSetCursor cursorX (cursorY - 1) screen)

def typeEcho (char : UInt8) (screen : Framebuffer) : Framebuffer :=
  let cursor := framebufferGetCursor screen
  let cursorX := cursor.1
  let cursorY := cursor.2.1
  let screen := cursor.2.2
  if cursorY = 79 then
    framebufferSetCursor (cursorX + 1) 0 (framebufferWrite cursorX cursorY char 0x0F 0x00 screen)
  else
    framebufferSetCursor cursorX (cursorY + 1)
      (framebufferWrite cursorX cursorY char 0x0F 0x00 screen)

/-- The cursor goes to the start of the next row. -/
def newlineEcho (screen : Framebuffer) : Framebuffer :=
  let cursor := framebufferGetCursor screen
  framebufferSetCursor (cursor.1 + 1) 0 cursor.2.2

/-- The switch on `last_key_pressed`. -/
def commitKey (t : Terminal) : Terminal :=
  let index := t.keyboard.bufferIndex
  if t.lastKeyPressed = newline then
    let t := setBufferIndex 0 (storeChar 0 t)
    keyboardStateDeactivate { t with screen := newlineEcho t.screen }
  else if t.lastKeyPressed = backspace then
    if index > 0 then
      let t := setBufferIndex (index - 1) t
      { t with screen := eraseEcho t.screen }
    else { t with screen := (framebufferGetCursor t.screen).2.2 }
  else
    let t := setBufferIndex (index + 1) (storeChar t.lastKeyPressed t)
    { t with screen := typeEcho t.lastKeyPressed t.screen }

/-! ### Arrow keys -/

def arrowRight (bufferIndex : UInt8) (screen : Framebuffer) : Framebuffer :=
  let cursor := framebufferGetCursor screen
  let cursorX := cursor.1
  let cursorY := cursor.2.1
  let screen := cursor.2.2
  let currentBaris := cursorX
  let nBaris := bufferIndex / 80
  let baris := currentBaris - nBaris
  let kolom := bufferIndex % 80
  if bufferIndex > 79 then
    if cursorX ≤ currentBaris ∧ cursorX ≥ baris then
      if cursorY = 79 then
        if cursorX < 24 then framebufferSetCursor (cursorX + 1) 0 screen else screen
      else if cursorY < 79 then framebufferSetCursor cursorX (cursorY + 1) screen
      else screen
    else if (cursorX.toNat : Int) = currentBaris.toNat - 1 then
      if cursorY < kolom then framebufferSetCursor cursorX (cursorY + 1) screen
      else framebufferSetCursor cursorX cursorY screen
    else screen
  else if cursorY < bufferIndex then framebufferSetCursor cursorX (cursorY + 1) screen
  else framebufferSetCursor cursorX cursorY screen

def arrowLeft (bufferIndex : UInt8) (screen : Framebuffer) : Framebuffer :=
  let cursor := framebufferGetCursor screen
  let cursorX := cursor.1
  let cursorY := cursor.2.1
  let screen := cursor.2.2
  let barisL := cursorX - bufferIndex / 80
  if bufferIndex > 80 then
    if cursorX ≠ barisL then
      if cursorY = 0 then
        if cursorX > 0 then framebufferSetCursor (cursorX - 1) 79 screen else screen
      else framebufferSetCursor cursorX (cursorY - 1) screen
    else screen
  else if cursorY > 0 then framebufferSetCursor cursorX (cursorY - 1) screen
  else framebufferSetCursor cursorX cursorY screen

/-- The up and down keys set the cursor to where it is. -/
def arrowVertical (screen : Framebuffer) : Framebuffer :=
  let cursor := framebufferGetCursor screen
  framebufferSetCursor cursor.1 cursor.2.1 cursor.2.2

/-- The switch on `scancode`. -/
def handleArrow (scancode bufferIndex : UInt8) (screen : Framebuffer) : Framebuffer :=
  if scancode = extScancodeRight then arrowRight bufferIndex screen
  else if scancode = extScancodeLeft then arrowLeft bufferIndex screen
  else if scancode = extScancodeUp then arrowVertical screen
  else if scancode = extScancodeDown then arrowVertical screen
  else screen

/-! ### The interrupt -/

/-- `memset(keyboard_buffer, 0, …)` when the index is 0. -/
def wipeBuffer (t : Terminal) : Terminal :=
  if t.keyboard.bufferIndex = 0 then
    { t with keyboard := { t.keyboard with keyboardBuffer := fun _ => 0 } }
  else t

def keyboardIsr (scancode : UInt8) (t : Terminal) : Terminal :=
  if !t.keyboard.keyboardInputOn then setBufferIndex 0 t
  else
    let mappedChar := keyboardScancode1ToAsciiMap scancode
    if !isKeyboardBlocking t then setBufferIndex 0 t
    else
      let t := wipeBuffer t
      let t :=
        if mappedChar ≠ 0 then { t with lastKeyPressed := mappedChar, makeCode := true }
        else if t.makeCode then { commitKey t with makeCode := false }
        else t
      { t with screen := handleArrow scancode t.keyboard.bufferIndex t.screen }

section

variable (t : Terminal)

@[simp] theorem wipeBuffer_screen : (wipeBuffer t).screen = t.screen := by
  unfold wipeBuffer
  split <;> rfl

@[simp] theorem wipeBuffer_lastKeyPressed : (wipeBuffer t).lastKeyPressed = t.lastKeyPressed := by
  unfold wipeBuffer
  split <;> rfl

@[simp] theorem wipeBuffer_makeCode : (wipeBuffer t).makeCode = t.makeCode := by
  unfold wipeBuffer
  split <;> rfl

@[simp] theorem wipeBuffer_inputOn :
    (wipeBuffer t).keyboard.keyboardInputOn = t.keyboard.keyboardInputOn := by
  unfold wipeBuffer
  split <;> rfl

@[simp] theorem wipeBuffer_bufferIndex :
    (wipeBuffer t).keyboard.bufferIndex = t.keyboard.bufferIndex := by
  unfold wipeBuffer
  split <;> rfl

end

/-- No arrow code, no move. -/
theorem handleArrow_of_ne {scancode : UInt8} (right : scancode ≠ extScancodeRight)
    (left : scancode ≠ extScancodeLeft) (up : scancode ≠ extScancodeUp)
    (down : scancode ≠ extScancodeDown) (bufferIndex : UInt8) (screen : Framebuffer) :
    handleArrow scancode bufferIndex screen = screen := by
  rw [handleArrow, if_neg right, if_neg left, if_neg up, if_neg down]

end HexOS.Console
