import Mathlib.Logic.Function.Basic
import HexOS.Library.ByteWords

/-!
The text screen of `framebuffer.c`.

The hardware cursor lives in registers 0x0E and 0x0F of the CRT controller, which
the driver reaches through an index port and a data port. The framebuffer is
memory, addressed here by the offset from `MEMORY_FRAMEBUFFER`. Every position
the driver gives the cursor and every offset it stores to is logged, newest
first, so that staying on the screen can be said of whole runs.
-/

namespace HexOS.Console

/-! ### The cursor registers -/

def cursorPortCmd : UInt16 := 0x03D4
def cursorPortData : UInt16 := 0x03D5

structure Crtc where
  index : UInt8
  register : UInt8 → UInt8

def Crtc.portOut (port : UInt16) (data : UInt8) (crtc : Crtc) : Crtc :=
  if port = cursorPortCmd then { crtc with index := data }
  else if port = cursorPortData then
    { crtc with register := Function.update crtc.register crtc.index data }
  else crtc

def Crtc.portIn (port : UInt16) (crtc : Crtc) : UInt8 :=
  if port = cursorPortData then crtc.register crtc.index else 0

/-! ### The driver -/

/-- What the driver does to the screen hardware. -/
inductive ScreenAccess where
  | moved (position : Nat)
  | stored (offset : Nat)

structure Framebuffer where
  crtc : Crtc
  memory : Nat → UInt8
  accesses : List ScreenAccess

/-- `memset(MEMORY_FRAMEBUFFER + offset, c, 1)`. -/
def Framebuffer.store (offset : Nat) (c : UInt8) (fb : Framebuffer) : Framebuffer :=
  { fb with
    memory := Function.update fb.memory offset c
    accesses := .stored offset :: fb.accesses }

def framebufferWrite (row col c fg bg : UInt8) (fb : Framebuffer) : Framebuffer :=
  let offset : UInt16 := 2 * (row.toUInt16 * 80 + col.toUInt16)
  (fb.store offset.toNat c).store (offset.toNat + 1) (bg <<< 4 ||| fg)

def framebufferSetCursor (r c : UInt8) (fb : Framebuffer) : Framebuffer :=
  let pos : UInt16 := r.toUInt16 * 80 + c.toUInt16
  let crtc := fb.crtc.portOut cursorPortCmd 0x0F
  let crtc := crtc.portOut cursorPortData (pos &&& 0x00FF).toUInt8
  let crtc := crtc.portOut cursorPortCmd 0x0E
  let crtc := crtc.portOut cursorPortData ((pos >>> 8) &&& 0x00FF).toUInt8
  { fb with crtc, accesses := .moved pos.toNat :: fb.accesses }

/-- Gives `cursor_x`, the row, and `cursor_y`, the column. -/
def framebufferGetCursor (fb : Framebuffer) : UInt8 × UInt8 × Framebuffer :=
  let crtc := fb.crtc.portOut cursorPortCmd 0x0F
  let pos : UInt16 := (crtc.portIn cursorPortData).toUInt16
  let crtc := crtc.portOut cursorPortCmd 0x0E
  let pos := pos ||| (crtc.portIn cursorPortData).toUInt16 <<< 8
  ((pos / 80).toUInt8, (pos % 80).toUInt8, { fb with crtc })

def framebufferClear (fb : Framebuffer) : Framebuffer :=
  let fb := { fb with memory := fun offset => if offset < 80 * 25 * 2 then 0 else fb.memory offset }
  (List.range 25).foldl (fun fb row =>
    (List.range 80).foldl (fun fb col =>
      framebufferWrite (UInt8.ofNat row) (UInt8.ofNat col) 0x20 0x07 0x00 fb) fb) fb

/-! ### The cursor's position -/

/-- The position the two registers hold. -/
def Framebuffer.position (fb : Framebuffer) : Nat :=
  (fb.crtc.register 0x0F).toNat + 256 * (fb.crtc.register 0x0E).toNat

theorem toNat_joined (low high : UInt8) :
    (low.toUInt16 ||| high.toUInt16 <<< 8).toNat = low.toNat + 256 * high.toNat := by
  have lowByte := low.toNat_lt
  have highByte := high.toNat_lt
  have joined := Nat.shiftLeft_add_eq_or_of_lt (i := 8) lowByte high.toNat
  simp only [UInt16.toNat_or, UInt16.toNat_shiftLeft, UInt8.toNat_toUInt16]
  rw [show (8 : UInt16).toNat % 16 = 8 from rfl, Nat.shiftLeft_eq] at *
  rw [Nat.mod_eq_of_lt (by omega), Nat.or_comm, ← joined]
  omega

theorem toNat_cell (r c : UInt8) : (r.toUInt16 * 80 + c.toUInt16).toNat = r.toNat * 80 + c.toNat := by
  have row := r.toNat_lt
  have col := c.toNat_lt
  simp only [UInt16.toNat_add, UInt16.toNat_mul, UInt8.toNat_toUInt16, UInt16.reduceToNat]
  omega

/-- The cursor's row and column, each cut to 8 bits. -/
theorem getCursor_eq (fb : Framebuffer) :
    (framebufferGetCursor fb).1 = UInt8.ofNat (fb.position / 80) ∧
      (framebufferGetCursor fb).2.1 = UInt8.ofNat (fb.position % 80) := by
  have joined := toNat_joined (fb.crtc.register 0x0F) (fb.crtc.register 0x0E)
  have eighty : (80 : UInt16).toNat = 80 := rfl
  simp only [framebufferGetCursor, Crtc.portOut, Crtc.portIn, if_true]
  constructor
  · apply UInt8.toNat_inj.mp
    rw [UInt16.toNat_toUInt8, UInt16.toNat_div, joined, eighty, UInt8.toNat_ofNat',
      Framebuffer.position]
  · apply UInt8.toNat_inj.mp
    rw [UInt16.toNat_toUInt8, UInt16.toNat_mod, joined, eighty, UInt8.toNat_ofNat',
      Framebuffer.position]

@[simp] theorem position_setCursor (r c : UInt8) (fb : Framebuffer) :
    (framebufferSetCursor r c fb).position = r.toNat * 80 + c.toNat := by
  have cell := toNat_cell r c
  have row := r.toNat_lt
  have col := c.toNat_lt
  simp only [framebufferSetCursor, Framebuffer.position, Crtc.portOut, if_true,
    show cursorPortData ≠ cursorPortCmd by decide, if_false]
  generalize r.toUInt16 * 80 + c.toUInt16 = pos at cell
  rw [Function.update_of_ne (by decide), Function.update_self, Function.update_self,
    UInt16.toNat_toUInt8, UInt16.toNat_toUInt8, UInt16.toNat_and, UInt16.toNat_and,
    UInt16.toNat_shiftRight, cell, show (0x00FF : UInt16).toNat = 2 ^ 8 - 1 from rfl,
    show (8 : UInt16).toNat % 16 = 8 from rfl, Nat.and_two_pow_sub_one_eq_mod,
    Nat.and_two_pow_sub_one_eq_mod, Nat.shiftRight_eq_div_pow]
  omega

@[simp] theorem position_getCursor (fb : Framebuffer) :
    (framebufferGetCursor fb).2.2.position = fb.position := by
  simp [framebufferGetCursor, Framebuffer.position, Crtc.portOut, cursorPortCmd, cursorPortData]

@[simp] theorem position_write (row col c fg bg : UInt8) (fb : Framebuffer) :
    (framebufferWrite row col c fg bg fb).position = fb.position := rfl

/-! ### The memory -/

def ScreenAccess.isStore : ScreenAccess → Bool
  | .moved _ => false
  | .stored _ => true

/-- How many bytes have been stored so far. -/
def Framebuffer.stores (fb : Framebuffer) : Nat := fb.accesses.countP ScreenAccess.isStore

theorem toNat_offset (row col : UInt8) :
    (2 * (row.toUInt16 * 80 + col.toUInt16)).toNat = 2 * (row.toNat * 80 + col.toNat) := by
  have rowBound := row.toNat_lt
  have colBound := col.toNat_lt
  rw [UInt16.toNat_mul, toNat_cell, show (2 : UInt16).toNat = 2 from rfl]
  omega

/-- A write changes the two bytes of its cell. -/
theorem memory_write (row col c fg bg : UInt8) (fb : Framebuffer) (offset : Nat) :
    (framebufferWrite row col c fg bg fb).memory offset =
      if offset = 2 * (row.toNat * 80 + col.toNat) + 1 then bg <<< 4 ||| fg
      else if offset = 2 * (row.toNat * 80 + col.toNat) then c
      else fb.memory offset := by
  simp only [framebufferWrite, Framebuffer.store, toNat_offset, Function.update_apply]

@[simp] theorem memory_setCursor (r c : UInt8) (fb : Framebuffer) :
    (framebufferSetCursor r c fb).memory = fb.memory := rfl

@[simp] theorem memory_getCursor (fb : Framebuffer) :
    (framebufferGetCursor fb).2.2.memory = fb.memory := rfl

@[simp] theorem stores_write (row col c fg bg : UInt8) (fb : Framebuffer) :
    (framebufferWrite row col c fg bg fb).stores = fb.stores + 2 := by
  simp only [Framebuffer.stores, framebufferWrite, Framebuffer.store]
  rw [List.countP_cons_of_pos rfl, List.countP_cons_of_pos rfl]

@[simp] theorem stores_setCursor (r c : UInt8) (fb : Framebuffer) :
    (framebufferSetCursor r c fb).stores = fb.stores := by
  simp [Framebuffer.stores, framebufferSetCursor, ScreenAccess.isStore]

end HexOS.Console
