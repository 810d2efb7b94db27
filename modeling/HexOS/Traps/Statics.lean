import HexOS.Console.Observed
import HexOS.Traps.Stubs

/-!
The terminal in the kernel's memory.

`keyboard_isr` is compiled code: it works on a packed structure, on two statics and on
the memory of the screen, and has a stack of its own. `Statics.terminal` reads the
terminal of the driver's model from there; `Compiled` says that a function of the
machine does to it what a function of the model does, and touches nothing else.
-/

namespace HexOS.Traps

open StackWords

/-- `MEMORY_FRAMEBUFFER`. -/
def memoryFramebuffer : UInt32 := 0xC00B8000

/-- The addresses of `keyboard_state` and of the statics of `keyboard_isr`. -/
structure Statics where
  keyboardState : UInt32
  lastKeyPressed : UInt32
  makeCode : UInt32

/-- What the addresses and the screen take up. The structure starts with
`read_extended_mode`, which no one uses. -/
def Statics.region (statics : Statics) (a : UInt32) : Prop :=
  (a - memoryFramebuffer).toNat < 0x10000 ∨ (a - statics.keyboardState).toNat < 3 + 256 ∨
    a = statics.lastKeyPressed ∨ a = statics.makeCode

def Statics.terminal (statics : Statics) (s : State) : Console.Terminal where
  keyboard :=
    { keyboardInputOn := s.memory (statics.keyboardState + 1) ≠ 0
      bufferIndex := s.memory (statics.keyboardState + 2)
      keyboardBuffer := fun i => s.memory (statics.keyboardState + UInt32.ofNat (3 + i.val)) }
  lastKeyPressed := s.memory statics.lastKeyPressed
  makeCode := s.memory statics.makeCode ≠ 0
  screen :=
    { crtc := s.crtc
      memory := fun offset =>
        if offset < 0x10000 then s.memory (memoryFramebuffer + UInt32.ofNat offset) else 0
      accesses := [] }

/-- What a function entered with the stack pointer at `stack` writes to, if it needs `depth`
words below. -/
def Statics.writes (statics : Statics) (depth : Nat) (stack a : UInt32) : Prop :=
  statics.region a ∨ (stack - 1 - a).toNat < 4 * depth

/-- A function of the kernel, entered with the stack pointer at `stack`, does to the
terminal what `f` does. -/
def Statics.Compiled (statics : Statics) (depth : Nat) (stack : UInt32)
    (f : Console.Terminal → Console.Terminal) (function : Routine) : Prop :=
  ∀ s, s.registers.esp = stack → ∃ t, function s = some t ∧
    ComesBack (statics.writes depth stack) s t ∧
    Console.SameTerminal (statics.terminal t) (f (statics.terminal s))

section

variable {statics : Statics}

theorem region_keyboardState {k : Nat} (inside : k < 3 + 256) :
    statics.region (statics.keyboardState + UInt32.ofNat k) := by
  refine .inr (.inl ?_)
  rwa [toNat_offset _ (by omega)]

theorem region_framebuffer {offset : Nat} (inside : offset < 0x10000) :
    statics.region (memoryFramebuffer + UInt32.ofNat offset) := by
  refine .inl ?_
  rwa [toNat_offset _ (by omega)]

/-- Such a function keeps away from the words on a stack that is apart from the terminal. -/
theorem writes_apart {base : UInt32} {words depth : Nat}
    (stack : ∀ a, statics.region a → 4 * (words + depth) ≤ (base - 1 - a).toNat) {i : Nat}
    (inside : i < 4 * words) :
    ¬ statics.writes depth (base - UInt32.ofNat (4 * words))
      (base - UInt32.ofNat (4 * words) + UInt32.ofNat i) := by
  have place := stack _ (region_keyboardState (k := 0) (by decide))
  have room := UInt32.toNat_lt (base - 1 - (statics.keyboardState + UInt32.ofNat 0))
  rintro (static | below)
  · have far := stack _ static
    have near := within_stack (sub_add_cancel base (UInt32.ofNat (4 * words))) inside
    omega
  · exact not_below _ (by omega) below

/-- The terminal depends on its region and on the cursor. -/
theorem terminal_congr {s t : State} (memory : ∀ a, statics.region a → t.memory a = s.memory a)
    (crtc : t.crtc = s.crtc) : statics.terminal t = statics.terminal s := by
  have inputOn : t.memory (statics.keyboardState + 1) = s.memory (statics.keyboardState + 1) :=
    memory _ (region_keyboardState (k := 1) (by decide))
  have index : t.memory (statics.keyboardState + 2) = s.memory (statics.keyboardState + 2) :=
    memory _ (region_keyboardState (k := 2) (by decide))
  have buffer : (fun i : Fin 256 => t.memory (statics.keyboardState + UInt32.ofNat (3 + i.val))) =
      fun i => s.memory (statics.keyboardState + UInt32.ofNat (3 + i.val)) := by
    funext i
    exact memory _ (region_keyboardState (by omega))
  have cells : (fun offset =>
        if offset < 0x10000 then t.memory (memoryFramebuffer + UInt32.ofNat offset) else 0) =
      fun offset =>
        if offset < 0x10000 then s.memory (memoryFramebuffer + UInt32.ofNat offset) else 0 := by
    funext offset
    split
    · exact memory _ (region_framebuffer ‹_›)
    · rfl
  have lastKey := memory statics.lastKeyPressed (.inr (.inr (.inl rfl)))
  have makeCode := memory statics.makeCode (.inr (.inr (.inr rfl)))
  simp only [Statics.terminal, inputOn, index, buffer, cells, lastKey, makeCode, crtc]

theorem terminal_registers (s : State) (registers : Registers) :
    statics.terminal { s with registers } = statics.terminal s := rfl

/-! ### Compiled functions exist -/

/-- The terminal is put back where it was read. -/
def Statics.store (statics : Statics) (t : Console.Terminal) (m : Memory) : Memory := fun a =>
  let cell := (a - memoryFramebuffer).toNat
  let byte := (a - statics.keyboardState).toNat
  if cell < 0x10000 then t.screen.memory cell
  else if byte = 1 then if t.keyboard.keyboardInputOn then 1 else 0
  else if byte = 2 then t.keyboard.bufferIndex
  else if inside : byte - 3 < 256 ∧ 3 ≤ byte then t.keyboard.keyboardBuffer ⟨byte - 3, inside.1⟩
  else if a = statics.lastKeyPressed then t.lastKeyPressed
  else if a = statics.makeCode then if t.makeCode then 1 else 0
  else m a

/-- A function that does what `f` does, and nothing else. -/
def Statics.run (statics : Statics) (f : Console.Terminal → Console.Terminal) : Routine := fun s =>
  let t := f (statics.terminal s)
  some { s with memory := statics.store t s.memory, crtc := t.screen.crtc }

theorem store_apart (t : Console.Terminal) (m : Memory) {a : UInt32} (other : ¬ statics.region a) :
    statics.store t m a = m a := by
  obtain ⟨screen, rest⟩ := not_or.mp other
  obtain ⟨keyboard, rest⟩ := not_or.mp rest
  obtain ⟨lastKey, makeCode⟩ := not_or.mp rest
  have first : (a - statics.keyboardState).toNat ≠ 1 := by omega
  have second : (a - statics.keyboardState).toNat ≠ 2 := by omega
  have buffer : ¬ ((a - statics.keyboardState).toNat - 3 < 256 ∧
      3 ≤ (a - statics.keyboardState).toNat) := by omega
  simp only [Statics.store, if_neg screen, if_neg first, if_neg second, dif_neg buffer,
    if_neg lastKey, if_neg makeCode]

end

/-- Statics in the kernel's data. -/
def sampleStatics : Statics := ⟨0xC0108000, 0xC0108200, 0xC0108201⟩

/-- The structure lies behind the screen. -/
theorem sample_keyboard {k : Nat} (inside : k < 3 + 256) :
    (sampleStatics.keyboardState + UInt32.ofNat k - sampleStatics.keyboardState).toNat = k ∧
      ¬ (sampleStatics.keyboardState + UInt32.ofNat k - memoryFramebuffer).toNat < 0x10000 := by
  refine ⟨toNat_offset _ (by omega), ?_⟩
  have base : sampleStatics.keyboardState.toNat = 0xC0108000 := rfl
  have screen : memoryFramebuffer.toNat = 0xC00B8000 := rfl
  rw [UInt32.toNat_sub, UInt32.toNat_add, UInt32.toNat_ofNat', base, screen]
  omega

theorem store_keyboardState (t : Console.Terminal) (m : Memory) {k : Nat} (inside : k < 3 + 256) :
    sampleStatics.store t m (sampleStatics.keyboardState + UInt32.ofNat k) =
      if k = 1 then if t.keyboard.keyboardInputOn then 1 else 0
      else if k = 2 then t.keyboard.bufferIndex
      else if inside : k - 3 < 256 ∧ 3 ≤ k then t.keyboard.keyboardBuffer ⟨k - 3, inside.1⟩
      else if sampleStatics.keyboardState + UInt32.ofNat k = sampleStatics.lastKeyPressed then
        t.lastKeyPressed
      else if sampleStatics.keyboardState + UInt32.ofNat k = sampleStatics.makeCode then
        if t.makeCode then 1 else 0
      else m (sampleStatics.keyboardState + UInt32.ofNat k) := by
  obtain ⟨byte, behind⟩ := sample_keyboard inside
  simp only [Statics.store, byte, if_neg behind]

/-- What is put back is read again. -/
theorem terminal_store (t : Console.Terminal) (s : State) :
    Console.SameTerminal (sampleStatics.terminal
      { s with memory := sampleStatics.store t s.memory, crtc := t.screen.crtc }) t := by
  have up : ∀ up : Bool, decide ((if up then (1 : UInt8) else 0) ≠ 0) = up := by decide
  have inputOn : sampleStatics.store t s.memory (sampleStatics.keyboardState + 1) =
      if t.keyboard.keyboardInputOn then 1 else 0 :=
    store_keyboardState t s.memory (k := 1) (by decide)
  have index : sampleStatics.store t s.memory (sampleStatics.keyboardState + 2) =
      t.keyboard.bufferIndex := store_keyboardState t s.memory (k := 2) (by decide)
  have buffer : ∀ i : Fin 256, sampleStatics.store t s.memory
      (sampleStatics.keyboardState + UInt32.ofNat (3 + i.val)) = t.keyboard.keyboardBuffer i := by
    intro i
    rw [store_keyboardState t s.memory (by omega), if_neg (by omega), if_neg (by omega),
      dif_pos ⟨by omega, by omega⟩]
    exact congrArg t.keyboard.keyboardBuffer (Fin.ext (Nat.add_sub_cancel_left 3 i.val))
  have lastKey : sampleStatics.store t s.memory sampleStatics.lastKeyPressed = t.lastKeyPressed := rfl
  have makeCode : sampleStatics.store t s.memory sampleStatics.makeCode =
      if t.makeCode then 1 else 0 := rfl
  refine ⟨?_, lastKey, ?_, rfl, fun offset low => ?_⟩
  · simp only [Statics.terminal, inputOn, index, buffer, up]
  · simp only [Statics.terminal, makeCode, up]
  · simp only [Statics.terminal, if_pos low, Statics.store]
    rw [toNat_offset _ (by omega), if_pos low]

theorem run_compiled (f : Console.Terminal → Console.Terminal) (depth : Nat) (stack : UInt32) :
    sampleStatics.Compiled depth stack f (sampleStatics.run f) := by
  intro s _
  refine ⟨_, rfl, ⟨rfl, rfl, rfl, rfl, rfl, fun a other => ?_⟩, terminal_store _ s⟩
  exact store_apart _ _ (not_or.mp other).1

end HexOS.Traps
