import HexOS.Traps.Statics
import Mathlib.Logic.Function.Iterate

/-!
A user program that is interrupted at any moment.

`Program` is a program between two system calls, on memory of its own; `Kernel` the
compiled kernel, whose stack and statics lie elsewhere. Interrupts may come in any
number before any step of the program: `interrupts_unnoticed` shows that its registers
and its memory develop as if there were none, while the terminal in the kernel's memory
develops as the keyboard driver makes it, as if there were no program.
-/

namespace HexOS.Traps

open StackWords

/-! ### Program and kernel -/

/-- The two states are the same to a program with the memory `own`. -/
structure SameFor (own : UInt32 → Prop) (s t : State) : Prop where
  registers : s.registers = t.registers
  memory : ∀ a, own a → s.memory a = t.memory a

theorem SameFor.trans {own : UInt32 → Prop} {s t u : State} (left : SameFor own s t)
    (right : SameFor own t u) : SameFor own s u :=
  ⟨left.registers.trans right.registers,
    fun a mine => (left.memory a mine).trans (right.memory a mine)⟩

structure Program (own : UInt32 → Prop) where
  step : State → State
  /-- A program in an outer ring stays there. -/
  outer : ∀ s, s.registers.ring ≠ 0 → (step s).registers.ring ≠ 0
  /-- A step depends on the registers and the memory of the program. -/
  confined : ∀ s t, SameFor own s t → SameFor own (step s) (step t)
  /-- Stores elsewhere and to ports are refused. -/
  leaves : ∀ s a, ¬ own a → (step s).memory a = s.memory a
  ports : ∀ s, (step s).crtc = s.crtc

/-- Where the handler's calls start, from an outer ring: below 14 words and its frame. -/
def callStack (tss : TSSEntry) (frame : StackFrame) : UInt32 :=
  tss.esp0 - UInt32.ofNat (4 * (frame.words + 14))

structure Kernel (own : UInt32 → Prop) where
  tss : TSSEntry
  /-- The addresses of the stubs. -/
  stubs : Fin 64 → UInt32
  /-- The address behind the call of `main_interrupt_handler`. -/
  back : UInt32
  /-- The frame of `main_interrupt_handler`. -/
  frame : StackFrame
  statics : Statics
  /-- The words of stack that `keyboard_isr` needs. -/
  depth : Nat
  /-- For each scancode that the data port may hold. -/
  keyboardIsr : UInt8 → Routine
  syscall : CPURegister → InterruptStack → Routine
  keyboard : ∀ scancode, statics.Compiled depth (callStack tss frame)
    (Console.keyboardIsr scancode) (keyboardIsr scancode)
  /-- The kernel's stack belongs neither to the program nor to the terminal. -/
  stack : ∀ a, own a ∨ statics.region a →
    4 * (frame.words + 14 + depth) ≤ (tss.esp0 - 1 - a).toNat
  apart : ∀ a, own a → ¬ statics.region a

/-- An interrupt or exception, not the system call. -/
structure Interrupt where
  vector : Fin 64
  error : Option UInt32
  /-- What the keyboard's data port holds. -/
  scancode : UInt8
  agree : error.isSome = expectsErrorCode vector
  quiet : vector ≠ 0x30

inductive Event where
  | step
  | interrupt (i : Interrupt)

/-- The stub of the vector runs from the interrupt to its `iret`. -/
def Kernel.serve {own : UInt32 → Prop} (kernel : Kernel own) (i : Interrupt) (s : State) :
    Option State :=
  execution (mainInterruptHandler kernel.frame (kernel.keyboardIsr i.scancode) kernel.syscall)
    (isrStub kernel.back i.vector)
    (s.interrupt kernelCodeSegment (kernel.stubs i.vector) kernel.tss i.error)

def happen {own : UInt32 → Prop} (program : Program own) (kernel : Kernel own) (s : State) :
    Event → Option State
  | .step => some (program.step s)
  | .interrupt i => kernel.serve i s

/-- How many steps of the program are among the events. -/
def steps : List Event → Nat
  | [] => 0
  | .step :: events => steps events + 1
  | .interrupt _ :: events => steps events

/-- What an event does to the terminal. -/
def typed (t : Console.Terminal) : Event → Console.Terminal
  | .step => t
  | .interrupt i => if i.vector = 0x21 then Console.keyboardIsr i.scancode t else t

/-! ### Interleavings -/

theorem typed_same (event : Event) {t u : Console.Terminal} (same : Console.SameTerminal t u) :
    Console.SameTerminal (typed t event) (typed u event) := by
  cases event with
  | step => exact same
  | interrupt i =>
      simp only [typed]
      split
      · exact Console.keyboardIsr_same i.scancode same
      · exact same

section

variable {own : UInt32 → Prop} (program : Program own) (kernel : Kernel own)

/-- What `keyboard_isr` may write to. -/
def Kernel.writes : UInt32 → Prop :=
  kernel.statics.writes kernel.depth (callStack kernel.tss kernel.frame)

/-- The program is not written to. -/
theorem own_apart {a : UInt32} (mine : own a) : ¬ kernel.writes a := by
  have depth : callStack kernel.tss kernel.frame + UInt32.ofNat (4 * (kernel.frame.words + 14)) =
      kernel.tss.esp0 := sub_add_cancel _ _
  have far := kernel.stack a (.inl mine)
  have below := below_of_below (a := a) (n := 4 * kernel.depth) depth (by omega)
  exact not_or.mpr ⟨kernel.apart a mine, Nat.not_lt.mpr below⟩

theorem number_eq (i : Interrupt) (w : UInt32) :
    UInt32.ofNat i.vector.val = w ↔ i.vector.val = w.toNat := by
  rw [← UInt32.toNat_inj, UInt32.toNat_ofNat_of_lt' (Nat.lt_trans i.vector.isLt (by decide))]

/-- What is called for an interrupt comes back, and does to the terminal what it should. -/
theorem dispatched_interrupt (i : Interrupt) {arguments : Arguments}
    (number : arguments.intNumber = UInt32.ofNat i.vector.val) {s : State}
    (esp : s.registers.esp = callStack kernel.tss kernel.frame) :
    ∃ t, dispatched (kernel.keyboardIsr i.scancode) kernel.syscall arguments s = some t ∧
      ComesBack kernel.writes s t ∧
      Console.SameTerminal (kernel.statics.terminal t)
        (typed (kernel.statics.terminal s) (.interrupt i)) := by
  have quiet : ¬ i.vector.val = 0x30 := fun same => i.quiet (Fin.ext same)
  by_cases keyboard : i.vector.val = 0x21
  · have vector : i.vector = 0x21 := Fin.ext keyboard
    simp only [dispatched, typed, number, if_true, vector]
    exact kernel.keyboard i.scancode s esp
  · have other : i.vector ≠ 0x21 := fun same => keyboard (congrArg Fin.val same)
    have first : UInt32.ofNat i.vector.val ≠ 0x20 + 1 := fun same => keyboard ((number_eq i _).mp same)
    have second : UInt32.ofNat i.vector.val ≠ 0x30 := fun same => quiet ((number_eq i _).mp same)
    simp only [dispatched, typed, number, if_neg first, if_neg second, if_neg other]
    exact ⟨s, rfl, ⟨rfl, rfl, rfl, rfl, rfl, fun _ _ => rfl⟩, .refl _⟩

theorem kernel_room : 4 * (kernel.frame.words + 14) < 2 ^ 32 := by
  have place := kernel.stack _ (.inr (region_keyboardState (k := 0) (by decide)))
  have bound := UInt32.toNat_lt (kernel.tss.esp0 - 1 - (kernel.statics.keyboardState + UInt32.ofNat 0))
  omega

theorem serve_spec (i : Interrupt) {s : State} (outer : s.registers.ring ≠ 0) :
    ∃ t, kernel.serve i s = some t ∧ SameFor own t s ∧
      Console.SameTerminal (kernel.statics.terminal t)
        (typed (kernel.statics.terminal s) (.interrupt i)) := by
  have room := kernel_room kernel
  have words := pushes_outer outer
  have arguments := called_arguments (s := s) kernel.back (kernel.stubs i.vector) kernel.tss i.agree
  have entered := @enterFrame_pushed kernel.frame _ _ _ _
    (called_pushed_outer (s := s) kernel.back (kernel.stubs i.vector) kernel.tss i.agree outer)
  have crtc : ((s.called kernel.back (kernel.stubs i.vector) kernel.tss i.vector i.error).enterFrame
      kernel.frame).crtc = s.crtc :=
    enterFrame_crtc.trans (called_crtc kernel.back (kernel.stubs i.vector) kernel.tss)
  generalize entry : (s.called kernel.back (kernel.stubs i.vector) kernel.tss i.vector
    i.error).enterFrame kernel.frame = e at entered crtc
  rw [Nat.add_comm] at entered
  have esp : e.registers.esp = callStack kernel.tss kernel.frame := eq_sub_of_add_eq entered.depth
  obtain ⟨t, result, comes, terminal⟩ :=
    dispatched_interrupt kernel i (congrArg Arguments.intNumber arguments) esp
  have returns : Returns (kernel.frame.words + s.registers.pushes) kernel.writes
      (dispatched (kernel.keyboardIsr i.scancode) kernel.syscall
        (s.called kernel.back (kernel.stubs i.vector) kernel.tss i.vector i.error).arguments) e := by
    rw [words]
    refine ⟨fun k inside => ?_, t, result, comes⟩
    rw [esp]
    exact writes_apart (fun a static => kernel.stack a (.inr static)) inside
  rw [← entry] at returns
  obtain ⟨u, same, -, executed⟩ := execution_handler kernel.back (kernel.stubs i.vector) kernel.tss
    i.agree (by omega) returns
  rw [entry, result] at same
  obtain rfl := Option.some.inj same
  have before : ∀ a, own a ∨ kernel.statics.region a → e.memory a = s.memory a := fun a which =>
    entered.rest a (by have := kernel.stack a which; omega)
  have seen := @terminal_congr kernel.statics _ _ (fun a inside => before a (.inr inside)) crtc
  rw [seen, ← terminal_registers t s.registers] at terminal
  refine ⟨_, executed, ⟨rfl, fun a mine => ?_⟩, terminal⟩
  exact (comes.memory a (own_apart kernel mine)).trans (before a (.inl mine))

theorem step_terminal (s : State) :
    kernel.statics.terminal (program.step s) = kernel.statics.terminal s :=
  terminal_congr (fun a inside => program.leaves s a fun mine => kernel.apart a mine inside)
    (program.ports s)

/-- One event, for a program that runs without interrupts from a state that is the same to it. -/
theorem happen_spec (event : Event) {s t : State} (same : SameFor own s t)
    (outer : s.registers.ring ≠ 0) :
    ∃ u, happen program kernel s event = some u ∧ u.registers.ring ≠ 0 ∧
      SameFor own u (program.step^[steps [event]] t) ∧
      Console.SameTerminal (kernel.statics.terminal u) (typed (kernel.statics.terminal s) event) := by
  cases event with
  | step =>
      refine ⟨_, rfl, program.outer s outer, program.confined s t same, ?_⟩
      rw [step_terminal]
      exact .refl _
  | interrupt i =>
      obtain ⟨u, served, kept, terminal⟩ := serve_spec kernel i outer
      exact ⟨u, served, kept.registers ▸ outer, kept.trans same, terminal⟩

/-- The program computes from states that are the same to it, with and without interrupts. -/
theorem happen_same (events : List Event) {s t : State} {terminal : Console.Terminal}
    (same : SameFor own s t) (outer : s.registers.ring ≠ 0)
    (shown : Console.SameTerminal (kernel.statics.terminal s) terminal) :
    ∃ u, events.foldlM (happen program kernel) s = some u ∧
      SameFor own u (program.step^[steps events] t) ∧
      Console.SameTerminal (kernel.statics.terminal u) (events.foldl typed terminal) := by
  induction events generalizing s t terminal with
  | nil => exact ⟨s, rfl, same, shown⟩
  | cons event events ih =>
      obtain ⟨u, happened, still, kept, next⟩ := happen_spec program kernel event same outer
      obtain ⟨v, run, final, screen⟩ := ih kept still (next.trans (typed_same event shown))
      refine ⟨v, ?_, ?_, screen⟩
      · rw [List.foldlM_cons, happened]
        exact run
      · cases event with
        | step => exact final
        | interrupt i => exact final

/-- **Interrupts at any moments go unnoticed**, and so does the program: the run gets to
its end, where the registers and the memory of the program are those of its steps, and
the terminal that of the keystrokes. -/
theorem interrupts_unnoticed (events : List Event) (s : State) (outer : s.registers.ring ≠ 0) :
    ∃ u, events.foldlM (happen program kernel) s = some u ∧
      SameFor own u (program.step^[steps events] s) ∧
      Console.SameTerminal (kernel.statics.terminal u)
        (events.foldl typed (kernel.statics.terminal s)) :=
  happen_same program kernel events ⟨rfl, fun _ _ => rfl⟩ outer (.refl _)

end

/-! ### An instance -/

/-- A program of nothing but `nop`, in the first page. -/
def nops : Program (· < 0x400000) where
  step s := { s with registers := { s.registers with eip := s.registers.eip + 1 } }
  outer _ outer := outer
  confined _ _ same := ⟨by rw [same.registers], same.memory⟩
  leaves _ _ _ := rfl
  ports _ := rfl

/-- The frame of `main_interrupt_handler` with copies of its arguments. -/
def sampleFrame : StackFrame := ⟨16, fun s => s.memory⟩

theorem sample_region {a : UInt32} (inside : sampleStatics.region a) :
    0xC00B8000 ≤ a.toNat ∧ a.toNat < 0xC0108202 := by
  have bound := UInt32.toNat_lt a
  have screen : memoryFramebuffer.toNat = 0xC00B8000 := rfl
  have keyboard : sampleStatics.keyboardState.toNat = 0xC0108000 := rfl
  have lastKey : sampleStatics.lastKeyPressed.toNat = 0xC0108200 := rfl
  have makeCode : sampleStatics.makeCode.toNat = 0xC0108201 := rfl
  obtain cell | byte | rfl | rfl := inside
  · rw [UInt32.toNat_sub, screen] at cell
    omega
  · rw [UInt32.toNat_sub, keyboard] at byte
    omega
  · omega
  · omega

theorem sample_stack {a : UInt32} (inside : a < 0x400000 ∨ sampleStatics.region a) :
    4 * (16 + 14 + 100) ≤ ((0xC0200000 : UInt32) - 1 - a).toNat := by
  have top : ((0xC0200000 : UInt32) - 1).toNat = 0xC01FFFFF := rfl
  have bound : a.toNat < 0xC0108202 := by
    obtain low | static := inside
    · exact Nat.lt_trans (UInt32.lt_iff_toNat_lt.mp low) (by decide)
    · exact (sample_region static).2
  rw [UInt32.toNat_sub_of_le _ _ (UInt32.le_iff_toNat_le.mpr (by omega)), top]
  omega

theorem sample_apart {a : UInt32} (low : a < 0x400000) : ¬ sampleStatics.region a := by
  intro inside
  have bound : a.toNat < 0x400000 := UInt32.lt_iff_toNat_lt.mp low
  have := (sample_region inside).1
  omega

/-- The keyboard driver on its statics, with 100 words of stack. -/
def sampleKernel : Kernel (· < 0x400000) where
  tss := ⟨0, 0xC0200000, 0x10⟩
  stubs n := 0xC0101000 + 10 * UInt32.ofNat n.val
  back := 0xC0100020
  frame := sampleFrame
  statics := sampleStatics
  depth := 100
  keyboardIsr scancode := sampleStatics.run (Console.keyboardIsr scancode)
  syscall _ _ := fun _ => none
  keyboard _ := run_compiled _ _ _
  stack _ := sample_stack
  apart _ := sample_apart

/-- The timer. -/
def tick : Event :=
  .interrupt ⟨0x20, none, 0, rfl, Fin.ne_of_val_ne (Nat.ne_of_beq_eq_false rfl)⟩

def key (scancode : UInt8) : Event :=
  .interrupt ⟨0x21, none, scancode, rfl, Fin.ne_of_val_ne (Nat.ne_of_beq_eq_false rfl)⟩

/-- The timer, then a key that is pressed and released. -/
theorem interrupts_unnoticed_nops :
    ∃ u, [tick, .step, key 0x1E, .step, key 0x9E, .step].foldlM (happen nops sampleKernel) running =
        some u ∧
      SameFor (· < 0x400000) u (nops.step^[3] running) ∧
      Console.SameTerminal (sampleStatics.terminal u)
        (Console.keyboardIsr 0x9E (Console.keyboardIsr 0x1E (sampleStatics.terminal running))) :=
  interrupts_unnoticed nops sampleKernel _ running (by decide)

end HexOS.Traps
