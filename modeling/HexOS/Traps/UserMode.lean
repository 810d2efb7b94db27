import HexOS.Traps.SoftwareInterrupts

/-!
The way into the user program.

`set_tss_kernel_current_stack` makes the stack of its caller, `kernel_setup`, the stack
of all later interrupts; `kernel_execute_user_program` pushes the frame of an interrupt
that never was, and returns from it to the program. The segment registers other than
`cs` and `ss` are left out.
-/

namespace HexOS.Traps

open StackWords

/-! ### The flags of `add` -/

def flag (up : Bool) (bit : UInt32) : UInt32 := if up then bit else 0

/-- The carry, parity, adjust, zero, sign and overflow flags. -/
def arithmeticFlags : UInt32 := 0x8D5

/-- The number of ones in the low byte is even. -/
def evenParity (w : UInt32) : Bool := (List.range 8).countP w.toNat.testBit % 2 = 0

def addFlags (a b eflags : UInt32) : UInt32 :=
  let sum := a + b
  (eflags &&& ~~~arithmeticFlags) ||| flag (sum < a) 0x001 ||| flag (evenParity sum) 0x004 |||
    flag (sum &&& 0xF < a &&& 0xF) 0x010 ||| flag (sum = 0) 0x040 |||
    flag (sum &&& 0x80000000 ≠ 0) 0x080 |||
    flag ((a ^^^ sum) &&& (b ^^^ sum) &&& 0x80000000 ≠ 0) 0x800

/-- Whether the program can be interrupted does not change. -/
theorem addFlags_interrupt (a b eflags : UInt32) :
    addFlags a b eflags &&& interruptFlag = eflags &&& interruptFlag := by
  have apart : ∀ (w bit : UInt32) (up : Bool), bit &&& interruptFlag = 0 →
      (w ||| flag up bit) &&& interruptFlag = w &&& interruptFlag := by
    intro w bit up none
    cases up with
    | false => rw [flag, if_neg Bool.false_ne_true, UInt32.or_zero]
    | true =>
        have split : (w ||| bit) &&& interruptFlag = w &&& interruptFlag ||| bit &&& interruptFlag :=
          UInt32.toBitVec_inj.mp BitVec.and_or_distrib_right
        rw [flag, if_pos rfl, split, none, UInt32.or_zero]
  have kept : ~~~arithmeticFlags &&& interruptFlag = interruptFlag := by decide
  rw [addFlags, apart _ _ _ (by decide), apart _ _ _ (by decide), apart _ _ _ (by decide),
    apart _ _ _ (by decide), apart _ _ _ (by decide), apart _ _ _ (by decide), UInt32.and_assoc, kept]

/-! ### The two functions -/

/-- The memory that `set_tss_kernel_current_stack` leaves when it is called from `s`:
its frame holds the return address, `ebp` and `stack_ptr`. -/
def setTssKernelCurrentStack (tss back : UInt32) (s : State) : Memory :=
  let framed := (s.push back).push s.registers.ebp
  let stackPtr := framed.registers.esp
  store (framed.push stackPtr).memory (tss + 4) (stackPtr + 8)

/-- `GDT_USER_CODE_SELECTOR` and `GDT_USER_DATA_SELECTOR`, with user privilege. -/
def userCode : UInt32 := 0x18 ||| 0x3

def userData : UInt32 := 0x20 ||| 0x3

/-- The last word of the 4 MiB, from their start. -/
def userStack : UInt32 := 0x400000 - 4

/-- What `kernel_execute_user_program` does before its `iret`. Each word goes through
`eax`, and the flags are pushed behind the `add`. -/
def State.userFrame (s : State) : State :=
  let address := s.word 1
  let eflags := addFlags address userStack s.registers.eflags
  let framed :=
    ((((s.push userData).push (address + userStack)).push eflags).push userCode).push address
  { framed with registers := { framed.registers with eax := address, ecx := address, eflags } }

def kernelExecuteUserProgram (s : State) : State := s.userFrame.iret

/-- The registers with which the program at an address starts. -/
def Registers.started (r : Registers) (address : UInt32) : Registers :=
  { r with
    eax := address, ecx := address, eip := address, cs := userCode, ss := userData
    esp := address + userStack, eflags := addFlags address userStack r.eflags }

theorem started_outer (r : Registers) (address : UInt32) : (r.started address).ring ≠ 0 := by
  change userCode &&& 3 ≠ 0
  decide

section

variable {s : State}

theorem userFrame_registers : s.userFrame.registers =
    { s.registers with
      eax := s.word 1, ecx := s.word 1, esp := s.userFrame.registers.esp
      eflags := addFlags (s.word 1) userStack s.registers.eflags } := by
  simp only [State.userFrame, push_registers]

theorem userFrame_pushed {base : UInt32} {m : Memory} {k : Nat} (pushed : s.Pushed base m k) :
    s.userFrame.Pushed base m (k + 5) := by
  have framed := pushed_push (pushed_push (pushed_push (pushed_push (pushed_push pushed userData)
    (s.word 1 + userStack)) (addFlags (s.word 1) userStack s.registers.eflags)) userCode) (s.word 1)
  exact ⟨framed.depth, framed.rest⟩

theorem userFrame_frame : s.userFrame.Frame (s.registers.started (s.word 1)).saved := by
  rw [Registers.saved, if_neg (started_outer _ _)]
  have data := frame_push (holds_nil s.memory s.registers.esp) userData (by simp)
  have stack := frame_push data (s.word 1 + userStack) (by simp)
  have flags := frame_push stack (addFlags (s.word 1) userStack s.registers.eflags) (by simp)
  have code := frame_push flags userCode (by simp)
  exact frame_push code (s.word 1) (by simp)

/-- The program starts with the registers as set. -/
theorem kernelExecuteUserProgram_eq (kernel : s.registers.ring = 0) :
    kernelExecuteUserProgram s = ⟨s.registers.started (s.word 1), s.userFrame.memory, s.crtc⟩ := by
  have inner : s.userFrame.registers.ring = 0 := by
    rw [userFrame_registers]
    exact kernel
  rw [kernelExecuteUserProgram, iret_saved userFrame_frame inner, userFrame_registers]
  simp only [if_neg (started_outer _ _)]
  rfl

end

/-! ### From the kernel to the program -/

theorem setTss_stack (tss back : UInt32) (s : State) :
    load (setTssKernelCurrentStack tss back s) (tss + 4) = s.registers.esp := by
  have eight : (8 : UInt32) = 4 + 4 := rfl
  rw [setTssKernelCurrentStack, load_store]
  change s.registers.esp - 4 - 4 + 8 = s.registers.esp
  rw [eight, ← add_assoc, sub_add_cancel, sub_add_cancel]

section

variable {image : Image} {s u : State} {back : UInt32} {k : Nat}

/-- Later interrupts start on the stack of the caller of `set_tss_kernel_current_stack`. -/
theorem started_stack (kernel : u.registers.ring = 0)
    (pushed : u.Pushed s.registers.esp (setTssKernelCurrentStack image.tss back s) k)
    (apart : ∀ i < 12, 4 * (k + 5) ≤ (s.registers.esp - 1 - (image.tss + UInt32.ofNat i)).toNat) :
    (image.taskState (kernelExecuteUserProgram u).memory).esp0 = s.registers.esp := by
  have rest := (userFrame_pushed pushed).rest
  have same : load u.userFrame.memory (image.tss + 4) =
      load (setTssKernelCurrentStack image.tss back s) (image.tss + 4) := by
    refine ByteWords.word32_congr fun i small => rest _ ?_
    have four : image.tss + 4 + UInt32.ofNat i = image.tss + UInt32.ofNat (4 + i) :=
      add_ofNat image.tss 4 i
    rw [four]
    exact apart (4 + i) (by omega)
  rw [taskState_eq, kernelExecuteUserProgram_eq kernel]
  exact same.trans (setTss_stack image.tss back s)

/-- **The program runs as if alone from its first instruction.** The kernel has called
`set_tss_kernel_current_stack` at `s`, and `kernel_execute_user_program` with `k` words
pushed since. The program starts at the address passed, on the last word of its 4 MiB,
with interrupts as the kernel had them; they come on the stack at `s`, and however they
come, the program computes what it computes without them, and the keys are typed. -/
theorem program_starts {own : UInt32 → Prop} (program : Program own) (kernel : Kernel own)
    (inside : u.registers.ring = 0)
    (pushed : u.Pushed s.registers.esp (setTssKernelCurrentStack image.tss back s) k)
    (apart : ∀ i < 12, 4 * (k + 5) ≤ (s.registers.esp - 1 - (image.tss + UInt32.ofNat i)).toNat)
    (task : kernel.tss = image.taskState (kernelExecuteUserProgram u).memory)
    (events : List Event) :
    kernel.tss.esp0 = s.registers.esp ∧
      (kernelExecuteUserProgram u).registers = u.registers.started (u.word 1) ∧
      (kernelExecuteUserProgram u).registers.eflags &&& interruptFlag =
        u.registers.eflags &&& interruptFlag ∧
      ∃ v, events.foldlM (happen program kernel) (kernelExecuteUserProgram u) = some v ∧
        SameFor own v (program.step^[steps events] (kernelExecuteUserProgram u)) ∧
        Console.SameTerminal (kernel.statics.terminal v)
          (events.foldl typed (kernel.statics.terminal (kernelExecuteUserProgram u))) := by
  have started := kernelExecuteUserProgram_eq inside
  refine ⟨?_, ?_, ?_, ?_⟩
  · rw [task]
    exact started_stack inside pushed apart
  · rw [started]
  · rw [started]
    exact addFlags_interrupt _ _ _
  · rw [started]
    exact happen_same program kernel events ⟨rfl, fun _ _ => rfl⟩ (started_outer _ _) (.refl _)

end

/-! ### An instance -/

/-- The kernel on its stack. -/
def setup : State :=
  { running with registers := { running.registers with esp := 0xC0200000, cs := 8, ss := 0x10 } }

def stackSet : State :=
  { setup with memory := setTssKernelCurrentStack sampleImage.tss 0xC0101000 setup }

/-- The call of `kernel_execute_user_program` with address 0. -/
def calling : State := (stackSet.push 0).push 0xC0101010

theorem calling_pushed : calling.Pushed setup.registers.esp
    (setTssKernelCurrentStack sampleImage.tss 0xC0101000 setup) 2 := by
  have start : stackSet.Pushed setup.registers.esp
      (setTssKernelCurrentStack sampleImage.tss 0xC0101000 setup) 0 := pushed_zero rfl rfl
  exact pushed_push (pushed_push start 0) 0xC0101010

theorem calling_apart : ∀ i < 12, 4 * (2 + 5) ≤
    (setup.registers.esp - 1 - (sampleImage.tss + UInt32.ofNat i)).toNat := by
  decide

/-- The kernel with the stack that was set. -/
def startingKernel : Kernel (· < 0x400000) :=
  { sampleKernel with
    tss := sampleImage.taskState (kernelExecuteUserProgram calling).memory
    keyboard := fun _ => run_compiled _ _ _
    stack := fun a inside => by
      rw [started_stack rfl calling_pushed calling_apart]
      exact sample_stack inside }

theorem program_starts_nops :
    (kernelExecuteUserProgram calling).registers = calling.registers.started 0 ∧
      ∃ v, [tick, .step, key 0x1E, .step, tick].foldlM (happen nops startingKernel)
          (kernelExecuteUserProgram calling) = some v ∧
        SameFor (· < 0x400000) v (nops.step^[2] (kernelExecuteUserProgram calling)) := by
  have address : calling.word 1 = 0 :=
    frame_push (frame_push (holds_nil _ _) 0 (by simp)) 0xC0101010 (by simp) 1 (by simp)
  obtain ⟨-, started, -, v, run, same, -⟩ := program_starts nops startingKernel rfl calling_pushed
    calling_apart rfl [tick, .step, key 0x1E, .step, tick]
  rw [address] at started
  exact ⟨started, v, run, same⟩

end HexOS.Traps
