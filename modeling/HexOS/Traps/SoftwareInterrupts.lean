import HexOS.Console.Screen
import HexOS.Traps.Interleaving
import HexOS.Traps.Descriptors

/-!
The instruction `int n` of a user program.

`Image.int` is the instruction on the tables of the source: the processor checks the
gate of the vector, enters the stub that the gate leads to, and raises an exception
where the gate does not admit the program. `int_served` is about the vectors with a
gate for users, `int_refused` about all others: the exception comes back to the
instruction, so the program never gets behind it. `int_prints` joins the system calls
that print to the model of the terminal.
-/

namespace HexOS.Traps

open StackWords

/-! ### The kernel in memory -/

structure Image where
  /-- `isr_stub_table`. -/
  isrStubTable : Fin 64 → UInt32
  code : UInt32 → List Instruction
  /-- The address behind the call of `main_interrupt_handler`. -/
  back : UInt32
  linked : ∀ n, code (isrStubTable n) = isrStub back n
  /-- The frame of `main_interrupt_handler`. -/
  frame : StackFrame
  /-- The address of `_interrupt_tss_entry`. -/
  tss : UInt32

def Image.idt (image : Image) : InterruptDescriptorTable := initializeIdt image.isrStubTable emptyIdt

def Image.gdt (image : Image) : GlobalDescriptorTable :=
  gdtInstallTss image.tss globalDescriptorTable

/-- The TSS that `set_tss_register` has selected with 0x28. -/
def Image.taskState (image : Image) (m : Memory) : TSSEntry :=
  let base := UInt32.ofNat (readSegment (image.gdt tssIndex).bits).base
  ⟨load m base, load m (base + 4), load m (base + 8)⟩

/-! ### The instruction -/

/-- The exceptions of the checks. -/
def segmentNotPresent : Fin 64 := 11

def generalProtection : Fin 64 := 13

inductive Check where
  | entered (gate : Gate)
  | exception (i : Fin 64)

/-- The checks of the processor; only an instruction is held to the privilege level
of the gate. Gates of other types are not in the table. -/
def check (idt : InterruptDescriptorTable) (ring : Nat) (instruction : Bool) (n : Fin 256) : Check :=
  let gate := readGate (idt n).bits
  if gate.type ≠ interruptGate then .exception generalProtection
  else if instruction ∧ gate.dpl < ring then .exception generalProtection
  else if gate.present = 0 then .exception segmentNotPresent
  else .entered gate

/-- What the processor enters through a gate, up to the `iret`. -/
def Image.enter (image : Image) (handler : Routine) (error : Option UInt32) (s : State)
    (gate : Gate) : Option State :=
  let offset := UInt32.ofNat gate.offset
  execution handler (image.code offset)
    (s.interrupt (UInt32.ofNat gate.selector) offset (image.taskState s.memory) error)

/-- The program is behind its instruction of two bytes. -/
def State.behind (s : State) : State :=
  { s with registers := { s.registers with eip := s.registers.eip + 2 } }

theorem behind_registers (s : State) :
    s.behind.registers = { s.registers with eip := s.registers.eip + 2 } := rfl

theorem behind_memory (s : State) : s.behind.memory = s.memory := rfl

theorem behind_crtc (s : State) : s.behind.crtc = s.crtc := rfl

/-- `none` is an exception within the exception, or a handler that does not come back. -/
def Image.int (image : Image) (handler : Routine) (n : Fin 256) (s : State) : Option State :=
  match check image.idt s.registers.ring.toNat true n with
  | .entered gate => image.enter handler none s.behind gate
  | .exception i =>
      match check image.idt s.registers.ring.toNat false (vector i) with
      | .entered gate => image.enter handler (some (8 * UInt32.ofNat n.val + 2)) s gate
      | .exception _ => none

/-- The state in which `main_interrupt_handler` is entered, for an interrupt of `s`. -/
def Image.entry (image : Image) (i : Fin 64) (error : Option UInt32) (s : State) : State :=
  s.called image.back (image.isrStubTable i) (image.taskState s.memory) i error

/-- The bytes of the kernel's stack that all this takes up. -/
def Image.stackBytes (image : Image) : Nat := 4 * (image.frame.words + 14)

/-- The vectors with a gate for users. -/
def Open (n : Fin 256) : Prop := 0x30 ≤ n.val ∧ n.val ≤ 0x3F

/-! ### The checks on the tables of the source -/

section

variable (image : Image)

theorem taskState_eq (m : Memory) :
    image.taskState m = ⟨load m image.tss, load m (image.tss + 4), load m (image.tss + 8)⟩ := by
  have base : UInt32.ofNat (readSegment (image.gdt tssIndex).bits).base = image.tss := by
    rw [Image.gdt, tss_segment]
    exact UInt32.ofNat_toNat
  rw [Image.taskState, base]

theorem taskState_congr {m m' : Memory}
    (same : ∀ i < 12, m' (image.tss + UInt32.ofNat i) = m (image.tss + UInt32.ofNat i)) :
    image.taskState m' = image.taskState m := by
  have word : ∀ k ≤ 8, load m' (image.tss + UInt32.ofNat k) = load m (image.tss + UInt32.ofNat k) := by
    intro k small
    refine ByteWords.word32_congr fun i inside => ?_
    rw [add_ofNat]
    exact same (k + i) (by omega)
  have first := word 0 (by decide)
  have start : image.tss + UInt32.ofNat 0 = image.tss := add_zero image.tss
  rw [start] at first
  rw [taskState_eq, taskState_eq, first]
  exact congrArg₂ (TSSEntry.mk _) (word 4 (by decide)) (word 8 (by decide))

theorem enter_stub (handler : Routine) (error : Option UInt32) (s : State) (i : Fin 64) :
    image.enter handler error s (stubGate image.isrStubTable i) =
      execution handler (isrStub image.back i)
        (s.interrupt kernelCodeSegment (image.isrStubTable i) (image.taskState s.memory) error) := by
  have offset : UInt32.ofNat (stubGate image.isrStubTable i).offset = image.isrStubTable i :=
    UInt32.ofNat_toNat
  rw [Image.enter, offset, image.linked]
  rfl

/-- An exception gets to its stub from every ring. -/
theorem check_exception (ring : Nat) (i : Fin 64) :
    check image.idt ring false (vector i) = .entered (stubGate image.isrStubTable i) := by
  unfold check
  rw [Image.idt, gate_of_stub]
  rfl

theorem check_open {ring : Nat} (user : ring ≤ 3) {i : Fin 64} (free : Open (vector i)) :
    check image.idt ring true (vector i) = .entered (stubGate image.isrStubTable i) := by
  have level : (stubGate image.isrStubTable i).dpl = 3 := by
    have privilege : gatePrivilege i = 3 := if_pos free
    exact congrArg UInt8.toNat privilege
  unfold check
  rw [Image.idt, gate_of_stub, if_neg (fun other => other rfl), level,
    if_neg (fun lower => absurd lower.2 (Nat.not_lt.mpr user))]
  rfl

theorem check_closed {ring : Nat} (outer : 0 < ring) {n : Fin 256} (closed : ¬ Open n) :
    check image.idt ring true n = .exception generalProtection := by
  by_cases stub : n.val < 64
  · have level : (stubGate image.isrStubTable ⟨n.val, stub⟩).dpl = 0 := by
      have privilege : gatePrivilege ⟨n.val, stub⟩ = 0 := if_neg closed
      exact congrArg UInt8.toNat privilege
    have gate := gate_of_stub image.isrStubTable ⟨n.val, stub⟩
    have same : vector ⟨n.val, stub⟩ = n := rfl
    rw [same] at gate
    unfold check
    rw [Image.idt, gate, if_neg (fun other => other rfl), level, if_pos ⟨rfl, outer⟩]
  · unfold check
    rw [Image.idt, gate_of_other image.isrStubTable (Nat.le_of_not_lt stub), if_pos]
    exact Nat.ne_of_beq_eq_false rfl

end

/-! ### Served and refused -/

section

variable (image : Image) {keyboardIsr : Routine} {syscall : CPURegister → InterruptStack → Routine}

theorem ring_le (r : Registers) : r.ring.toNat ≤ 3 := by
  have masked : r.ring.toNat = r.cs.toNat % 2 ^ 2 := by
    rw [Registers.ring, ByteWords.toNat_and_mask r.cs 3 (k := 2) rfl]
  omega

theorem ring_pos {r : Registers} (outer : r.ring ≠ 0) : 0 < r.ring.toNat := by
  refine Nat.pos_of_ne_zero fun zero => outer ?_
  exact UInt32.toNat_inj.mp zero

theorem int_open (handler : Routine) {i : Fin 64} (free : Open (vector i)) (s : State) :
    image.int handler (vector i) s =
      execution handler (isrStub image.back i)
        (s.behind.interrupt kernelCodeSegment (image.isrStubTable i) (image.taskState s.memory)
          none) := by
  unfold Image.int
  rw [check_open image (ring_le s.registers) free]
  exact enter_stub image handler none s.behind i

theorem int_closed (handler : Routine) {n : Fin 256} (closed : ¬ Open n) {s : State}
    (outer : s.registers.ring ≠ 0) :
    image.int handler n s =
      execution handler (isrStub image.back generalProtection)
        (s.interrupt kernelCodeSegment (image.isrStubTable generalProtection)
          (image.taskState s.memory) (some (8 * UInt32.ofNat n.val + 2))) := by
  have protection := check_exception image s.registers.ring.toNat generalProtection
  unfold Image.int
  rw [check_closed image (ring_pos outer) closed]
  simp only
  rw [protection]
  exact enter_stub image handler _ s generalProtection

/-- The stubs of the open vectors expect no error code. -/
theorem open_agree {i : Fin 64} (free : Open (vector i)) :
    (none : Option UInt32).isSome = expectsErrorCode i := by
  have high : 0x30 ≤ i.val := free.1
  have small : i.val ∉ [8, 10, 11, 12, 13, 14, 17, 30] := by
    simp only [List.mem_cons, List.not_mem_nil, or_false]
    omega
  exact (decide_eq_false small).symm

/-- What the handler calls for the open vectors. -/
theorem dispatched_open {arguments : Arguments} {i : Fin 64}
    (number : arguments.intNumber = UInt32.ofNat i.val) (free : Open (vector i)) :
    dispatched keyboardIsr syscall arguments =
      if vector i = 0x30 then syscall arguments.cpu arguments.info else some := by
  have value : arguments.intNumber.toNat = i.val := by
    rw [number]
    exact UInt32.toNat_ofNat_of_lt' (Nat.lt_trans i.isLt (by decide))
  have notKeyboard : arguments.intNumber ≠ 0x20 + 1 := by
    intro same
    rw [same] at value
    have low : i.val = 33 := value.symm
    have high : 0x30 ≤ i.val := free.1
    omega
  rw [dispatched, if_neg notKeyboard]
  by_cases system : vector i = 0x30
  · have number' : i.val = 0x30 := congrArg Fin.val system
    rw [if_pos system, if_pos]
    exact UInt32.toNat_inj.mp (value.trans number')
  · rw [if_neg system, if_neg]
    intro same
    rw [same] at value
    exact system (Fin.ext value.symm)

section

variable {i : Fin 64} {error : Option UInt32} {s : State}

theorem entry_arguments (agree : error.isSome = expectsErrorCode i) :
    (image.entry i error s).arguments =
      ⟨⟨s.registers.eax, s.registers.ebx, s.registers.ecx, s.registers.edx, s.registers.ebp,
        (image.entry i error s).registers.esp + 28⟩, UInt32.ofNat i.val,
        ⟨error.getD 0, s.registers.eip, s.registers.cs, s.registers.eflags⟩⟩ :=
  called_arguments _ _ _ agree

theorem entry_pushed (agree : error.isSome = expectsErrorCode i) (outer : s.registers.ring ≠ 0) :
    (image.entry i error s).Pushed (image.taskState s.memory).esp0 s.memory 14 :=
  called_pushed_outer _ _ _ agree outer

/-- What the handler calls is entered below its frame. -/
theorem framed_pushed (agree : error.isSome = expectsErrorCode i) (outer : s.registers.ring ≠ 0) :
    ((image.entry i error s).enterFrame image.frame).Pushed (image.taskState s.memory).esp0 s.memory
      (image.frame.words + 14) := by
  rw [Nat.add_comm]
  exact enterFrame_pushed (entry_pushed image agree outer)

theorem framed_esp (agree : error.isSome = expectsErrorCode i) (outer : s.registers.ring ≠ 0) :
    ((image.entry i error s).enterFrame image.frame).registers.esp =
      callStack (image.taskState s.memory) image.frame :=
  eq_sub_of_add_eq (framed_pushed image agree outer).depth

theorem framed_crtc : ((image.entry i error s).enterFrame image.frame).crtc = s.crtc :=
  enterFrame_crtc.trans (called_crtc _ _ _)

/-- The stub with the handler of the source, from an outer ring. -/
theorem execution_entry {writes : UInt32 → Prop} (agree : error.isSome = expectsErrorCode i)
    (outer : s.registers.ring ≠ 0) (room : image.stackBytes < 2 ^ 32)
    (returns : Returns (image.frame.words + 14) writes
      (dispatched keyboardIsr syscall (image.entry i error s).arguments)
      ((image.entry i error s).enterFrame image.frame)) :
    ∃ t, dispatched keyboardIsr syscall (image.entry i error s).arguments
        ((image.entry i error s).enterFrame image.frame) = some t ∧
      (∀ a, image.stackBytes ≤ ((image.taskState s.memory).esp0 - 1 - a).toNat → ¬ writes a →
        t.memory a = s.memory a) ∧
      execution (mainInterruptHandler image.frame keyboardIsr syscall) (isrStub image.back i)
        (s.interrupt kernelCodeSegment (image.isrStubTable i) (image.taskState s.memory) error) =
        some { t with registers := s.registers } := by
  have words := pushes_outer outer
  rw [← words] at returns
  obtain ⟨t, result, comes, executed⟩ := execution_handler _ _ _ agree
    (by rw [words]; exact room) returns
  refine ⟨t, result, fun a far unwritten => ?_, executed⟩
  exact (comes.memory a unwritten).trans ((framed_pushed image agree outer).rest a far)

end

/-- The instruction on an open vector, for what the handler calls. -/
theorem int_resumes {i : Fin 64} (free : Open (vector i)) {s : State} (outer : s.registers.ring ≠ 0)
    (room : image.stackBytes < 2 ^ 32) {writes : UInt32 → Prop}
    (returns : Returns (image.frame.words + 14) writes
      (dispatched keyboardIsr syscall (image.entry i none s.behind).arguments)
      ((image.entry i none s.behind).enterFrame image.frame)) :
    ∃ t, dispatched keyboardIsr syscall (image.entry i none s.behind).arguments
        ((image.entry i none s.behind).enterFrame image.frame) = some t ∧
      (∀ a, image.stackBytes ≤ ((image.taskState s.memory).esp0 - 1 - a).toNat → ¬ writes a →
        t.memory a = s.memory a) ∧
      image.int (mainInterruptHandler image.frame keyboardIsr syscall) (vector i) s =
        some { t with registers := { s.registers with eip := s.registers.eip + 2 } } := by
  have still : s.behind.registers.ring ≠ 0 := by
    rw [behind_registers]
    exact outer
  obtain ⟨t, result, kept, executed⟩ := execution_entry image (open_agree free) still room returns
  rw [behind_memory] at kept executed
  rw [behind_registers] at executed
  refine ⟨t, result, kept, ?_⟩
  rw [int_open image _ free, executed]

/-- **A user's `int n` on an open vector** resumes behind the instruction with all
registers as they were. The vector 0x30 is the system call, which is given the
registers of the program, and has to come back; the others do nothing. -/
theorem int_served {i : Fin 64} (free : Open (vector i)) (s : State) (outer : s.registers.ring ≠ 0)
    (room : image.stackBytes < 2 ^ 32) {writes : UInt32 → Prop}
    (returns : vector i = 0x30 → Returns (image.frame.words + 14) writes
      (syscall (image.entry i none s.behind).arguments.cpu
        (image.entry i none s.behind).arguments.info)
      ((image.entry i none s.behind).enterFrame image.frame)) :
    (image.entry i none s.behind).arguments =
        ⟨⟨s.registers.eax, s.registers.ebx, s.registers.ecx, s.registers.edx, s.registers.ebp,
          (image.entry i none s.behind).registers.esp + 28⟩, UInt32.ofNat i.val,
          ⟨0, s.registers.eip + 2, s.registers.cs, s.registers.eflags⟩⟩ ∧
      (image.entry i none s.behind).Pushed (image.taskState s.memory).esp0 s.memory 14 ∧
      ∃ t, (if vector i = 0x30 then
            syscall (image.entry i none s.behind).arguments.cpu
              (image.entry i none s.behind).arguments.info
          else some) ((image.entry i none s.behind).enterFrame image.frame) = some t ∧
        (∀ a, image.stackBytes ≤ ((image.taskState s.memory).esp0 - 1 - a).toNat →
          (vector i = 0x30 → ¬ writes a) → t.memory a = s.memory a) ∧
        image.int (mainInterruptHandler image.frame keyboardIsr syscall) (vector i) s =
          some { t with registers := { s.registers with eip := s.registers.eip + 2 } } := by
  have still : s.behind.registers.ring ≠ 0 := by
    rw [behind_registers]
    exact outer
  have agree := open_agree free
  have arguments := entry_arguments (s := s.behind) image agree
  have number := congrArg Arguments.intNumber arguments
  have pushed := entry_pushed image agree still
  have called : Returns (image.frame.words + 14) (fun a => vector i = 0x30 ∧ writes a)
      (dispatched keyboardIsr syscall (image.entry i none s.behind).arguments)
      ((image.entry i none s.behind).enterFrame image.frame) := by
    rw [dispatched_open number free]
    by_cases system : vector i = 0x30
    · obtain ⟨apart, t, result, comes⟩ := returns system
      rw [if_pos system]
      exact ⟨fun k inside written => apart k inside written.2, t, result,
        comes.mono fun a written => ⟨system, written⟩⟩
    · rw [if_neg system]
      exact ⟨fun k _ written => system written.1, _, rfl, rfl, rfl, rfl, rfl, rfl, fun _ _ => rfl⟩
  obtain ⟨t, result, kept, resumed⟩ := int_resumes image free outer room called
  rw [dispatched_open number free] at result
  rw [behind_registers] at arguments
  rw [behind_memory] at pushed
  refine ⟨arguments, pushed, t, result, fun a far unwritten => ?_, resumed⟩
  exact kept a far fun written => unwritten written.1 written.2

/-- The exception of a refused instruction comes back to it. -/
theorem refused_step {n : Fin 256} (closed : ¬ Open n) {s : State} (outer : s.registers.ring ≠ 0)
    (room : image.stackBytes < 2 ^ 32) :
    ∃ m : Memory, image.int (mainInterruptHandler image.frame keyboardIsr syscall) n s =
        some ⟨s.registers, m, s.crtc⟩ ∧
      ∀ a, image.stackBytes ≤ ((image.taskState s.memory).esp0 - 1 - a).toNat → m a = s.memory a := by
  have agree : (some (8 * UInt32.ofNat n.val + 2)).isSome = expectsErrorCode generalProtection := rfl
  have number := congrArg Arguments.intNumber (entry_arguments (s := s) image agree)
  have ignored : ∀ arguments : Arguments, arguments.intNumber = 13 →
      dispatched keyboardIsr syscall arguments = some := by
    intro arguments same
    rw [dispatched, same, if_neg (by decide), if_neg (by decide)]
  have called : Returns (image.frame.words + 14) (fun _ => False)
      (dispatched keyboardIsr syscall
        (image.entry generalProtection (some (8 * UInt32.ofNat n.val + 2)) s).arguments)
      ((image.entry generalProtection (some (8 * UInt32.ofNat n.val + 2)) s).enterFrame
        image.frame) := by
    rw [ignored _ number]
    exact ⟨fun _ _ => not_false, _, rfl, rfl, rfl, rfl, rfl, rfl, fun _ _ => rfl⟩
  obtain ⟨t, result, kept, executed⟩ := execution_entry image agree outer room called
  rw [ignored _ number] at result
  have crtc : t.crtc = s.crtc := Option.some.inj result ▸ framed_crtc image
  refine ⟨t.memory, ?_, fun a far => kept a far not_false⟩
  rw [int_closed image _ closed outer, executed, ← crtc]

/-- **A user's `int n` on any other vector** never gets anywhere, however often it is
tried: the program stays at the instruction with all registers as they were. -/
theorem int_refused {n : Fin 256} (closed : ¬ Open n) (s : State) (outer : s.registers.ring ≠ 0)
    (room : image.stackBytes < 2 ^ 32)
    (apart : ∀ i < 12, image.stackBytes ≤ ((image.taskState s.memory).esp0 - 1 -
      (image.tss + UInt32.ofNat i)).toNat) (times : Nat) :
    ∃ m : Memory,
      (fun state => state.bind
        (image.int (mainInterruptHandler image.frame keyboardIsr syscall) n))^[times] (some s) =
        some ⟨s.registers, m, s.crtc⟩ ∧
      ∀ a, image.stackBytes ≤ ((image.taskState s.memory).esp0 - 1 - a).toNat → m a = s.memory a := by
  induction times with
  | zero => exact ⟨s.memory, rfl, fun _ _ => rfl⟩
  | succ times ih =>
      obtain ⟨m, stuck, kept⟩ := ih
      -- the TSS is still the same, so the exception uses the same bytes of the stack
      have task : image.taskState m = image.taskState s.memory :=
        taskState_congr image fun i small => kept _ (apart i small)
      obtain ⟨m', again, rest⟩ := @refused_step image keyboardIsr syscall n closed
        ⟨s.registers, m, s.crtc⟩ outer room
      refine ⟨m', ?_, fun a far => ?_⟩
      · rw [Function.iterate_succ_apply', stuck]
        exact again
      · rw [task] at rest
        exact (rest a far).trans (kept a far)

end

/-! ### The system calls that print -/

/-- System calls 5 and 6, with a string of at most 80 characters. -/
def printCall (cpu : CPURegister) (m : Memory) : Option Console.Input :=
  if short : cpu.ecx.toNat ≤ 80 then
    let text : Console.Text :=
      ⟨fun i => if i < cpu.ecx.toNat then m (cpu.ebx + UInt32.ofNat i) else 0, cpu.ecx, short⟩
    if cpu.eax = 5 then some (.putsLine text cpu.edx)
    else if cpu.eax = 6 then some (.puts text cpu.edx)
    else none
  else none

/-- `syscall`, compiled, prints as the model of the kernel does. -/
def Printing (statics : Statics) (depth : Nat) (stack : UInt32)
    (syscall : CPURegister → InterruptStack → Routine) : Prop :=
  ∀ cpu info s input filesystem status kernel, s.registers.esp = stack →
    printCall cpu s.memory = some input →
    Console.kernelStep ⟨statics.terminal s, filesystem⟩ input = .ok (status, kernel) →
    ∃ t, syscall cpu info s = some t ∧ ComesBack (statics.writes depth stack) s t ∧
      Console.SameTerminal (statics.terminal t) kernel.terminal

theorem printCall_congr {cpu : CPURegister} {m m' : Memory}
    (same : ∀ k < cpu.ecx.toNat, m' (cpu.ebx + UInt32.ofNat k) = m (cpu.ebx + UInt32.ofNat k)) :
    printCall cpu m' = printCall cpu m := by
  have string : (fun i => if i < cpu.ecx.toNat then m' (cpu.ebx + UInt32.ofNat i) else 0) =
      fun i => if i < cpu.ecx.toNat then m (cpu.ebx + UInt32.ofNat i) else 0 := by
    funext i
    split
    · exact same i ‹_›
    · rfl
  simp only [printCall, string]

/-- The program at `s` prints, and neither its string nor the terminal lies in the words that
the call takes up on the kernel's stack. -/
structure PrintsAt (image : Image) (statics : Statics) (depth : Nat) (s : State)
    (input : Console.Input) : Prop where
  call : printCall (image.entry 0x30 none s.behind).arguments.cpu s.memory = some input
  string : ∀ k < s.registers.ecx.toNat, image.stackBytes ≤
    ((image.taskState s.memory).esp0 - 1 - (s.registers.ebx + UInt32.ofNat k)).toNat
  stack : ∀ a, statics.region a → 4 * (image.frame.words + 14 + depth) ≤
    ((image.taskState s.memory).esp0 - 1 - a).toNat

section

variable {image : Image} {syscall : CPURegister → InterruptStack → Routine} {statics : Statics}
  {depth : Nat} {s : State} {input : Console.Input}

theorem prints_room (prints : PrintsAt image statics depth s input) : image.stackBytes < 2 ^ 32 := by
  have place := prints.stack _ (region_keyboardState (k := 0) (by decide))
  exact Nat.lt_of_le_of_lt (Nat.le_trans (Nat.mul_le_mul_left 4 (Nat.le_add_right _ _)) place)
    (UInt32.toNat_lt _)

/-- The system call prints what the string was before the interrupt, where the cursor was. -/
theorem system_prints (printing : Printing statics depth
      (callStack (image.taskState s.memory) image.frame) syscall)
    (prints : PrintsAt image statics depth s input) (outer : s.registers.ring ≠ 0)
    (filesystem : Fat32.Driver) :
    ∃ status kernel t,
      Console.kernelStep ⟨statics.terminal s, filesystem⟩ input = .ok (status, kernel) ∧
      syscall (image.entry 0x30 none s.behind).arguments.cpu
        (image.entry 0x30 none s.behind).arguments.info
        ((image.entry 0x30 none s.behind).enterFrame image.frame) = some t ∧
      ComesBack (statics.writes depth (callStack (image.taskState s.memory) image.frame))
        ((image.entry 0x30 none s.behind).enterFrame image.frame) t ∧
      Console.SameTerminal (statics.terminal t) kernel.terminal := by
  have agree : (none : Option UInt32).isSome = expectsErrorCode 0x30 := rfl
  have still : s.behind.registers.ring ≠ 0 := by
    rw [behind_registers]
    exact outer
  have arguments := entry_arguments (s := s.behind) image agree
  have entered := framed_pushed image agree still
  have crtc := @framed_crtc image 0x30 none s.behind
  have esp := framed_esp image agree still
  have call := prints.call
  rw [behind_memory] at entered esp
  rw [behind_crtc] at crtc
  rw [behind_registers] at arguments
  obtain ⟨⟨status, kernel⟩, step⟩ :=
    Console.kernelStep_returns ⟨statics.terminal s, filesystem⟩ input
  have seen := @terminal_congr statics _ _
    (fun a inside => entered.rest a (by have := prints.stack a inside; omega)) crtc
  have string : printCall (image.entry 0x30 none s.behind).arguments.cpu
      ((image.entry 0x30 none s.behind).enterFrame image.frame).memory = some input := by
    rw [← call]
    refine printCall_congr fun k inside => ?_
    rw [arguments] at inside ⊢
    exact entered.rest _ (prints.string k inside)
  rw [← seen] at step
  obtain ⟨t, result, comes, terminal⟩ := printing _ (image.entry 0x30 none s.behind).arguments.info _ _
    _ _ _ esp string step
  exact ⟨status, kernel, t, seen ▸ step, result, comes, terminal⟩

/-- It comes back without a store to the words on the stack. -/
theorem printing_returns (printing : Printing statics depth
      (callStack (image.taskState s.memory) image.frame) syscall)
    (prints : PrintsAt image statics depth s input) (outer : s.registers.ring ≠ 0) :
    Returns (image.frame.words + 14)
      (statics.writes depth (callStack (image.taskState s.memory) image.frame))
      (syscall (image.entry 0x30 none s.behind).arguments.cpu
        (image.entry 0x30 none s.behind).arguments.info)
      ((image.entry 0x30 none s.behind).enterFrame image.frame) := by
  have still : s.behind.registers.ring ≠ 0 := by
    rw [behind_registers]
    exact outer
  have esp := @framed_esp image 0x30 none s.behind rfl still
  obtain ⟨-, -, t, -, result, comes, -⟩ :=
    system_prints printing prints outer (Fat32.poweredOn Fat32.blankDisk)
  rw [behind_memory] at esp
  refine ⟨fun k inside => ?_, t, result, comes⟩
  rw [esp]
  exact writes_apart prints.stack inside

/-- **A user's `int 0x30` for system call 5 or 6** prints its string as the model of the kernel
does, and the program goes on behind it with all registers as they were. -/
theorem int_prints {keyboardIsr : Routine} (printing : Printing statics depth
      (callStack (image.taskState s.memory) image.frame) syscall)
    (prints : PrintsAt image statics depth s input) (outer : s.registers.ring ≠ 0)
    (filesystem : Fat32.Driver) :
    ∃ status kernel t,
      Console.kernelStep ⟨statics.terminal s, filesystem⟩ input = .ok (status, kernel) ∧
      image.int (mainInterruptHandler image.frame keyboardIsr syscall) 0x30 s = some t ∧
      t.registers = { s.registers with eip := s.registers.eip + 2 } ∧
      Console.SameTerminal (statics.terminal t) kernel.terminal := by
  have free : Open (vector 0x30) := by
    unfold Open
    decide
  obtain ⟨status, kernel, t, step, result, comes, terminal⟩ :=
    system_prints printing prints outer filesystem
  have number := congrArg Arguments.intNumber
    (@entry_arguments image 0x30 none s.behind rfl)
  have called := @dispatched_open keyboardIsr syscall _ _ number free
  have system : vector 0x30 = 0x30 := rfl
  have returns := printing_returns printing prints outer
  rw [if_pos system] at called
  rw [← called] at returns
  obtain ⟨u, same, -, resumed⟩ := int_resumes image free outer (prints_room prints) returns
  rw [called, result] at same
  obtain rfl := Option.some.inj same
  rw [← terminal_registers t { s.registers with eip := s.registers.eip + 2 }] at terminal
  exact ⟨status, kernel, _, step, resumed, rfl, terminal⟩

end

/-! ### An instance -/

theorem stub_address : ∀ n : Fin 64,
    Fin.ofNat 64 ((0xC0101000 + 16 * UInt32.ofNat n.val - 0xC0101000).toNat / 16) = n := by
  decide

/-- Stubs of 16 bytes. -/
def sampleImage : Image where
  isrStubTable n := 0xC0101000 + 16 * UInt32.ofNat n.val
  code a := isrStub 0xC0100020 (Fin.ofNat 64 ((a - 0xC0101000).toNat / 16))
  back := 0xC0100020
  linked n := congrArg (isrStub 0xC0100020) (stub_address n)
  frame := sampleFrame
  tss := 0xC0300000

/-- The stack of the TSS is set, and the program prints one character. -/
def prepared : State :=
  ⟨{ running.registers with eax := 6, ebx := 0x2000, ecx := 1, edx := 0xF },
    store running.memory 0xC0300004 0xC0200000, running.crtc⟩

theorem prepared_stack : (sampleImage.taskState prepared.memory).esp0 = 0xC0200000 := by
  rw [taskState_eq]
  exact load_store running.memory 0xC0300004 0xC0200000

/-- What printing does to the terminal, whatever the file system. -/
def printedTerminal (filesystem : Fat32.Driver) (input : Console.Input) (t : Console.Terminal) :
    Console.Terminal :=
  match Console.kernelStep ⟨t, filesystem⟩ input with
  | .ok (_, kernel) => kernel.terminal
  | .error _ => t

/-- The calls that print, and no others. -/
def sampleSyscall (filesystem : Fat32.Driver) : CPURegister → InterruptStack → Routine :=
  fun cpu _ s =>
    match printCall cpu s.memory with
    | some input => sampleStatics.run (printedTerminal filesystem input) s
    | none => none

theorem printedTerminal_eq {cpu : CPURegister} {m : Memory} {input : Console.Input}
    (call : printCall cpu m = some input) (filesystem : Fat32.Driver) {other : Fat32.Driver}
    {t : Console.Terminal} {status : Int} {kernel : Console.Kernel}
    (step : Console.kernelStep ⟨t, other⟩ input = .ok (status, kernel)) :
    printedTerminal filesystem input t = kernel.terminal := by
  have kinds : (∃ text color, input = .putsLine text color) ∨
      ∃ text color, input = .puts text color := by
    simp only [printCall] at call
    split at call
    · split at call
      · exact .inl ⟨_, _, (Option.some.inj call).symm⟩
      · split at call
        · exact .inr ⟨_, _, (Option.some.inj call).symm⟩
        · cases call
    · cases call
  obtain ⟨text, color, rfl⟩ | ⟨text, color, rfl⟩ := kinds
  all_goals
    simp only [printedTerminal, Console.kernelStep, Console.syscall] at step ⊢
    generalize Console.puts text.str text.len color _ _ _ = printed at step ⊢
    cases printed with
    | ok screen => cases step; rfl
    | error fault => cases step

theorem sample_printing (filesystem : Fat32.Driver) (depth : Nat) (stack : UInt32) :
    Printing sampleStatics depth stack (sampleSyscall filesystem) := by
  intro cpu info s input other status kernel esp call step
  obtain ⟨t, result, comes, terminal⟩ :=
    run_compiled (printedTerminal filesystem input) depth stack s esp
  refine ⟨t, ?_, comes, ?_⟩
  · simp only [sampleSyscall, call, result]
  · rwa [printedTerminal_eq call filesystem step] at terminal

theorem prepared_prints : ∃ input, PrintsAt sampleImage sampleStatics 100 prepared input := by
  have arguments := @entry_arguments sampleImage 0x30 none prepared.behind rfl
  have call : ∃ input, printCall (sampleImage.entry 0x30 none prepared.behind).arguments.cpu
      prepared.memory = some input := by
    rw [arguments]
    exact ⟨_, rfl⟩
  obtain ⟨input, call⟩ := call
  refine ⟨input, call, fun k inside => ?_, fun a static => ?_⟩
  · have first : k = 0 := Nat.lt_one_iff.mp inside
    rw [prepared_stack, first]
    decide
  · rw [prepared_stack]
    exact sample_stack (.inr static)

/-- The character is printed. -/
theorem int_served_syscall :
    ∃ t : State, sampleImage.int (mainInterruptHandler sampleFrame (fun _ => none)
        (sampleSyscall (Fat32.poweredOn Fat32.blankDisk))) 0x30 prepared =
      some { t with registers := { prepared.registers with eip := 0x1002 } } := by
  obtain ⟨input, prints⟩ := prepared_prints
  have printing := sample_printing (Fat32.poweredOn Fat32.blankDisk) 100
    (callStack (sampleImage.taskState prepared.memory) sampleImage.frame)
  have free : Open (vector 0x30) := by
    unfold Open
    decide
  have outer : prepared.registers.ring ≠ 0 := by decide
  have returns := printing_returns printing prints outer
  obtain ⟨-, -, t, -, -, served⟩ := @int_served sampleImage (fun _ => none)
    (sampleSyscall (Fat32.poweredOn Fat32.blankDisk)) 0x30 free prepared outer (prints_room prints) _
    fun _ => returns
  exact ⟨t, served⟩

/-- `int 0x80`, three times. -/
theorem int_refused_other :
    ∃ m : Memory,
      (fun state => state.bind (sampleImage.int (mainInterruptHandler sampleFrame (fun _ => none)
        (sampleSyscall (Fat32.poweredOn Fat32.blankDisk))) 0x80))^[3] (some prepared) =
        some ⟨prepared.registers, m, prepared.crtc⟩ ∧
      ∀ a, 4 * (16 + 14) ≤ ((sampleImage.taskState prepared.memory).esp0 - 1 - a).toNat →
        m a = prepared.memory a :=
  int_refused sampleImage (n := 0x80) (by unfold Open; decide) prepared (by decide) (by decide)
    (by rw [prepared_stack]; decide) 3

end HexOS.Traps
