import HexOS.Traps.Processor
import HexOS.Fat32.Layout

/-!
The interrupt stubs of `intsetup.s`.

Each stub pushes the number of its interrupt, and a 0 where it expects no error
code from the processor; the common part saves the registers, calls
`main_interrupt_handler` with all of it as arguments, and takes everything back.
`stub_transparent` shows that the interrupted program does not notice, provided
the processor has pushed an error code exactly where the stub expects one, and the
handler comes back from this call without a store to the words on its stack.
-/

namespace HexOS.Traps

open StackWords

/-! ### The code -/

/-- `back` is the address behind the call. -/
def callGenericHandler (back : UInt32) : List Instruction :=
  [.push .esp, .push .ebp, .push .edx, .push .ecx, .push .ebx, .push .eax,
    .call back,
    .pop .eax, .pop .ebx, .pop .ecx, .pop .edx, .pop .ebp, .pop .esp,
    .addEsp 8, .sti, .iret]

def noErrorCodeInterruptHandler (back n : UInt32) : List Instruction :=
  [.pushDword 0, .pushDword n] ++ callGenericHandler back

def errorCodeInterruptHandler (back n : UInt32) : List Instruction :=
  [.pushDword n] ++ callGenericHandler back

/-- The stubs made with the macro for an error code. -/
def expectsErrorCode (n : Fin 64) : Bool := n.val ∈ [8, 10, 11, 12, 13, 14, 17, 30]

/-- `isr_stub_table`, with the code of the stubs for their addresses. -/
def isrStub (back : UInt32) (n : Fin 64) : List Instruction :=
  if expectsErrorCode n then errorCodeInterruptHandler back (UInt32.ofNat n.val)
  else noErrorCodeInterruptHandler back (UInt32.ofNat n.val)

/-! ### The handler -/

structure CPURegister where
  eax : UInt32
  ebx : UInt32
  ecx : UInt32
  edx : UInt32
  ebp : UInt32
  esp : UInt32

structure InterruptStack where
  errorCode : UInt32
  eip : UInt32
  cs : UInt32
  eflags : UInt32

/-- The arguments of `main_interrupt_handler`, which lie on the stack in this order. -/
structure Arguments where
  cpu : CPURegister
  intNumber : UInt32
  info : InterruptStack

/-- The arguments at the entry, behind the return address. -/
def State.arguments (s : State) : Arguments :=
  ⟨⟨s.word 1, s.word 2, s.word 3, s.word 4, s.word 5, s.word 6⟩, s.word 7,
    ⟨s.word 8, s.word 9, s.word 10, s.word 11⟩⟩

theorem frame_arguments {s : State} {back eax ebx ecx edx ebp esp n code eip cs eflags : UInt32}
    {ws : List UInt32}
    (frame : s.Frame
      (back :: eax :: ebx :: ecx :: edx :: ebp :: esp :: n :: code :: eip :: cs :: eflags :: ws)) :
    s.arguments = ⟨⟨eax, ebx, ecx, edx, ebp, esp⟩, n, ⟨code, eip, cs, eflags⟩⟩ := by
  have inside : ∀ i < 12, i < (back :: eax :: ebx :: ecx :: edx :: ebp :: esp :: n :: code :: eip ::
      cs :: eflags :: ws).length := by
    intro i small
    simp only [List.length_cons]
    omega
  have word1 : s.word 1 = eax := frame 1 (inside 1 (by decide))
  have word2 : s.word 2 = ebx := frame 2 (inside 2 (by decide))
  have word3 : s.word 3 = ecx := frame 3 (inside 3 (by decide))
  have word4 : s.word 4 = edx := frame 4 (inside 4 (by decide))
  have word5 : s.word 5 = ebp := frame 5 (inside 5 (by decide))
  have word6 : s.word 6 = esp := frame 6 (inside 6 (by decide))
  have word7 : s.word 7 = n := frame 7 (inside 7 (by decide))
  have word8 : s.word 8 = code := frame 8 (inside 8 (by decide))
  have word9 : s.word 9 = eip := frame 9 (inside 9 (by decide))
  have word10 : s.word 10 = cs := frame 10 (inside 10 (by decide))
  have word11 : s.word 11 = eflags := frame 11 (inside 11 (by decide))
  rw [State.arguments, word1, word2, word3, word4, word5, word6, word7, word8, word9, word10, word11]

/-- The stack frame of a compiled function: copies of arguments, saved registers and a return
address of its own, whatever they are. -/
structure StackFrame where
  words : Nat
  contents : State → Memory

def State.enterFrame (frame : StackFrame) (s : State) : State :=
  { s with
    registers := { s.registers with esp := s.registers.esp - UInt32.ofNat (4 * frame.words) }
    memory := fun a =>
      if (s.registers.esp - 1 - a).toNat < 4 * frame.words then frame.contents s a else s.memory a }

/-- `main_interrupt_handler`, with the two functions it calls from its frame. -/
def mainInterruptHandler (frame : StackFrame) (keyboardIsr : Routine)
    (syscall : CPURegister → InterruptStack → Routine) : Routine := fun s =>
  let arguments := s.arguments
  let entered := s.enterFrame frame
  let returned :=
    if arguments.intNumber = 0x20 + 1 then keyboardIsr entered
    else if arguments.intNumber = 0x30 then syscall arguments.cpu arguments.info entered
    else some entered
  returned.map (State.drop (UInt32.ofNat (4 * frame.words)))

/-- What the handler calls. -/
def dispatched (keyboardIsr : Routine) (syscall : CPURegister → InterruptStack → Routine)
    (arguments : Arguments) : Routine :=
  if arguments.intNumber = 0x20 + 1 then keyboardIsr
  else if arguments.intNumber = 0x30 then syscall arguments.cpu arguments.info
  else some

section

variable {frame : StackFrame} {keyboardIsr : Routine}
  {syscall : CPURegister → InterruptStack → Routine} {s : State}

theorem mainInterruptHandler_eq : mainInterruptHandler frame keyboardIsr syscall s =
    (dispatched keyboardIsr syscall s.arguments (s.enterFrame frame)).map
      (State.drop (UInt32.ofNat (4 * frame.words))) := by
  simp only [mainInterruptHandler, dispatched]
  split
  · rfl
  · split <;> rfl

theorem enterFrame_depth :
    (s.enterFrame frame).registers.esp + UInt32.ofNat (4 * frame.words) = s.registers.esp :=
  sub_add_cancel _ _

theorem enterFrame_crtc : (s.enterFrame frame).crtc = s.crtc := rfl

/-- The frame lies below what was pushed before. -/
theorem enterFrame_pushed {base : UInt32} {m : Memory} {k : Nat} (pushed : s.Pushed base m k) :
    (s.enterFrame frame).Pushed base m (k + frame.words) := by
  constructor
  · have total : UInt32.ofNat (4 * (k + frame.words)) =
        UInt32.ofNat (4 * frame.words) + UInt32.ofNat (4 * k) := by
      rw [← UInt32.ofNat_add]
      congr 1
      omega
    rw [total, ← add_assoc, enterFrame_depth]
    exact pushed.depth
  · intro a far
    have below := below_of_below (a := a) (n := 4 * frame.words) pushed.depth (by omega)
    have kept : (s.enterFrame frame).memory a = s.memory a := if_neg (by omega)
    exact kept.trans (pushed.rest a (by omega))

/-- The handler comes back if what it calls does, and writes to its frame besides. -/
theorem mainInterruptHandler_returns {words : Nat} {writes : UInt32 → Prop} {t : State}
    (room : 4 * (frame.words + words) < 2 ^ 32)
    (apart : ∀ i < 4 * (frame.words + words),
      ¬ writes ((s.enterFrame frame).registers.esp + UInt32.ofNat i))
    (result : dispatched keyboardIsr syscall s.arguments (s.enterFrame frame) = some t)
    (comes : ComesBack writes (s.enterFrame frame) t) :
    Returns words (fun a => writes a ∨ (s.registers.esp - 1 - a).toNat < 4 * frame.words)
      (mainInterruptHandler frame keyboardIsr syscall) s := by
  refine ⟨fun i inside => not_or.mpr ⟨?_, not_below _ (by omega)⟩,
    t.drop (UInt32.ofNat (4 * frame.words)), ?_, ?_⟩
  · have place : s.registers.esp + UInt32.ofNat i =
        (s.enterFrame frame).registers.esp + UInt32.ofNat (4 * frame.words + i) := by
      rw [← add_ofNat, enterFrame_depth]
    rw [place]
    exact apart _ (by omega)
  · rw [mainInterruptHandler_eq, result]
    rfl
  · refine ⟨?_, comes.esi, comes.edi, comes.cs, comes.ss, fun a other => ?_⟩
    · change t.registers.esp + UInt32.ofNat (4 * frame.words) = s.registers.esp
      rw [comes.esp, enterFrame_depth]
    · obtain ⟨unwritten, above⟩ := not_or.mp other
      have kept : (s.enterFrame frame).memory a = s.memory a := if_neg above
      exact (comes.memory a unwritten).trans kept

end

/-! ### The common part -/

theorem callGenericHandler_eq (back : UInt32) : callGenericHandler back =
    [.push .esp, .push .ebp, .push .edx, .push .ecx, .push .ebx, .push .eax] ++ ([.call back] ++
      ([.pop .eax, .pop .ebx, .pop .ecx, .pop .edx, .pop .ebp, .pop .esp, .addEsp 8, .sti] ++
        [.iret])) := rfl

/-- The state in which the stub calls the handler. -/
def State.pushAll (s : State) : State :=
  (((((s.push s.registers.esp).push s.registers.ebp).push s.registers.edx).push
    s.registers.ecx).push s.registers.ebx).push s.registers.eax

theorem execution_pushAll (function : Routine) (s : State) :
    execution function [.push .esp, .push .ebp, .push .edx, .push .ecx, .push .ebx, .push .eax] s =
      some s.pushAll := by
  simp only [execution_cons, execution_nil, execute, Option.bind_some, Registers.get, push_registers,
    State.pushAll]

/-- From the return of the handler to `iret`. -/
theorem popAll_spec (function : Routine) (t : State) :
    execution function [.pop .eax, .pop .ebx, .pop .ecx, .pop .edx, .pop .ebp, .pop .esp, .addEsp 8,
      .sti] t =
      some { t with registers := { t.registers with
        eax := t.word 0, ebx := t.word 1, ecx := t.word 2, edx := t.word 3, ebp := t.word 4
        esp := t.word 5 + 8, eflags := t.registers.eflags ||| interruptFlag } } := by
  simp only [execution_cons, execution_nil, execute, Option.bind_some, Registers.set, State.drop,
    State.word, ← slot_succ]

section

variable {function : Routine} {s : State} {n code back : UInt32} {r : Registers}

theorem length_saved (r : Registers) : r.saved.length ≤ 5 := by
  unfold Registers.saved
  split <;> simp

/-- What the stub has put on the stack for the handler. -/
def argumentWords (r : Registers) (n code : UInt32) : List UInt32 :=
  [r.eax, r.ebx, r.ecx, r.edx, r.ebp, r.esp, n, code]

theorem pushAll_registers (s : State) :
    s.pushAll.registers = { s.registers with esp := s.pushAll.registers.esp } := by
  simp only [State.pushAll, push_registers]

theorem pushAll_crtc (s : State) : s.pushAll.crtc = s.crtc := by
  simp only [State.pushAll, push_crtc]

theorem length_argumentWords : (argumentWords r n code).length = 8 := rfl

theorem pushAll_frame (frame : s.Frame (n :: code :: r.saved)) :
    s.pushAll.Frame (argumentWords s.registers n code ++ r.saved) := by
  have few := length_saved r
  have esp := frame_push frame s.registers.esp (by simp only [List.length_cons]; omega)
  have ebp := frame_push esp s.registers.ebp (by simp only [List.length_cons]; omega)
  have edx := frame_push ebp s.registers.edx (by simp only [List.length_cons]; omega)
  have ecx := frame_push edx s.registers.ecx (by simp only [List.length_cons]; omega)
  have ebx := frame_push ecx s.registers.ebx (by simp only [List.length_cons]; omega)
  exact frame_push ebx s.registers.eax (by simp only [List.length_cons]; omega)

theorem pushAll_esp (s : State) :
    s.registers.esp = s.pushAll.registers.esp + UInt32.ofNat (4 * 6) := by
  have total : UInt32.ofNat (4 * 6) = 4 + 4 + 4 + 4 + 4 + 4 := rfl
  change s.registers.esp = s.registers.esp - 4 - 4 - 4 - 4 - 4 - 4 + UInt32.ofNat (4 * 6)
  rw [total]
  simp only [← add_assoc, sub_add_cancel]

/-- The handler has returned to `t`: the registers of the call are back, and the
stack pointer is behind the number and the error code. -/
theorem popAll_arguments (f : Routine) {t : State}
    (frame : t.Frame (argumentWords s.registers n code ++ r.saved))
    (esi : t.registers.esi = s.registers.esi) (edi : t.registers.edi = s.registers.edi)
    (cs : t.registers.cs = s.registers.cs) (ss : t.registers.ss = s.registers.ss) :
    execution f [.pop .eax, .pop .ebx, .pop .ecx, .pop .edx, .pop .ebp, .pop .esp,
      .addEsp 8, .sti] t =
      some ⟨{ s.registers with
        esp := s.registers.esp + 8
        eip := t.registers.eip
        eflags := t.registers.eflags ||| interruptFlag }, t.memory, t.crtc⟩ := by
  have eax : t.word 0 = s.registers.eax := frame 0 (by simp [argumentWords])
  have ebx : t.word 1 = s.registers.ebx := frame 1 (by simp [argumentWords])
  have ecx : t.word 2 = s.registers.ecx := frame 2 (by simp [argumentWords])
  have edx : t.word 3 = s.registers.edx := frame 3 (by simp [argumentWords])
  have ebp : t.word 4 = s.registers.ebp := frame 4 (by simp [argumentWords])
  have esp : t.word 5 = s.registers.esp := frame 5 (by simp [argumentWords])
  simp only [popAll_spec, eax, ebx, ecx, edx, ebp, esp, esi, edi, cs, ss]

/-- The common part calls the handler with the words of the stack, and goes back
with what was saved behind them. -/
theorem generic_spec {writes : UInt32 → Prop} (kernel : s.registers.ring = 0)
    (frame : s.Frame (n :: code :: r.saved))
    (returns : Returns (r.saved.length + 9) writes function (s.pushAll.push back)) :
    ∃ t, function (s.pushAll.push back) = some t ∧ ComesBack writes (s.pushAll.push back) t ∧
      execution function (callGenericHandler back) s =
        some ⟨{ s.registers with
          eip := r.eip, cs := r.cs, eflags := r.eflags
          esp := if r.ring = 0 then s.registers.esp + 8 + 12 else r.esp
          ss := if r.ring = 0 then s.registers.ss else r.ss }, t.memory, t.crtc⟩ := by
  have few := length_saved r
  have arguments := pushAll_frame frame
  have length : (argumentWords s.registers n code ++ r.saved).length + 1 = r.saved.length + 9 := by
    rw [List.length_append, length_argumentWords]
    omega
  rw [← length] at returns
  obtain ⟨t, result, comes, called, left⟩ := call_returns arguments (by omega) returns
  have returned : (t.drop 4).registers.esp = s.pushAll.registers.esp := by
    change t.registers.esp + 4 = s.pushAll.registers.esp
    rw [comes.esp, push_registers]
    exact sub_add_cancel _ _
  have saved : Holds t.memory (s.registers.esp + 8) r.saved := by
    have behind := holds_behind left
    have place : (t.drop 4).registers.esp + UInt32.ofNat (4 * 8) = s.registers.esp + 8 := by
      rw [returned, pushAll_esp s]
      exact (add_ofNat _ (4 * 6) 8).symm
    rw [length_argumentWords] at behind
    exact place ▸ behind
  have popped := popAll_arguments function left
    (comes.esi.trans (by rw [push_registers, pushAll_registers]))
    (comes.edi.trans (by rw [push_registers, pushAll_registers]))
    (comes.cs.trans (by rw [push_registers, pushAll_registers]))
    (comes.ss.trans (by rw [push_registers, pushAll_registers]))
  have resumed := iret_saved (s := ⟨{ s.registers with
        esp := s.registers.esp + 8
        eip := t.registers.eip
        eflags := t.registers.eflags ||| interruptFlag }, t.memory, t.crtc⟩) saved kernel
  refine ⟨t, result, comes, ?_⟩
  rw [callGenericHandler_eq, execution_append, execution_pushAll, Option.bind_some, execution_append,
    execution_cons, called, Option.bind_some, execution_nil, Option.bind_some, execution_append,
    popped, Option.bind_some, execution_cons]
  exact congrArg some resumed

end

/-! ### A whole interrupt -/

/-- `GDT_KERNEL_CODE_SEGMENT_SELECTOR`. -/
def kernelCodeSegment : UInt32 := 8

/-- The stub has made the error code and the number of the interrupt complete. -/
def State.numbered (n : Fin 64) (s : State) : State :=
  (if expectsErrorCode n then s else s.push 0).push (UInt32.ofNat n.val)

/-- The state in which the handler is entered for an interrupt of `s`. -/
def State.called (back offset : UInt32) (tss : TSSEntry) (n : Fin 64) (error : Option UInt32)
    (s : State) : State :=
  ((s.interrupt kernelCodeSegment offset tss error).numbered n).pushAll.push back

/-- The words on the stack then: those of the processor, those of the stub and the
return address. -/
def Registers.pushes (r : Registers) : Nat := r.saved.length + 9

theorem pushes_inner {r : Registers} (inner : r.ring = 0) : r.pushes = 12 := by
  rw [Registers.pushes, Registers.saved, if_pos inner]
  rfl

theorem pushes_outer {r : Registers} (outer : r.ring ≠ 0) : r.pushes = 14 := by
  rw [Registers.pushes, Registers.saved, if_neg outer]
  rfl

theorem execution_isrStub (function : Routine) (back : UInt32) (n : Fin 64) (s : State) :
    execution function (isrStub back n) s =
      execution function (callGenericHandler back) (s.numbered n) := by
  have zero : execution function [.pushDword 0, .pushDword (UInt32.ofNat n.val)] s =
      some ((s.push 0).push (UInt32.ofNat n.val)) := by
    simp only [execution_cons, execution_nil, execute, Option.bind_some]
  have number : execution function [.pushDword (UInt32.ofNat n.val)] s =
      some (s.push (UInt32.ofNat n.val)) := by
    simp only [execution_cons, execution_nil, execute, Option.bind_some]
  cases expected : expectsErrorCode n with
  | false =>
      have short := ne_true_of_eq_false expected
      rw [isrStub, if_neg short, State.numbered, if_neg short, noErrorCodeInterruptHandler,
        execution_append, zero, Option.bind_some]
  | true =>
      rw [isrStub, if_pos expected, State.numbered, if_pos expected, errorCodeInterruptHandler,
        execution_append, number, Option.bind_some]

section

variable {function : Routine} {n : Fin 64} {error : Option UInt32} {s : State}

theorem numbered_registers (n : Fin 64) (s : State) :
    (s.numbered n).registers = { s.registers with esp := (s.numbered n).registers.esp } := by
  unfold State.numbered
  split
  all_goals simp only [push_registers]

theorem numbered_crtc (n : Fin 64) (s : State) : (s.numbered n).crtc = s.crtc := by
  unfold State.numbered
  split
  all_goals simp only [push_crtc]

theorem numbered_frame (agree : error.isSome = expectsErrorCode n) {ws : List UInt32}
    (few : ws.length ≤ 5) (frame : s.Frame (error.toList ++ ws)) :
    (s.numbered n).Frame (UInt32.ofNat n.val :: error.getD 0 :: ws) := by
  unfold State.numbered
  rw [← agree]
  cases error with
  | none =>
      rw [Option.toList_none, List.nil_append] at frame
      have zero := frame_push frame 0 (by omega)
      exact frame_push zero (UInt32.ofNat n.val) (by rw [List.length_cons]; omega)
  | some code =>
      rw [Option.toList_some, List.singleton_append] at frame
      exact frame_push frame (UInt32.ofNat n.val) (by rw [List.length_cons]; omega)

theorem numbered_pushed (agree : error.isSome = expectsErrorCode n) {base : UInt32} {m : Memory}
    {k : Nat} (pushed : s.Pushed base m (error.toList.length + k)) :
    (s.numbered n).Pushed base m (k + 2) := by
  unfold State.numbered
  rw [← agree]
  cases error with
  | none =>
      rw [Option.toList_none, List.length_nil, Nat.zero_add] at pushed
      exact pushed_push (pushed_push pushed 0) _
  | some code =>
      rw [Option.toList_some, List.length_singleton, Nat.add_comm] at pushed
      exact pushed_push pushed _

theorem pushAll_pushed {base : UInt32} {m : Memory} {k : Nat} (pushed : s.Pushed base m k) :
    s.pushAll.Pushed base m (k + 6) :=
  pushed_push (pushed_push (pushed_push (pushed_push (pushed_push (pushed_push pushed _) _) _) _) _) _

variable (back offset : UInt32) (tss : TSSEntry)

theorem called_crtc : (s.called back offset tss n error).crtc = s.crtc := by
  rw [State.called, push_crtc, pushAll_crtc, numbered_crtc, interrupt_crtc]

theorem numbered_interrupt (agree : error.isSome = expectsErrorCode n) :
    ((s.interrupt kernelCodeSegment offset tss error).numbered n).Frame
      (UInt32.ofNat n.val :: error.getD 0 :: s.registers.saved) :=
  numbered_frame agree (length_saved _) (interrupt_spec tss s _ _ _)

/-- The handler is entered below what the interrupt, the stub and the call have pushed. -/
theorem called_pushed (agree : error.isSome = expectsErrorCode n) :
    (s.called back offset tss n error).Pushed (s.handlerStack tss) s.memory s.registers.pushes :=
  pushed_push (pushAll_pushed (numbered_pushed agree (interrupt_pushed tss s _ _ _))) back

theorem called_arguments (agree : error.isSome = expectsErrorCode n) :
    (s.called back offset tss n error).arguments =
      ⟨⟨s.registers.eax, s.registers.ebx, s.registers.ecx, s.registers.edx, s.registers.ebp,
        (s.called back offset tss n error).registers.esp + 28⟩, UInt32.ofNat n.val,
        ⟨error.getD 0, s.registers.eip, s.registers.cs, s.registers.eflags⟩⟩ := by
  have few := length_saved s.registers
  have frame : (s.called back offset tss n error).Frame _ :=
    frame_push (pushAll_frame (numbered_interrupt offset tss agree)) back
      (by rw [List.length_append, length_argumentWords]; omega)
  have esp : ((s.interrupt kernelCodeSegment offset tss error).numbered n).registers.esp =
      (s.called back offset tss n error).registers.esp + 28 := by
    have total : (28 : UInt32) = 4 + UInt32.ofNat (4 * 6) := rfl
    rw [State.called, push_registers, total, ← add_assoc, sub_add_cancel]
    exact pushAll_esp _
  rw [numbered_registers, interrupt_registers, Registers.saved] at frame
  rw [← esp]
  exact frame_arguments frame

/-- The stub comes back with the registers of the interrupted program. -/
theorem execution_interrupt {writes : UInt32 → Prop} (agree : error.isSome = expectsErrorCode n)
    (returns : Returns s.registers.pushes writes function (s.called back offset tss n error)) :
    ∃ t, function (s.called back offset tss n error) = some t ∧
      ComesBack writes (s.called back offset tss n error) t ∧
      execution function (isrStub back n) (s.interrupt kernelCodeSegment offset tss error) =
        some { t with registers := s.registers } := by
  have registers := interrupt_registers tss s kernelCodeSegment offset error
  have kernel : ((s.interrupt kernelCodeSegment offset tss error).numbered n).registers.ring = 0 := by
    rw [numbered_registers, registers]
    change kernelCodeSegment &&& 3 = 0
    decide
  have depth := (numbered_pushed agree (interrupt_pushed tss s kernelCodeSegment offset error)).depth
  obtain ⟨t, result, comes, executed⟩ :=
    generic_spec kernel (numbered_interrupt offset tss agree) returns
  have esp : (if s.registers.ring = 0 then
      ((s.interrupt kernelCodeSegment offset tss error).numbered n).registers.esp + 8 + 12
      else s.registers.esp) = s.registers.esp := by
    split
    · rename_i inner
      rw [State.handlerStack, if_pos inner, Registers.saved, if_pos inner] at depth
      exact (add_assoc _ 8 12).trans depth
    · rfl
  have ss : (if s.registers.ring = 0 then
      if s.registers.ring = 0 then s.registers.ss else tss.ss0 else s.registers.ss) =
      s.registers.ss := by
    split <;> rfl
  refine ⟨t, result, comes, ?_⟩
  rw [execution_isrStub, executed, esp, numbered_registers, registers]
  simp only [ss]

/-- The same with the handler of the source, for what it calls from its frame. -/
theorem execution_handler {frame : StackFrame} {keyboardIsr : Routine}
    {syscall : CPURegister → InterruptStack → Routine} {writes : UInt32 → Prop}
    (agree : error.isSome = expectsErrorCode n)
    (room : 4 * (frame.words + s.registers.pushes) < 2 ^ 32)
    (returns : Returns (frame.words + s.registers.pushes) writes
      (dispatched keyboardIsr syscall (s.called back offset tss n error).arguments)
      ((s.called back offset tss n error).enterFrame frame)) :
    ∃ t, dispatched keyboardIsr syscall (s.called back offset tss n error).arguments
        ((s.called back offset tss n error).enterFrame frame) = some t ∧
      ComesBack writes ((s.called back offset tss n error).enterFrame frame) t ∧
      execution (mainInterruptHandler frame keyboardIsr syscall) (isrStub back n)
        (s.interrupt kernelCodeSegment offset tss error) =
        some { t with registers := s.registers } := by
  obtain ⟨apart, t, result, comes⟩ := returns
  have handler := mainInterruptHandler_returns room apart result comes
  obtain ⟨u, handled, -, executed⟩ := execution_interrupt back offset tss agree handler
  rw [mainInterruptHandler_eq, result] at handled
  obtain rfl := Option.some.inj handled
  exact ⟨t, result, comes, executed⟩

/-- From an outer ring, these are 14 words on the stack of the TSS. -/
theorem called_pushed_outer (agree : error.isSome = expectsErrorCode n)
    (outer : s.registers.ring ≠ 0) :
    (s.called back offset tss n error).Pushed tss.esp0 s.memory 14 := by
  have pushed := called_pushed (s := s) back offset tss agree
  rw [State.handlerStack, if_neg outer, pushes_outer outer] at pushed
  exact pushed

/-- **An interrupt with an error code where its stub expects one goes unnoticed.**
The handler is entered with the registers of the interrupted program, the number of
the interrupt and what the processor has saved, on a stack of 14 words, or 12 where it
does not change; if it comes back from there, the stub goes on to the interrupted
program with all the registers as they were. -/
theorem stub_transparent {writes : UInt32 → Prop} (agree : error.isSome = expectsErrorCode n)
    (returns : Returns (if s.registers.ring = 0 then 12 else 14) writes function
      (s.called back offset tss n error)) :
    (s.called back offset tss n error).arguments =
        ⟨⟨s.registers.eax, s.registers.ebx, s.registers.ecx, s.registers.edx, s.registers.ebp,
          (s.called back offset tss n error).registers.esp + 28⟩, UInt32.ofNat n.val,
          ⟨error.getD 0, s.registers.eip, s.registers.cs, s.registers.eflags⟩⟩ ∧
      (s.called back offset tss n error).Pushed (s.handlerStack tss) s.memory
        (if s.registers.ring = 0 then 12 else 14) ∧
      ∃ t, function (s.called back offset tss n error) = some t ∧
        (∀ a, ¬ writes a → t.memory a = (s.called back offset tss n error).memory a) ∧
        execution function (isrStub back n) (s.interrupt kernelCodeSegment offset tss error) =
          some { t with registers := s.registers } := by
  have words : (if s.registers.ring = 0 then 12 else 14) = s.registers.pushes := by
    split
    · exact (pushes_inner ‹_›).symm
    · exact (pushes_outer ‹_›).symm
  rw [words] at returns ⊢
  obtain ⟨t, result, comes, executed⟩ := execution_interrupt back offset tss agree returns
  exact ⟨called_arguments back offset tss agree, called_pushed back offset tss agree, t, result,
    comes.memory, executed⟩

end

/-- A user program. -/
def running : State :=
  ⟨⟨1, 2, 3, 4, 5, 6, 7, 0x3FFFFC, 0x1000, 0x1B, 0x23, 0x202⟩, fun _ => 0, ⟨0, fun _ => 0⟩⟩

/-- A handler that counts its calls in a static. -/
def counting : Routine := fun s =>
  some { s with memory := store s.memory 0xC0108000 (load s.memory 0xC0108000 + 1) }

theorem counting_returns {s : State} (esp : s.registers.esp = 0xC0200000 - 56) :
    Returns 14 (fun a => (a - 0xC0108000).toNat < 4) counting s := by
  refine ⟨?_, _, rfl, rfl, rfl, rfl, rfl, rfl, fun a other => if_neg other⟩
  rw [esp]
  decide

/-- A page fault: the handler sees its error code. -/
theorem stub_transparent_page_fault :
    ∃ t, counting (running.called 0xC0100020 0xC0100000 ⟨0, 0xC0200000, 0x10⟩ 14 (some 6)) = some t ∧
      execution counting (isrStub 0xC0100020 14)
        (running.interrupt kernelCodeSegment 0xC0100000 ⟨0, 0xC0200000, 0x10⟩ (some 6)) =
        some { t with registers := running.registers } := by
  have entered := (@called_pushed_outer 14 (some 6) running 0xC0100020 0xC0100000
    ⟨0, 0xC0200000, 0x10⟩ rfl (by decide)).depth
  obtain ⟨-, -, t, result, -, executed⟩ := @stub_transparent counting 14 (some 6) running 0xC0100020
    0xC0100000 ⟨0, 0xC0200000, 0x10⟩ _ (by decide) (counting_returns (eq_sub_of_add_eq entered))
  exact ⟨t, result, executed⟩

end HexOS.Traps
