import HexOS.Console.Framebuffer
import HexOS.Library.StackWords

/-!
The processor, as far as interrupts go.

An interrupt of a user program switches to the kernel's stack first; flags, code
segment and instruction pointer go on the stack in either case, and an error code
for some exceptions. `iret` takes them back, and changes the stack again when it
returns to an outer ring. Only the instructions of the interrupt stubs are there;
of the devices, the cursor of the screen.
-/

namespace HexOS.Traps

open StackWords

structure Registers where
  eax : UInt32
  ebx : UInt32
  ecx : UInt32
  edx : UInt32
  esi : UInt32
  edi : UInt32
  ebp : UInt32
  esp : UInt32
  eip : UInt32
  cs : UInt32
  ss : UInt32
  eflags : UInt32
  deriving DecidableEq

structure State where
  registers : Registers
  memory : Memory
  crtc : Console.Crtc

/-- The privilege level. -/
def Registers.ring (r : Registers) : UInt32 := r.cs &&& 3

/-! ### The stack -/

def State.push (w : UInt32) (s : State) : State :=
  let esp := s.registers.esp - 4
  ⟨{ s.registers with esp }, store s.memory esp w, s.crtc⟩

theorem push_registers (s : State) (w : UInt32) :
    (s.push w).registers = { s.registers with esp := s.registers.esp - 4 } := rfl

theorem push_crtc (s : State) (w : UInt32) : (s.push w).crtc = s.crtc := rfl

/-- Word `i` from the top of the stack. -/
def State.word (s : State) (i : Nat) : UInt32 := load s.memory (slot s.registers.esp i)

/-- The stack pointer moves up by `n` bytes. -/
def State.drop (n : UInt32) (s : State) : State :=
  { s with registers := { s.registers with esp := s.registers.esp + n } }

/-- The words on top of the stack. -/
def State.Frame (s : State) (ws : List UInt32) : Prop := Holds s.memory s.registers.esp ws

/-- `k` words have been pushed on the stack at `base`, and the memory has not
changed elsewhere. -/
structure State.Pushed (base : UInt32) (m : Memory) (k : Nat) (s : State) : Prop where
  depth : s.registers.esp + UInt32.ofNat (4 * k) = base
  rest : ∀ a, 4 * k ≤ (base - 1 - a).toNat → s.memory a = m a

theorem pushed_zero {s : State} {base : UInt32} {m : Memory} (esp : s.registers.esp = base)
    (memory : s.memory = m) : s.Pushed base m 0 :=
  ⟨(add_zero _).trans esp, fun a _ => congrFun memory a⟩

theorem pushed_push {s : State} {base : UInt32} {m : Memory} {k : Nat} (pushed : s.Pushed base m k)
    (w : UInt32) : (s.push w).Pushed base m (k + 1) := by
  constructor
  · have back : UInt32.ofNat (4 * (k + 1)) = 4 + UInt32.ofNat (4 * k) := by
      rw [Nat.mul_succ, Nat.add_comm, UInt32.ofNat_add]
      rfl
    change s.registers.esp - 4 + UInt32.ofNat (4 * (k + 1)) = base
    rw [back, ← add_assoc, sub_add_cancel]
    exact pushed.depth
  · intro a far
    refine (store_beyond s.memory w pushed.depth far).trans (pushed.rest a ?_)
    omega

theorem frame_push {s : State} {ws : List UInt32} (frame : s.Frame ws) (w : UInt32)
    (room : ws.length < 2 ^ 29) : (s.push w).Frame (w :: ws) :=
  holds_push frame w (by omega)

/-! ### Interrupts -/

/-- `TSSEntry`, without the fields no one uses. -/
structure TSSEntry where
  prevTss : UInt32
  esp0 : UInt32
  ss0 : UInt32

/-- The interrupt, trap, nested task, resume and virtual mode flags are cleared. -/
def enterMask : UInt32 := ~~~0x00034300

def interruptFlag : UInt32 := 0x200

def State.kernelStack (tss : TSSEntry) (s : State) : State :=
  { s with registers := { s.registers with esp := tss.esp0, ss := tss.ss0 } }

/-- From an outer ring, the old stack is saved on the kernel's. -/
def State.switchStack (tss : TSSEntry) (s : State) : State :=
  if s.registers.ring = 0 then s
  else ((s.kernelStack tss).push s.registers.ss).push s.registers.esp

/-- What the processor saves for the way back. -/
def Registers.saved (r : Registers) : List UInt32 :=
  r.eip :: r.cs :: r.eflags :: if r.ring = 0 then [] else [r.esp, r.ss]

/-- The pushes of an interrupt. -/
def State.save (tss : TSSEntry) (error : Option UInt32) (s : State) : State :=
  let saved := (((s.switchStack tss).push s.registers.eflags).push s.registers.cs).push
    s.registers.eip
  match error with
  | some code => saved.push code
  | none => saved

/-- The processor enters a handler at `selector:offset`, which runs in ring 0. -/
def State.interrupt (selector offset : UInt32) (tss : TSSEntry) (error : Option UInt32)
    (s : State) : State :=
  let saved := s.save tss error
  { saved with registers :=
    { saved.registers with
      cs := selector, eip := offset, eflags := s.registers.eflags &&& enterMask } }

def State.iret (s : State) : State :=
  let inner := { s.registers with
    eip := s.word 0, cs := s.word 1, eflags := s.word 2, esp := s.registers.esp + 12 }
  if inner.ring = s.registers.ring then { s with registers := inner }
  else { s with registers := { inner with esp := s.word 3, ss := s.word 4 } }

/-! ### Instructions -/

inductive Register where
  | eax
  | ebx
  | ecx
  | edx
  | ebp
  | esp

def Registers.get (r : Registers) : Register → UInt32
  | .eax => r.eax
  | .ebx => r.ebx
  | .ecx => r.ecx
  | .edx => r.edx
  | .ebp => r.ebp
  | .esp => r.esp

def Registers.set (w : UInt32) (r : Registers) : Register → Registers
  | .eax => { r with eax := w }
  | .ebx => { r with ebx := w }
  | .ecx => { r with ecx := w }
  | .edx => { r with edx := w }
  | .ebp => { r with ebp := w }
  | .esp => { r with esp := w }

inductive Instruction where
  | push (r : Register)
  | pushDword (w : UInt32)
  | pop (r : Register)
  /-- `back` is the address of the next instruction. -/
  | call (back : UInt32)
  | addEsp (w : UInt32)
  | sti
  | iret

/-- A function, from its first instruction to its `ret`; `none` if it never gets there. -/
abbrev Routine := State → Option State

/-- `ret`, which comes back to the caller if the return address is still there. -/
def State.ret (back : UInt32) (s : State) : Option State :=
  if s.word 0 = back then some (s.drop 4) else none

/-- `function` is what `call` calls. `pop esp` ends with the word that was popped
in the register. -/
def execute (function : Routine) (s : State) : Instruction → Option State
  | .push r => some (s.push (s.registers.get r))
  | .pushDword w => some (s.push w)
  | .pop r =>
      let popped := s.drop 4
      some { popped with registers := popped.registers.set (s.word 0) r }
  | .call back => (function (s.push back)).bind (State.ret back)
  | .addEsp w => some (s.drop w)
  | .sti =>
      some { s with registers := { s.registers with eflags := s.registers.eflags ||| interruptFlag } }
  | .iret => some s.iret

def execution (function : Routine) (code : List Instruction) (s : State) : Option State :=
  code.foldlM (execute function) s

theorem execution_cons (function : Routine) (i : Instruction) (code : List Instruction) (s : State) :
    execution function (i :: code) s = (execute function s i).bind (execution function code) := rfl

theorem execution_nil (function : Routine) (s : State) : execution function [] s = some s := rfl

theorem execution_append (function : Routine) (first second : List Instruction) (s : State) :
    execution function (first ++ second) s =
      (execution function first s).bind (execution function second) :=
  List.foldlM_append

/-! ### Calls -/

/-- A function has gone from its entry `s` to its `ret` at `t`, with the registers it has
to keep as they were and no stores but to the addresses it writes. The stubs need
neither `ebx` nor `ebp`. -/
structure ComesBack (writes : UInt32 → Prop) (s t : State) : Prop where
  esp : t.registers.esp = s.registers.esp
  esi : t.registers.esi = s.registers.esi
  edi : t.registers.edi = s.registers.edi
  cs : t.registers.cs = s.registers.cs
  ss : t.registers.ss = s.registers.ss
  memory : ∀ a, ¬ writes a → t.memory a = s.memory a

/-- The function comes back from its entry at `s`, and does not write to the words on
top of the stack. -/
def Returns (words : Nat) (writes : UInt32 → Prop) (function : Routine) (s : State) : Prop :=
  (∀ i < 4 * words, ¬ writes (s.registers.esp + UInt32.ofNat i)) ∧
    ∃ t, function s = some t ∧ ComesBack writes s t

theorem ComesBack.mono {writes writes' : UInt32 → Prop} {s t : State}
    (back : ComesBack writes s t) (more : ∀ a, writes a → writes' a) : ComesBack writes' s t :=
  ⟨back.esp, back.esi, back.edi, back.cs, back.ss,
    fun a other => back.memory a fun written => other (more a written)⟩

/-- The rule of a call: what was on the stack still is. -/
theorem call_returns {function : Routine} {s : State} {back : UInt32} {ws : List UInt32}
    {writes : UInt32 → Prop} (frame : s.Frame ws) (room : ws.length < 2 ^ 29)
    (returns : Returns (ws.length + 1) writes function (s.push back)) :
    ∃ t, function (s.push back) = some t ∧ ComesBack writes (s.push back) t ∧
      execute function s (.call back) = some (t.drop 4) ∧ (t.drop 4).Frame ws := by
  obtain ⟨apart, t, result, comes⟩ := returns
  have pushed := frame_push frame back room
  have left : t.Frame (back :: ws) := by
    have same := pushed.of_bytes fun i inside => comes.memory _ (apart i inside)
    rw [← comes.esp] at same
    exact same
  obtain ⟨top, below⟩ := holds_cons.mp left
  have address : t.word 0 = back := by rwa [State.word, slot_zero]
  refine ⟨t, result, comes, ?_, below⟩
  simp only [execute, result, Option.bind_some, State.ret, address, if_true]

/-! ### What entering and returning do -/

section

variable (tss : TSSEntry) (s : State)

/-- Where a handler's stack starts. -/
def State.handlerStack : UInt32 := if s.registers.ring = 0 then s.registers.esp else tss.esp0

/-- On entry the general registers are those of the interrupted program. -/
theorem interrupt_registers (selector offset : UInt32) (error : Option UInt32) :
    (s.interrupt selector offset tss error).registers =
      { s.registers with
        cs := selector, eip := offset, eflags := s.registers.eflags &&& enterMask
        esp := (s.save tss error).registers.esp
        ss := if s.registers.ring = 0 then s.registers.ss else tss.ss0 } := by
  unfold State.interrupt State.save State.switchStack
  split
  all_goals
    cases error
    all_goals simp only [push_registers, State.kernelStack]

theorem save_pushed (error : Option UInt32) :
    (s.save tss error).Pushed (s.handlerStack tss) s.memory
      (error.toList.length + s.registers.saved.length) := by
  have start : (s.switchStack tss).Pushed (s.handlerStack tss) s.memory
      (if s.registers.ring = 0 then [] else [s.registers.esp, s.registers.ss]).length := by
    unfold State.switchStack State.handlerStack
    split
    · exact pushed_zero rfl rfl
    · have kernel : (s.kernelStack tss).Pushed tss.esp0 s.memory 0 := pushed_zero rfl rfl
      exact pushed_push (pushed_push kernel s.registers.ss) s.registers.esp
  have saved := pushed_push (pushed_push (pushed_push start s.registers.eflags) s.registers.cs)
    s.registers.eip
  cases error with
  | none =>
      rw [Option.toList_none, List.length_nil, Nat.zero_add]
      exact saved
  | some code =>
      rw [Option.toList_some, List.length_singleton, Nat.add_comm]
      exact pushed_push saved code

/-- The devices do not notice. -/
theorem interrupt_crtc (selector offset : UInt32) (error : Option UInt32) :
    (s.interrupt selector offset tss error).crtc = s.crtc := by
  unfold State.interrupt State.save State.switchStack
  split
  all_goals
    cases error
    all_goals simp only [push_crtc, State.kernelStack]

theorem interrupt_pushed (selector offset : UInt32) (error : Option UInt32) :
    (s.interrupt selector offset tss error).Pushed (s.handlerStack tss) s.memory
      (error.toList.length + s.registers.saved.length) :=
  ⟨(save_pushed tss s error).depth, (save_pushed tss s error).rest⟩

/-- On entry the stack holds what was saved. -/
theorem interrupt_spec (selector offset : UInt32) (error : Option UInt32) :
    (s.interrupt selector offset tss error).Frame (error.toList ++ s.registers.saved) := by
  have start : (s.switchStack tss).Frame
      (if s.registers.ring = 0 then [] else [s.registers.esp, s.registers.ss]) := by
    unfold State.switchStack
    split
    · exact holds_nil _ _
    · exact frame_push (frame_push (holds_nil _ _) _ (by simp)) _ (by simp)
  have few : (if s.registers.ring = 0 then [] else [s.registers.esp, s.registers.ss]).length ≤ 2 := by
    split <;> simp
  have saved := frame_push (frame_push (frame_push start s.registers.eflags (by omega))
    s.registers.cs (by simp only [List.length_cons]; omega)) s.registers.eip
    (by simp only [List.length_cons]; omega)
  cases error with
  | none => exact saved
  | some code => exact frame_push saved code (by simp only [List.length_cons]; omega)

/-- `iret` takes the saved words back. -/
theorem iret_saved {s : State} {r : Registers} (frame : s.Frame r.saved)
    (kernel : s.registers.ring = 0) :
    s.iret = { s with registers := { s.registers with
      eip := r.eip, cs := r.cs, eflags := r.eflags
      esp := if r.ring = 0 then s.registers.esp + 12 else r.esp
      ss := if r.ring = 0 then s.registers.ss else r.ss } } := by
  have eip : s.word 0 = r.eip := frame 0 (Nat.succ_pos _)
  have cs : s.word 1 = r.cs := frame 1 (Nat.succ_lt_succ (Nat.succ_pos _))
  have eflags : s.word 2 = r.eflags := frame 2 (Nat.succ_lt_succ (Nat.succ_lt_succ (Nat.succ_pos _)))
  by_cases same : r.ring = 0
  · rw [if_pos same, if_pos same]
    simp only [State.iret, eip, cs, eflags]
    split
    · rfl
    · rename_i outer
      exact absurd (same.trans kernel.symm) outer
  · have saved : r.saved = [r.eip, r.cs, r.eflags, r.esp, r.ss] := by rw [Registers.saved, if_neg same]
    rw [saved] at frame
    have esp : s.word 3 = r.esp := frame 3 (by simp)
    have ss : s.word 4 = r.ss := frame 4 (by simp)
    rw [if_neg same, if_neg same]
    simp only [State.iret, eip, cs, eflags, esp, ss]
    split
    · rename_i inner
      have ring : r.ring = 0 := inner.trans kernel
      exact absurd ring same
    · rfl

end

end HexOS.Traps
