import HexOS.Console.RawKeys
import HexOS.Console.Screen

/-!
The shell of `user-shell.c` over the kernel.

The shell prints its prompt with four calls of system call 6, reads a line with
system call 4 and echoes it with system call 5, for ever. Interrupts are on in
user mode, and system call 4 turns them on before it waits, so a keyboard
interrupt may come between any two turns of this model: between two calls, while
the kernel waits, and between any two bytes of the two copies it then makes.
Systems calls 5 and 6 run with interrupts off and are one turn each.
-/

namespace HexOS.Shell

open Console

/-- Where the shell is: in front of one of the calls of its loop, or inside
system call 4. -/
inductive Place where
  | user
  | colon
  | cwd
  | dollar
  | read
  /-- `while (is_keyboard_blocking())` -/
  | waiting
  /-- `get_keyboard_buffer(buf)`, with `i` bytes copied. -/
  | fetching (i : Nat)
  /-- `memcpy((char *) cpu.ebx, buf, cpu.ecx)`, with `i` bytes copied. -/
  | handing (i : Nat)
  | echo

/-- The two buffers live on the kernel's and on the shell's stack, and hold
anything at first. -/
structure System where
  kernel : Kernel
  place : Place
  kernelBuf : Bytes 256
  shellBuf : Bytes 16

/-- The system as `kernel_setup` enters the shell. -/
def entered (filesystem : Fat32.Driver) (kernelBuf : Bytes 256) (shellBuf : Bytes 16) : System :=
  ⟨⟨cleared, filesystem⟩, .user, kernelBuf, shellBuf⟩

inductive Turn where
  | interrupt (scancode : UInt8)
  | shell

/-- What a turn shows to the outside. -/
inductive Report where
  | key (scancode : UInt8)
  | activated
  | echoed (line : Bytes 16)
  /-- The shell waits for the line to end. -/
  | spun
  | moved

/-! ### What the shell prints -/

/-- "hexOS@OS-IF2230" -/
def userChars : List UInt8 :=
  [0x68, 0x65, 0x78, 0x4F, 0x53, 0x40, 0x4F, 0x53, 0x2D, 0x49, 0x46, 0x32, 0x32, 0x33, 0x30]

/-- "root" -/
def cwdChars : List UInt8 := [0x72, 0x6F, 0x6F, 0x74]

def userText : Text := ⟨fun i => userChars.getD i 0, 15, Nat.le_of_ble_eq_true rfl⟩

def colonText : Text := ⟨fun _ => 0x3A, 1, Nat.le_of_ble_eq_true rfl⟩

def cwdText : Text := ⟨fun i => cwdChars.getD i 0, 4, Nat.le_of_ble_eq_true rfl⟩

def dollarText : Text := ⟨fun i => [0x24, 0x20].getD i 0, 2, Nat.le_of_ble_eq_true rfl⟩

/-- All 16 bytes are printed, those behind the NUL byte too. -/
def bufText (buf : Bytes 16) : Text :=
  ⟨fun i => if h : i < 16 then buf ⟨i, h⟩ else 0, 16, Nat.le_of_ble_eq_true rfl⟩

/-! ### Turns -/

/-- A system call that is one turn, with the place behind it. -/
def System.call (s : System) (input : Input) (next : Place) (report : Report) :
    Except Fault (Report × System) :=
  match kernelStep s.kernel input with
  | .ok (_, kernel) => .ok (report, { s with kernel, place := next })
  | .error fault => .error fault

def turn (s : System) : Turn → Except Fault (Report × System)
  | .interrupt scancode => s.call (.keyboard scancode) s.place (.key scancode)
  | .shell =>
      match s.place with
      | .user => s.call (.puts userText 0x2) .colon .moved
      | .colon => s.call (.puts colonText 0x7) .cwd .moved
      | .cwd => s.call (.puts cwdText 0x9) .dollar .moved
      | .dollar => s.call (.puts dollarText 0x7) .read .moved
      | .read => s.call .readLine .waiting .activated
      | .waiting =>
          if isKeyboardBlocking s.kernel.terminal then .ok (.spun, s)
          else .ok (.moved, { s with place := .fetching 0 })
      | .fetching i =>
          if h : i < 256 then
            let byte := getKeyboardBuffer s.kernel.terminal ⟨i, h⟩
            .ok (.moved, { s with
              kernelBuf := Function.update s.kernelBuf ⟨i, h⟩ byte, place := .fetching (i + 1) })
          else .ok (.moved, { s with place := .handing 0 })
      | .handing i =>
          if h : i < 16 then
            let byte := s.kernelBuf (Fin.ofNat 256 i)
            .ok (.moved, { s with
              shellBuf := Function.update s.shellBuf ⟨i, h⟩ byte, place := .handing (i + 1) })
          else .ok (.moved, { s with place := .echo })
      | .echo => s.call (.putsLine (bufText s.shellBuf) 0xE) .user (.echoed s.shellBuf)

/-! ### Calls -/

/-- A call leaves the shell's side alone. -/
theorem call_returns (s : System) (input : Input) (next : Place) (report : Report) :
    ∃ status kernel, kernelStep s.kernel input = .ok (status, kernel) ∧
      s.call input next report = .ok (report, { s with kernel, place := next }) := by
  obtain ⟨⟨status, kernel⟩, done⟩ := kernelStep_returns s.kernel input
  exact ⟨status, kernel, done, by simp only [System.call, done]⟩

/-- What the driver keeps apart from the screen. -/
structure SameKeyboard (t t' : Terminal) : Prop where
  keyboard : t'.keyboard = t.keyboard
  lastKeyPressed : t'.lastKeyPressed = t.lastKeyPressed
  makeCode : t'.makeCode = t.makeCode

/-- Printing does not touch the keyboard. -/
theorem puts_keyboard {k k' : Kernel} {text : Text} {color : UInt32} {status : Int}
    (done : kernelStep k (.puts text color) = .ok (status, k')) :
    SameKeyboard k.terminal k'.terminal := by
  simp only [kernelStep, Console.syscall] at done
  split at done
  · cases done
    exact ⟨rfl, rfl, rfl⟩
  · cases done

theorem putsLine_keyboard {k k' : Kernel} {text : Text} {color : UInt32} {status : Int}
    (done : kernelStep k (.putsLine text color) = .ok (status, k')) :
    SameKeyboard k.terminal k'.terminal := by
  simp only [kernelStep, Console.syscall] at done
  split at done
  · cases done
    exact ⟨rfl, rfl, rfl⟩
  · cases done

end HexOS.Shell
