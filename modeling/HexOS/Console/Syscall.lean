import HexOS.Library.PartialRuns
import HexOS.Library.WhileLoop
import HexOS.Console.Keyboard
import HexOS.Fat32.System

/-!
The system calls of `interrupt.c` that use the screen.

The kernel is the terminal with the file system behind it. `puts` counts its
characters in 8 bits, so a string longer than 255 characters is written for
ever. System call 4 only turns input on here; the interrupts it then waits for
are inputs of their own, and the copy it ends with leaves the screen alone.
-/

namespace HexOS.Console

open WhileLoop Fat32

structure Kernel where
  terminal : Terminal
  filesystem : Driver

inductive Fault where
  /-- The loop of `puts` never ends. -/
  | hangs
  /-- A store to a page that is not mapped: the handler of the exception does
  nothing, and the store faults again. -/
  | pageFault (address : UInt32)
deriving DecidableEq

/-! ### puts -/

/-- One round of the loop over `i`. -/
def putsRound (str : Nat → UInt8) (len color : UInt32) (row col : UInt8) :
    UInt8 × Framebuffer → (UInt8 × Framebuffer) ⊕ (UInt8 × Framebuffer)
  | (i, screen) =>
      if i.toUInt32 < len then
        .inl (i + 1, framebufferWrite row (col + i) (str i.toNat) color.toUInt8 0 screen)
      else .inr (i, screen)

/-- A loop that is not over after 256 rounds never ends. -/
def puts (str : Nat → UInt8) (len color : UInt32) (row col : UInt8) (screen : Framebuffer) :
    Except Fault Framebuffer :=
  match iterate (putsRound str len color row col) 256 (0, screen) with
  | some (i, screen) => .ok (framebufferSetCursor row (col + i) screen)
  | none => .error .hangs

/-! ### Commands -/

/-- The loop of `cmd_ls`: every named slot is printed at the same place. -/
def lsLoop (table : FAT32DirectoryTable) (row col : UInt8) :
    List (Fin 64) → Framebuffer → Except Fault Framebuffer
  | [], screen => .ok screen
  | i :: rest, screen =>
      if (table i).name 0 ≠ 0 then
        match puts (fun j => if h : j < 8 then (table i).name ⟨j, h⟩ else 0) 8 0xF row col screen with
        | .ok screen => lsLoop table row col rest screen
        | .error fault => .error fault
      else lsLoop table row col rest screen

/-- `interrupt.c` has a `fat_state` of its own, which nothing reads but this loop. -/
def cmdLs (parentClusterNumber : UInt32) (row col : UInt8) (k : Kernel) : Except Fault Kernel :=
  let dirTableBuf := tableOf (readClusters k.filesystem.disk parentClusterNumber)
  match lsLoop dirTableBuf row col (List.finRange 64) k.terminal.screen with
  | .ok screen => .ok { k with terminal := { k.terminal with screen } }
  | .error fault => .error fault

/-- "Folder has been created" with its NUL byte. -/
def createdMessage : List UInt8 :=
  [0x46, 0x6F, 0x6C, 0x64, 0x65, 0x72, 0x20, 0x68, 0x61, 0x73, 0x20, 0x62, 0x65, 0x65, 0x6E, 0x20,
   0x63, 0x72, 0x65, 0x61, 0x74, 0x65, 0x64, 0x00]

/-- "Error" -/
def errorMessage : List UInt8 := [0x45, 0x72, 0x72, 0x6F, 0x72]

/-- The status goes to the address in `ecx`; the message depends on `ecx` itself. -/
def cmdMkdir (request : FAT32DriverRequest) (ecx : UInt32) (row col : UInt8) (k : Kernel) :
    Except Fault (Int × Kernel) :=
  let status := (write request k.filesystem).1
  let filesystem := (write request k.filesystem).2
  let message :=
    if ecx = 0 then puts (fun i => createdMessage.getD i 0) 24 0xF row col k.terminal.screen
    else puts (fun i => errorMessage.getD i 0) 5 0xF row col k.terminal.screen
  match message with
  | .ok screen => .ok (status, ⟨{ k.terminal with screen }, filesystem⟩)
  | .error fault => .error fault

/-! ### The kernel -/

/-- A string a program prints: its first `len` characters. -/
structure Text where
  str : Nat → UInt8
  len : UInt32
  short : len.toNat ≤ 80

inductive Input where
  | keyboard (scancode : UInt8)
  /-- System call 4. -/
  | readLine
  /-- System call 5. -/
  | putsLine (text : Text) (color : UInt32)
  /-- System call 6. -/
  | puts (text : Text) (color : UInt32)
  /-- System call 9. -/
  | ls
  /-- System call 10. -/
  | mkdir (request : FAT32DriverRequest) (ecx : UInt32)

/-- The cursor is read first, whatever the call. -/
def syscall (k : Kernel) (body : UInt8 → UInt8 → Kernel → Except Fault (Int × Kernel)) :
    Except Fault (Int × Kernel) :=
  let cursor := framebufferGetCursor k.terminal.screen
  body cursor.1 cursor.2.1 { k with terminal := { k.terminal with screen := cursor.2.2 } }

/-- The status is that of system call 10, and 0 elsewhere. -/
def kernelStep (k : Kernel) : Input → Except Fault (Int × Kernel)
  | .keyboard scancode => .ok (0, { k with terminal := keyboardIsr scancode k.terminal })
  | .readLine => syscall k fun _ _ k =>
      .ok (0, { k with terminal := keyboardStateActivate k.terminal })
  | .putsLine text color => syscall k fun row col k =>
      match puts text.str text.len color row col k.terminal.screen with
      | .ok screen =>
          .ok (0, { k with terminal :=
            { k.terminal with screen := framebufferSetCursor (row + 1) 0 screen } })
      | .error fault => .error fault
  | .puts text color => syscall k fun row col k =>
      match puts text.str text.len color row col k.terminal.screen with
      | .ok screen => .ok (0, { k with terminal := { k.terminal with screen } })
      | .error fault => .error fault
  | .ls => syscall k fun row col k =>
      match cmdLs rootClusterNumber row col k with
      | .ok k => .ok (0, k)
      | .error fault => .error fault
  | .mkdir request ecx => syscall k fun row col k => cmdMkdir request ecx row col k

end HexOS.Console
