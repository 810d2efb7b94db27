import HexOS.Library.BoundedScan
import Mathlib.Logic.Function.Basic

/-!
The two interrupt controllers behind their ports, and the driver of `interrupt.c`.

A controller takes its initialization words through the data port, one after the
other, once the command port has seen ICW1; outside of that the data port is its
mask. It passes on its most urgent request that is not masked, unless one at
least as urgent is in service, and stays silent about those until it gets an
end-of-interrupt command. The second controller hangs on line 2 of the first.
-/

namespace HexOS.Interrupts

open BoundedScan

/-! ### One controller -/

/-- What the next byte to the data port is. -/
inductive Expects where
  | mask
  | icw2
  | icw3
  | icw4

structure Pic where
  expects : Expects
  /-- ICW1: no other controller, and ICW4 needed. -/
  single : Bool
  needsIcw4 : Bool
  vector : UInt8
  cascade : UInt8
  mode : UInt8
  mask : UInt8
  request : Fin 8 → Bool
  service : Fin 8 → Bool

/-- Without a specific level the most urgent interrupt in service is over. -/
def Pic.endOfInterrupt (p : Pic) : Pic :=
  match firstFrom 0 p.service with
  | some i => { p with service := Function.update p.service i false }
  | none => p

def Pic.command (data : UInt8) (p : Pic) : Pic :=
  if data &&& 0x10 ≠ 0 then
    { p with
      expects := .icw2, single := data &&& 0x02 != 0, needsIcw4 := data &&& 0x01 != 0
      mode := 0, mask := 0, request := fun _ => false, service := fun _ => false }
  else if data = 0x20 then p.endOfInterrupt
  else p

def Pic.afterIcw3 (p : Pic) : Expects := if p.needsIcw4 then .icw4 else .mask

def Pic.data (data : UInt8) (p : Pic) : Pic :=
  match p.expects with
  | .mask => { p with mask := data }
  | .icw2 =>
      { p with vector := data &&& 0xF8, expects := if p.single then p.afterIcw3 else .icw3 }
  | .icw3 => { p with cascade := data, expects := p.afterIcw3 }
  | .icw4 => { p with mode := data, expects := .mask }

def Pic.masked (p : Pic) (i : Fin 8) : Bool := p.mask.toNat.testBit i.val

/-- The request the controller passes on, when `lines` are requested. -/
def Pic.pending (p : Pic) (lines : Fin 8 → Bool) : Option (Fin 8) :=
  match firstFrom 0 fun i => lines i && !p.masked i with
  | none => none
  | some i =>
      match firstFrom 0 p.service with
      | some j => if j ≤ i then none else some i
      | none => some i

/-- A request is acknowledged. Automatic end of interrupt is bit 1 of ICW4. -/
def Pic.take (i : Fin 8) (p : Pic) : Pic :=
  { p with
    request := Function.update p.request i false
    service := Function.update p.service i (p.mode &&& 0x02 == 0) }

@[simp] theorem take_request (i : Fin 8) (p : Pic) :
    (p.take i).request = Function.update p.request i false := rfl

def Pic.raise (i : Fin 8) (p : Pic) : Pic := { p with request := Function.update p.request i true }

/-! ### The pair -/

structure Pics where
  master : Pic
  slave : Pic

/-- The requests of the first controller. -/
def Pics.lines (p : Pics) (i : Fin 8) : Bool :=
  p.master.request i || (i == 2 && (p.slave.pending p.slave.request).isSome)

/-- The vector the processor gets when it acknowledges, and the pair behind that. -/
def Pics.acknowledge (p : Pics) : Option (UInt8 × Pics) :=
  match p.master.pending p.lines with
  | none => none
  | some i =>
      if p.master.cascade.toNat.testBit i.val ∧ p.slave.cascade.toNat = i.val then
        match p.slave.pending p.slave.request with
        | some k => some (p.slave.vector + UInt8.ofNat k.val, ⟨p.master.take i, p.slave.take k⟩)
        | none => some (p.master.vector + UInt8.ofNat i.val, { p with master := p.master.take i })
      else some (p.master.vector + UInt8.ofNat i.val, { p with master := p.master.take i })

/-- Line `irq` of the 16. -/
def Pics.raise (irq : Fin 16) (p : Pics) : Pics :=
  if irq.val < 8 then { p with master := p.master.raise (Fin.ofNat 8 irq.val) }
  else { p with slave := p.slave.raise (Fin.ofNat 8 irq.val) }

def pic1Command : UInt16 := 0x20
def pic1Data : UInt16 := 0x21
def pic2Command : UInt16 := 0xA0
def pic2Data : UInt16 := 0xA1

def Pics.portOut (port : UInt16) (data : UInt8) (p : Pics) : Pics :=
  if port = pic1Command then { p with master := p.master.command data }
  else if port = pic1Data then { p with master := p.master.data data }
  else if port = pic2Command then { p with slave := p.slave.command data }
  else if port = pic2Data then { p with slave := p.slave.data data }
  else p

def Pics.portIn (port : UInt16) (p : Pics) : UInt8 :=
  if port = pic1Data then p.master.mask
  else if port = pic2Data then p.slave.mask
  else 0

/-! ### The driver -/

def pic1Offset : UInt8 := 0x20
def pic2Offset : UInt8 := 0x28
def picAckByte : UInt8 := 0x20
def picDisableAllMask : UInt8 := 0xFF
def icw1Init : UInt8 := 0x10
def icw1Icw4 : UInt8 := 0x01
def icw48086 : UInt8 := 0x01
def irqKeyboard : UInt8 := 1

def ioWait (p : Pics) : Pics := p.portOut 0x80 0

def picAck (irq : UInt8) (p : Pics) : Pics :=
  let p := if irq ≥ 8 then p.portOut pic2Command picAckByte else p
  p.portOut pic1Command picAckByte

def picRemap (p : Pics) : Pics :=
  let a1 := p.portIn pic1Data
  let a2 := p.portIn pic2Data
  let p := ioWait (p.portOut pic1Command (icw1Init ||| icw1Icw4))
  let p := ioWait (p.portOut pic2Command (icw1Init ||| icw1Icw4))
  let p := ioWait (p.portOut pic1Data pic1Offset)
  let p := ioWait (p.portOut pic2Data pic2Offset)
  let p := ioWait (p.portOut pic1Data 4)
  let p := ioWait (p.portOut pic2Data 2)
  let p := ioWait (p.portOut pic1Data icw48086)
  let p := ioWait (p.portOut pic2Data icw48086)
  let p := p.portOut pic1Data a1
  p.portOut pic2Data a2

/-- The first statement of `activate_keyboard_interrupt`. -/
def maskMaster (p : Pics) : Pics :=
  p.portOut pic1Data (picDisableAllMask ^^^ (1 <<< irqKeyboard))

/-- The second. -/
def maskSlave (p : Pics) : Pics := p.portOut pic2Data picDisableAllMask

/-! ### What the driver programs -/

/-- A controller as `pic_remap` leaves it. -/
def remapped (vector cascade mask : UInt8) : Pic :=
  ⟨.mask, false, true, vector, cascade, icw48086, mask, fun _ => false, fun _ => false⟩

/-- Whatever state the firmware leaves, the vectors move and the masks stay. -/
theorem picRemap_eq (p : Pics) :
    picRemap p = ⟨remapped pic1Offset 4 p.master.mask, remapped pic2Offset 2 p.slave.mask⟩ := rfl

/-- The programming of a controller, without its mask and its requests. -/
structure Programmed (vector cascade : UInt8) (p : Pic) : Prop where
  expects : p.expects = .mask
  vector : p.vector = vector
  cascade : p.cascade = cascade
  mode : p.mode = icw48086

theorem programmed_remapped (vector cascade mask : UInt8) :
    Programmed vector cascade (remapped vector cascade mask) := ⟨rfl, rfl, rfl, rfl⟩

section

variable {vector cascade : UInt8} {p : Pic}

theorem Programmed.endOfInterrupt (programmed : Programmed vector cascade p) :
    Programmed vector cascade p.endOfInterrupt := by
  unfold Pic.endOfInterrupt
  split
  · exact ⟨programmed.expects, programmed.vector, programmed.cascade, programmed.mode⟩
  · exact programmed

theorem Programmed.take (programmed : Programmed vector cascade p) (i : Fin 8) :
    Programmed vector cascade (p.take i) :=
  ⟨programmed.expects, programmed.vector, programmed.cascade, programmed.mode⟩

theorem Programmed.raise (programmed : Programmed vector cascade p) (i : Fin 8) :
    Programmed vector cascade (p.raise i) :=
  ⟨programmed.expects, programmed.vector, programmed.cascade, programmed.mode⟩

/-- A programmed controller takes the data port for its mask. -/
theorem Programmed.data (programmed : Programmed vector cascade p) (mask : UInt8) :
    p.data mask = { p with mask } := by
  rw [Pic.data, programmed.expects]

theorem Programmed.setMask (programmed : Programmed vector cascade p) (mask : UInt8) :
    Programmed vector cascade { p with mask } :=
  ⟨programmed.expects, programmed.vector, programmed.cascade, programmed.mode⟩

/-- What is acknowledged is in service. -/
theorem Programmed.take_service (programmed : Programmed vector cascade p) (i : Fin 8) :
    (p.take i).service = Function.update p.service i true := by
  rw [Pic.take, programmed.mode]
  rfl

end

/-- What is passed on was requested, is not masked, and nothing as urgent is in
service. -/
theorem pending_spec {p : Pic} {lines : Fin 8 → Bool} {i : Fin 8}
    (pending : p.pending lines = some i) :
    lines i = true ∧ p.masked i = false ∧ ∀ j ≤ i, p.service j = false := by
  unfold Pic.pending at pending
  split at pending
  · cases pending
  · rename_i k found
    obtain ⟨-, hit, -⟩ := firstFrom_eq_some_iff.mp found
    simp only [Bool.and_eq_true, Bool.not_eq_true'] at hit
    split at pending
    · rename_i j serving
      obtain ⟨-, -, least⟩ := firstFrom_eq_some_iff.mp serving
      split at pending
      · cases pending
      · rename_i apart
        cases pending
        exact ⟨hit.1, hit.2, fun l below => least l (lt_of_le_of_lt below (not_le.mp apart))
          (Nat.zero_le _)⟩
    · rename_i none
      cases pending
      exact ⟨hit.1, hit.2, fun l _ => firstFrom_eq_none_iff.mp none l (Nat.zero_le _)⟩

/-- The most urgent request is passed on when nothing as urgent is in service. -/
theorem pending_of_first {p : Pic} {lines : Fin 8 → Bool} {i : Fin 8} (requested : lines i = true)
    (unmasked : p.masked i = false) (first : ∀ j < i, p.masked j = true)
    (free : ∀ j ≤ i, p.service j = false) : p.pending lines = some i := by
  have found : (firstFrom 0 fun k => lines k && !p.masked k) = some i := by
    refine firstFrom_eq_some_iff.mpr ⟨Nat.zero_le _, by simp [requested, unmasked], fun j less _ => ?_⟩
    simp [first j less]
  unfold Pic.pending
  rw [found]
  simp only
  split
  · rename_i j serving
    obtain ⟨-, busy, -⟩ := firstFrom_eq_some_iff.mp serving
    rw [if_neg fun below => by simp [free j below] at busy]
  · rfl

/-- An end-of-interrupt command takes the most urgent one out of service. -/
theorem endOfInterrupt_service {p : Pic} {i : Fin 8} (serving : p.service i = true)
    (first : ∀ j < i, p.service j = false) :
    p.endOfInterrupt = { p with service := Function.update p.service i false } := by
  have found : firstFrom 0 p.service = some i :=
    firstFrom_eq_some_iff.mpr ⟨Nat.zero_le _, serving, fun j less _ => first j less⟩
  rw [Pic.endOfInterrupt, found]

/-- The acknowledgement of a keyboard interrupt. -/
theorem picAck_keyboard (p : Pics) :
    picAck irqKeyboard p = { p with master := p.master.endOfInterrupt } := rfl

end HexOS.Interrupts
