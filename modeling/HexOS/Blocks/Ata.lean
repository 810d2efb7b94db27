import Mathlib.Logic.Function.Basic
import HexOS.Library.ByteWords

/-!
An ATA device behind its ports.

Registers take the sector count and the 28-bit block address; commands 0x20 and
0x30 start a transfer of that many sectors through the 16-bit data port. When the
device is busy is up to the device: `status` lists what successive reads of its
status port give. After a command and after every sector the data port is dead
until a read of the status has shown the device ready.
-/

namespace HexOS.Blocks

open ByteWords

/-- Bytes by their offset: the image, or the memory behind a pointer. -/
abbrev Memory := Nat → UInt8

def ataStatusBsy : UInt8 := 0x80
def ataStatusRdy : UInt8 := 0x40

inductive Direction where
  | toHost
  | fromHost

/-- A transfer under way: the image offset of its next word, and the words left. -/
structure Transfer where
  direction : Direction
  offset : Nat
  words : Nat

structure Ata where
  image : Memory
  status : Nat → UInt8
  /-- How often the status has been read. -/
  polls : Nat
  sectorCount : UInt8
  lbaLow : UInt8
  lbaMid : UInt8
  lbaHigh : UInt8
  drive : UInt8
  transfer : Option Transfer
  ready : Bool

/-! ### Words in memory -/

/-- `((uint16_t*) m)[index]` -/
def load16 (m : Memory) (index : Nat) : UInt16 := word16 fun k => m (2 * index + k)

def store16 (m : Memory) (index : Nat) (w : UInt16) : Memory :=
  Function.update (Function.update m (2 * index) (byteAt w.toNat 0)) (2 * index + 1)
    (byteAt w.toNat 1)

/-! ### Registers and commands -/

/-- The block address in the registers. -/
def Ata.blockAddress (d : Ata) : Nat :=
  d.lbaLow.toNat + 2 ^ 8 * d.lbaMid.toNat + 2 ^ 16 * d.lbaHigh.toNat + 2 ^ 24 * (d.drive &&& 0xF).toNat

/-- A sector count of 0 stands for 256. -/
def Ata.sectors (d : Ata) : Nat := if d.sectorCount = 0 then 256 else d.sectorCount.toNat

def Ata.start (direction : Direction) (d : Ata) : Ata :=
  { d with transfer := some ⟨direction, 512 * d.blockAddress, 256 * d.sectors⟩, ready := false }

def Ata.command (data : UInt8) (d : Ata) : Ata :=
  if data = 0x20 then d.start .toHost
  else if data = 0x30 then d.start .fromHost
  else d

/-! ### Ports -/

def Ata.portOut (port : UInt16) (data : UInt8) (d : Ata) : Ata :=
  if port = 0x1F2 then { d with sectorCount := data }
  else if port = 0x1F3 then { d with lbaLow := data }
  else if port = 0x1F4 then { d with lbaMid := data }
  else if port = 0x1F5 then { d with lbaHigh := data }
  else if port = 0x1F6 then { d with drive := data }
  else if port = 0x1F7 then d.command data
  else d

def Ata.portIn (port : UInt16) (d : Ata) : UInt8 × Ata :=
  if port = 0x1F7 then
    (d.status d.polls,
      { d with polls := d.polls + 1, ready := d.status d.polls &&& ataStatusRdy != 0 })
  else (0, d)

/-- The data port gives the next word to a reading host that has waited. -/
def Ata.portIn16 (port : UInt16) (d : Ata) : UInt16 × Ata :=
  if port = 0x1F0 ∧ d.ready then
    match d.transfer with
    | some ⟨.toHost, offset, words + 1⟩ =>
        (load16 (fun k => d.image (offset + k)) 0,
          { d with transfer := some ⟨.toHost, offset + 2, words⟩, ready := words % 256 != 0 })
    | _ => (0, d)
  else (0, d)

/-- It takes the next word from a writing host that has waited. -/
def Ata.portOut16 (port : UInt16) (data : UInt16) (d : Ata) : Ata :=
  if port = 0x1F0 ∧ d.ready then
    match d.transfer with
    | some ⟨.fromHost, offset, words + 1⟩ =>
        { d with
          image := Function.update (Function.update d.image offset (byteAt data.toNat 0))
            (offset + 1) (byteAt data.toNat 1)
          transfer := some ⟨.fromHost, offset + 2, words⟩
          ready := words % 256 != 0 }
    | _ => d
  else d

/-- Always eventually ready, whatever has been read of the status so far. -/
structure EventuallyReady (status : Nat → UInt8) : Prop where
  idle : ∀ n, ∃ m ≥ n, status m &&& ataStatusBsy = 0
  ready : ∀ n, ∃ m ≥ n, status m &&& ataStatusRdy ≠ 0

end HexOS.Blocks
