import HexOS.Library.WhileLoop
import HexOS.Blocks.Ata
import HexOS.Fat32.Driver

/-!
The two block back ends, and the cluster functions over either.

`disk.c` drives the ATA ports and waits for the device before every sector;
`external-inserter.c` copies between the caller's buffer and an image in memory.
A wait that never ends gives `none`.
-/

namespace HexOS.Blocks

open WhileLoop

/-! ### disk.c -/

/-- Read the status port until it shows what `leave` asks for. -/
def statusWait (leave : UInt8 → Bool) (fuel : Nat) : Ata → Option Ata :=
  iterate (fun d =>
    let reply := d.portIn 0x1F7
    if leave reply.1 then .inr reply.2 else .inl reply.2) fuel

def ataBusyWait : Nat → Ata → Option Ata := statusWait fun status => status &&& ataStatusBsy == 0

/-- `ATA_DRQ_wait`, which tests the RDY bit. -/
def ataDrqWait : Nat → Ata → Option Ata := statusWait fun status => status &&& ataStatusRdy != 0

/-- The six `out`s that set up a transfer. -/
def ataCommand (logicalBlockAddress : UInt32) (blockCount command : UInt8) (d : Ata) : Ata :=
  let d := d.portOut 0x1F6 ((0xE0 : UInt32) ||| ((logicalBlockAddress >>> 24) &&& 0xF)).toUInt8
  let d := d.portOut 0x1F2 blockCount
  let d := d.portOut 0x1F3 logicalBlockAddress.toUInt8
  let d := d.portOut 0x1F4 (logicalBlockAddress >>> 8).toUInt8
  let d := d.portOut 0x1F5 (logicalBlockAddress >>> 16).toUInt8
  d.portOut 0x1F7 command

/-- The first `count` rounds of the loop over `i`: both waits, then the words of
one block. -/
def blockRounds {α : Type} (fuel : Nat) (words : UInt32 → α × Ata → α × Ata) (s : α × Ata) :
    Nat → Option (α × Ata)
  | 0 => some s
  | count + 1 =>
      match blockRounds fuel words s count with
      | none => none
      | some (host, d) =>
          match ataBusyWait fuel d with
          | none => none
          | some d =>
              match ataDrqWait fuel d with
              | none => none
              | some d => some (words (UInt32.ofNat count) (host, d))

/-- The words of one block into `target`, which then points behind them. -/
def readWords (_ : UInt32) (s : (Nat × Memory) × Ata) : (Nat × Memory) × Ata :=
  let target := s.1.1
  let r := (List.range 256).foldl (fun (r : Memory × Ata) j =>
    let reply := r.2.portIn16 0x1F0
    (store16 r.1 (target + j) reply.1, reply.2)) (s.1.2, s.2)
  ((target + 256, r.1), r.2)

def writeWords (i : UInt32) (s : Memory × Ata) : Memory × Ata :=
  (s.1, (List.range 256).foldl
    (fun d j => d.portOut16 0x1F0 (load16 s.1 (256 * i + UInt32.ofNat j).toNat)) s.2)

/-- `target` counts words from `ptr`. -/
def Ata.readBlocks (fuel : Nat) (ptr : Memory) (logicalBlockAddress : UInt32) (blockCount : UInt8)
    (d : Ata) : Option (Memory × Ata) :=
  match ataBusyWait fuel d with
  | none => none
  | some d =>
      match blockRounds fuel readWords ((0, ptr), ataCommand logicalBlockAddress blockCount 0x20 d)
        blockCount.toNat with
      | none => none
      | some ((_, ptr), d) => some (ptr, d)

def Ata.writeBlocks (fuel : Nat) (ptr : Memory) (logicalBlockAddress : UInt32) (blockCount : UInt8)
    (d : Ata) : Option Ata :=
  match ataBusyWait fuel d with
  | none => none
  | some d =>
      match blockRounds fuel writeWords (ptr, ataCommand logicalBlockAddress blockCount 0x30 d)
        blockCount.toNat with
      | none => none
      | some (_, d) => some d

/-! ### external-inserter.c -/

def memcpy (dest : Memory) (destOffset : Nat) (src : Memory) (srcOffset n : Nat) : Memory :=
  (List.range n).foldl
    (fun dest i => Function.update dest (destOffset + i) (src (srcOffset + i))) dest

def Inserter.readBlocks (ptr : Memory) (logicalBlockAddress : UInt32) (blockCount : UInt8)
    (imageStorage : Memory) : Memory :=
  (List.range blockCount.toNat).foldl (fun ptr i =>
    memcpy ptr (512 * i) imageStorage (512 * (logicalBlockAddress + UInt32.ofNat i)).toNat 512) ptr

def Inserter.writeBlocks (ptr : Memory) (logicalBlockAddress : UInt32) (blockCount : UInt8)
    (imageStorage : Memory) : Memory :=
  (List.range blockCount.toNat).foldl (fun imageStorage i =>
    memcpy imageStorage (512 * (logicalBlockAddress + UInt32.ofNat i)).toNat ptr (512 * i) 512)
    imageStorage

/-! ### fat32.c -/

section Clusters

variable {ρ : Type}

/-- `write_clusters` over the `write_blocks` it is linked with. -/
def writeClusters (writeBlocks : Memory → UInt32 → UInt8 → ρ) (ptr : Memory)
    (clusterNumber : UInt32) (clusterCount : UInt8) : ρ :=
  writeBlocks ptr (Fat32.clusterToLba clusterNumber) (clusterCount * 4)

def readClusters (readBlocks : Memory → UInt32 → UInt8 → ρ) (ptr : Memory)
    (clusterNumber : UInt32) (clusterCount : UInt8) : ρ :=
  readBlocks ptr (Fat32.clusterToLba clusterNumber) (clusterCount * 4)

end Clusters

end HexOS.Blocks
