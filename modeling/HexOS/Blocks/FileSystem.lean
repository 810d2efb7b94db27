import HexOS.Library.Clients
import HexOS.Blocks.BlockLayer
import HexOS.Fat32.System

/-!
The file system over the ports of the drive.

`fat32.c` knows of a disk only what `read_clusters`, `write_clusters` and the one
`read_blocks` of `is_empty_storage` tell it: its functions are clients of these.
Over the disk of clusters they compute the driver's functions (`sessionClient_run`), and
`disk.c` stands in for that disk on any device that is eventually ready
(`onAta_standsIn`). So a kernel on such a device answers every list of calls as the
driver does, and leaves the driver's disk on it.
-/

namespace HexOS.Blocks

open Clients WhileLoop BoundedScan PartialRuns Splice
open Fat32 hiding readClusters writeClusters

/-! ### What the driver asks for -/

inductive Request where
  /-- `read_blocks(buf, BOOT_SECTOR, 1)` -/
  | bootBlock
  | read (cluster : UInt32)
  | write (cluster : UInt32) (ptr : ClusterBuffer)

abbrev Request.Answer : Request → Type
  | .bootBlock => Bytes 512
  | .read _ => ClusterBuffer
  | .write _ _ => Unit

def onDisk : (request : Request) → Disk → request.Answer × Disk
  | .bootBlock, disk => (bootBlock disk, disk)
  | .read cluster, disk => (Fat32.readClusters disk cluster, disk)
  | .write cluster ptr, disk => ((), Fat32.writeClusters disk cluster ptr)

/-- Buffers that are read into hold 0 before; every byte of them is overwritten. -/
def onAta (fuel : Nat) : (request : Request) → Ata → Option (request.Answer × Ata)
  | .bootBlock, d =>
      match Ata.readBlocks fuel (fun _ => 0) 0 1 d with
      | none => none
      | some (buf, d) => some (fun b => buf b.val, d)
  | .read cluster, d =>
      match readClusters (Ata.readBlocks fuel) (fun _ => 0) cluster 1 d with
      | none => none
      | some (ptr, d) => some (fun b => ptr b.val, d)
  | .write cluster ptr, d =>
      match writeClusters (Ata.writeBlocks fuel) (peek ptr) cluster 1 d with
      | none => none
      | some d => some ((), d)

/-- The device holds the disk, and never stays busy. -/
structure Holds (disk : Disk) (d : Ata) : Prop where
  eventually : EventuallyReady d.status
  disk : diskOf d.image = disk

/-- The drive behind `disk.c` stands in for the disk. -/
theorem onAta_standsIn : Client.StandsIn Holds onDisk onAta := by
  rintro request disk d ⟨eventually, rfl⟩
  cases request with
  | bootBlock =>
      obtain ⟨fuel, d', done, status, image⟩ :=
        @ata_readBlocks d eventually 0 1 (by decide) fun _ => 0
      refine ⟨fuel, d', fun more enough => ?_, status ▸ eventually, by rw [image]; rfl⟩
      simp only [onAta, done more enough, onDisk, Option.some.injEq, Prod.mk.injEq, and_true]
      funext b
      have first := @splice_inside _ (fun _ => 0)
        (fun k => d.image (512 * ((0 : UInt32).toNat % 2 ^ 28) + k)) 0 (512 * (1 : UInt8).toNat)
        b.val b.isLt
      rw [Nat.zero_add] at first
      rw [first, bootBlock, diskOf]
      congr 1
  | read cluster =>
      obtain ⟨fuel, mem, d', done, status, image, bytes⟩ :=
        @ata_readCluster d eventually cluster fun _ => 0
      refine ⟨fuel, d', fun more enough => ?_, status ▸ eventually, image⟩
      simp only [onAta, done more enough, onDisk, Option.some.injEq, Prod.mk.injEq, and_true]
      exact funext bytes
  | write cluster ptr =>
      obtain ⟨fuel, d', done, status, image⟩ := @ata_writeCluster d eventually cluster (peek ptr)
      refine ⟨fuel, d', fun more enough => ?_, status ▸ eventually, ?_⟩
      · simp only [onAta, done more enough, onDisk]
      · rw [image, onDisk]
        congr 1
        funext b
        exact peek_of_lt ptr b.isLt

/-! ### The driver as a client -/

/-- The driver's memory, without the disk. -/
structure DriverState where
  fatTable : FAT32FileAllocationTable
  dirTableBuf : FAT32DirectoryTable
  clusterBuf : ClusterBuffer
  test : FAT32DirectoryTable

abbrev DriverState.over (s : DriverState) (disk : Disk) : Driver :=
  ⟨s.fatTable, s.dirTableBuf, s.clusterBuf, s.test, disk⟩

abbrev stateOf (d : Driver) : DriverState := ⟨d.fatTable, d.dirTableBuf, d.clusterBuf, d.test⟩

abbrev Code (α : Type) := Client Request Request.Answer α

section Code

variable {α : Type}

def Code.readBoot (next : Bytes 512 → Code α) : Code α := .ask .bootBlock next

def Code.readClusters (cluster : UInt32) (next : ClusterBuffer → Code α) : Code α :=
  .ask (.read cluster) next

def Code.writeClusters (cluster : UInt32) (ptr : ClusterBuffer) (next : Code α) : Code α :=
  .ask (.write cluster ptr) fun _ => next

theorem run_readBoot (next : Bytes 512 → Code α) (disk : Disk) :
    (Code.readBoot next).run onDisk disk = (next (bootBlock disk)).run onDisk disk := rfl

theorem run_readClusters (cluster : UInt32) (next : ClusterBuffer → Code α) (disk : Disk) :
    (Code.readClusters cluster next).run onDisk disk =
      (next (Fat32.readClusters disk cluster)).run onDisk disk := rfl

theorem run_writeClusters (cluster : UInt32) (ptr : ClusterBuffer) (next : Code α) (disk : Disk) :
    (Code.writeClusters cluster ptr next).run onDisk disk =
      next.run onDisk (Fat32.writeClusters disk cluster ptr) := rfl

/-- What a client has computed on a disk. -/
def settled (out : (α × DriverState) × Disk) : α × Driver := (out.1.1, out.1.2.over out.2)

end Code

/-! ### Initializing -/

def createFat32Client (s : DriverState) : Code (Reply × DriverState) :=
  let s := { s with
    clusterBuf := fun b => if h : b.val < 512 then fsSignature ⟨b.val, h⟩ else s.clusterBuf b }
  let s := { s with fatTable := Function.update s.fatTable 0 cluster0Value }
  let s := { s with fatTable := Function.update s.fatTable 1 cluster1Value }
  let s := { s with fatTable := Function.update s.fatTable 2 fatEndOfFile }
  let s := { s with
    dirTableBuf := initDirectoryTable s.dirTableBuf rootName rootClusterNumber }
  .writeClusters bootSector s.clusterBuf <|
  .writeClusters fatClusterNumber (fatBytes s.fatTable) <|
  .writeClusters rootClusterNumber (tableBytes s.dirTableBuf) <|
  .done (.status 0, s)

def initializeClient (s : DriverState) : Code (Reply × DriverState) :=
  .readBoot fun buf =>
    if memcmp buf fsSignature != 0 then createFat32Client s
    else
      .readClusters fatClusterNumber fun ptr =>
        let s := { s with fatTable := fatOf ptr }
        .readClusters rootClusterNumber fun ptr =>
          .done (.status 0, { s with dirTableBuf := tableOf ptr })

theorem initializeClient_run (s : DriverState) (disk : Disk) :
    settled ((initializeClient s).run onDisk disk) =
      (.status 0, initializeFilesystemFat32 (s.over disk)) := by
  rw [initializeClient, run_readBoot, initializeFilesystemFat32, isEmptyStorage]
  by_cases empty : (memcmp (bootBlock disk) fsSignature != 0) = true
  · have empty' : (memcmp (bootBlock (s.over disk).disk) fsSignature != 0) = true := empty
    rw [if_pos empty, if_pos empty']
    rfl
  · have empty' : ¬ (memcmp (bootBlock (s.over disk).disk) fsSignature != 0) = true := empty
    rw [if_neg empty, if_neg empty']
    rfl

/-! ### Reading -/

def readDirectoryClient (request : FAT32DriverRequest) (beyond : Nat → UInt8) (s : DriverState) :
    Code (Reply × DriverState) :=
  .readClusters request.parentClusterNumber fun ptr =>
    let s := { s with dirTableBuf := tableOf ptr }
    if request.parentClusterNumber < 2 ∨ request.parentClusterNumber > clusterMapSize ∨
        isDirectory s.dirTableBuf = 0 then .done (.status (-1), s)
    else
      match firstFrom 0 fun i => memcmp (s.dirTableBuf i).name request.name == 0 with
      | none => .done (.status 3, s)
      | some i =>
          let entry := s.dirTableBuf i
          if request.bufferSize < entry.filesize then .done (.status 2, s)
          else
            .readClusters entry.clusterLow.toUInt32 fun ptr =>
              let s := { s with clusterBuf := ptr }
              -- what is copied does not depend on the disk
              .done (⟨0, entry.filesize.toNat, fromClusterBuf (s.over fun _ _ => 0) beyond⟩, s)

theorem readDirectoryClient_run (request : FAT32DriverRequest) (beyond : Nat → UInt8)
    (s : DriverState) (disk : Disk) :
    settled ((readDirectoryClient request beyond s).run onDisk disk) =
      Fat32.readDirectory request beyond (s.over disk) := by
  simp only [readDirectoryClient, Fat32.readDirectory, run_readClusters]
  generalize tableOf (Fat32.readClusters disk request.parentClusterNumber) = table
  split
  · rfl
  · cases firstFrom 0 fun i => memcmp (table i).name request.name == 0 with
    | none => rfl
    | some i =>
        simp only
        split
        · rfl
        · rfl

def readClient (request : FAT32DriverRequest) (s : DriverState) : Code (Reply × DriverState) :=
  .readClusters request.parentClusterNumber fun ptr =>
    let s := { s with dirTableBuf := tableOf ptr }
    if request.parentClusterNumber < 2 ∨ request.parentClusterNumber > clusterMapSize ∨
        isDirectory s.dirTableBuf = 0 then .done (.status (-1), s)
    else
      match firstFrom 0 fun i => memcmp (s.dirTableBuf i).name request.name == 0 &&
          memcmp (s.dirTableBuf i).ext request.ext == 0 with
      | none => .done (.status 3, s)
      | some i =>
          let entry := s.dirTableBuf i
          if request.bufferSize < entry.filesize then .done (.status 2, s)
          else
            .readClusters entry.clusterLow.toUInt32 fun ptr =>
              .done (⟨0, 512, peek ptr⟩, { s with clusterBuf := ptr })

theorem readClient_run (request : FAT32DriverRequest) (s : DriverState) (disk : Disk) :
    settled ((readClient request s).run onDisk disk) = Fat32.read request (s.over disk) := by
  simp only [readClient, Fat32.read, run_readClusters]
  generalize tableOf (Fat32.readClusters disk request.parentClusterNumber) = table
  split
  · rfl
  · cases firstFrom 0 fun i => memcmp (table i).name request.name == 0 &&
        memcmp (table i).ext request.ext == 0 with
    | none => rfl
    | some i =>
        simp only
        split
        · rfl
        · rfl

/-! ### Writing -/

def writeFolderClient (request : FAT32DriverRequest) (clusterNumber : Fin 512) (s : DriverState) :
    Code (Int × DriverState) :=
  .readClusters (num clusterNumber) fun ptr =>
    let s := { s with dirTableBuf := tableOf ptr }
    let s := { s with
      dirTableBuf := initDirectoryTable s.dirTableBuf request.name request.parentClusterNumber }
    .writeClusters (num clusterNumber) (tableBytes s.dirTableBuf) <|
      let s := { s with fatTable := Function.update s.fatTable clusterNumber fatEndOfFile }
      .writeClusters fatClusterNumber (fatBytes s.fatTable) <|
      .done (0, s)

theorem writeFolderClient_run (request : FAT32DriverRequest) (clusterNumber : Fin 512)
    (s : DriverState) (disk : Disk) :
    settled ((writeFolderClient request clusterNumber s).run onDisk disk) =
      (0, Fat32.writeFolder request clusterNumber (s.over disk)) := rfl

/-- The part of a round of the file loop that `writeChunk` is, and what comes behind. -/
def writeChunkClient {α : Type} (request : FAT32DriverRequest) (tempCluster : Fin 512) (n : UInt32)
    (s : DriverState) (next : DriverState → Code α) : Code α :=
  let offset := n * clusterSize
  .readClusters (num tempCluster) fun ptr =>
    let s := { s with clusterBuf := ptr }
    let s := { s with clusterBuf := fun b => request.buf (offset.toNat + b.val) }
    .writeClusters (num tempCluster) s.clusterBuf <|
    .readClusters fatClusterNumber fun ptr =>
      next { s with fatTable := fatOf ptr }

theorem writeChunkClient_run {α : Type} (request : FAT32DriverRequest) (tempCluster : Fin 512)
    (n : UInt32) (s : DriverState) (next : DriverState → Code α) (disk : Disk) :
    (writeChunkClient request tempCluster n s next).run onDisk disk =
      (next (stateOf (Fat32.writeChunk request tempCluster n (s.over disk)))).run onDisk
        (Fat32.writeChunk request tempCluster n (s.over disk)).disk := rfl

def writeFileClient (request : FAT32DriverRequest) (clusterNumber : Fin 512)
    (n remainingBytes : UInt32) (s : DriverState) : Code (Int × DriverState) :=
  if remainingBytes = 0 then
    .writeClusters fatClusterNumber (fatBytes s.fatTable) (.done (0, s))
  else
    let tempCluster := clusterNumber
    writeChunkClient request tempCluster n s fun s =>
      if remainingBytes ≤ clusterSize then
        let s := { s with fatTable := Function.update s.fatTable tempCluster fatEndOfFile }
        .writeClusters fatClusterNumber (fatBytes s.fatTable) (.done (0, s))
      else
        let clusterNumber := findNextEmptyCluster s.fatTable (num clusterNumber)
        if clusterNumber = 0 then .done (-1, s)
        else
          let s := { s with
            fatTable := Function.update s.fatTable tempCluster (num clusterNumber) }
          .writeClusters fatClusterNumber (fatBytes s.fatTable) <|
          writeFileClient request clusterNumber (n + 1) (remainingBytes - clusterSize) s
  termination_by remainingBytes.toNat
  decreasing_by
    have lower := remaining_lower ‹¬ remainingBytes ≤ clusterSize›
    omega

theorem writeFileClient_run (request : FAT32DriverRequest) (clusterNumber : Fin 512)
    (n remainingBytes : UInt32) (s : DriverState) (disk : Disk) :
    settled ((writeFileClient request clusterNumber n remainingBytes s).run onDisk disk) =
      Fat32.writeFile request clusterNumber n remainingBytes (s.over disk) := by
  induction left : remainingBytes.toNat using Nat.strongRecOn
    generalizing clusterNumber n remainingBytes s disk with
  | ind left ih =>
      rw [writeFileClient, Fat32.writeFile]
      by_cases none : remainingBytes = 0
      · rw [if_pos none, if_pos none]
        rfl
      · rw [if_neg none, if_neg none]
        simp only [writeChunkClient_run]
        generalize Fat32.writeChunk request clusterNumber n (s.over disk) = d
        by_cases last : remainingBytes ≤ clusterSize
        · rw [if_pos last, if_pos last]
          rfl
        · rw [if_neg last, if_neg last]
          simp only [stateOf]
          by_cases full : findNextEmptyCluster d.fatTable (num clusterNumber) = 0
          · rw [if_pos full, if_pos full]
            rfl
          · rw [if_neg full, if_neg full]
            have lower := remaining_lower last
            exact ih (remainingBytes - clusterSize).toNat (by omega) _ _ _ _ _ rfl

def writeClient (request : FAT32DriverRequest) (s : DriverState) : Code (Int × DriverState) :=
  .readClusters request.parentClusterNumber fun ptr =>
    let s := { s with dirTableBuf := tableOf ptr }
    let val := validateWrite request s.dirTableBuf
    if val ≠ 0 then .done (val.toNat, s)
    else
      let clusterNumber := findEmptyCluster s.fatTable
      let entryNumber := findEmptyEntry s.dirTableBuf
      if clusterNumber = 0 ∨ entryNumber = 0 then .done (-1, s)
      else
        let s := { s with
          dirTableBuf := writeEntry request s.dirTableBuf (num clusterNumber) entryNumber }
        .writeClusters request.parentClusterNumber (tableBytes s.dirTableBuf) <|
          if request.bufferSize = 0 then writeFolderClient request clusterNumber s
          else writeFileClient request clusterNumber 0 request.bufferSize s

theorem writeClient_run (request : FAT32DriverRequest) (s : DriverState) (disk : Disk) :
    settled ((writeClient request s).run onDisk disk) = Fat32.write request (s.over disk) := by
  simp only [writeClient, Fat32.write, run_readClusters]
  generalize tableOf (Fat32.readClusters disk request.parentClusterNumber) = table
  split
  · rfl
  · split
    · rfl
    · rw [run_writeClusters]
      split
      · exact writeFolderClient_run request _ _ _
      · exact writeFileClient_run request _ _ _ _ _

/-! ### Deleting -/

theorem toNat_lt_mapSize (k : UInt8) : k.toNat < 512 := by
  have small := k.toNat_lt
  omega

/-- The loop over `k`, which may run out of fuel. -/
def deleteRoundsClient (request : FAT32DriverRequest) (stack : UInt8 → Nat → UInt8) :
    Nat → UInt8 → DriverState → Code (Option DriverState)
  | 0, _, _ => .done none
  | fuel + 1, k, s =>
      if k.toUInt32 < request.bufferSize / clusterSize then
        let index : Fin 512 := ⟨k.toNat, toNat_lt_mapSize k⟩
        let temp := s.fatTable index
        let s := { s with fatTable := Function.update s.fatTable index 0 }
        .writeClusters request.parentClusterNumber (tempBytes temp (stack k)) <|
        deleteRoundsClient request stack fuel (k + 1) s
      else .done (some s)

theorem deleteRoundsClient_run (request : FAT32DriverRequest) (stack : UInt8 → Nat → UInt8)
    (fuel : Nat) (k : UInt8) (s : DriverState) (disk : Disk) :
    iterate (deleteRound request stack) fuel (k, s.over disk) =
      ((deleteRoundsClient request stack fuel k s).run onDisk disk).1.map fun s' =>
        s'.over ((deleteRoundsClient request stack fuel k s).run onDisk disk).2 := by
  induction fuel generalizing k s disk with
  | zero => rfl
  | succ fuel ih =>
      rw [iterate, deleteRound, deleteRoundsClient]
      by_cases more : k.toUInt32 < request.bufferSize / clusterSize
      · rw [if_pos more, if_pos more]
        exact ih (k + 1)
          { s with fatTable := Function.update s.fatTable ⟨k.toNat, toNat_lt_mapSize k⟩ 0 }
          (Fat32.writeClusters disk request.parentClusterNumber _)
      · rw [if_neg more, if_neg more]
        rfl

/-- What a client that may fault has computed on a disk. -/
def ended {α : Type} (out : Except Fault (α × DriverState) × Disk) : Except Fault (α × Driver) :=
  match out.1 with
  | .ok (a, s) => .ok (a, s.over out.2)
  | .error fault => .error fault

def deleteEntryClient (request : FAT32DriverRequest) (i : Fin 64) (s : DriverState) :
    Code (Except Fault (Int × DriverState)) :=
  let clusterNumber := entryCluster (s.dirTableBuf i)
  let s := { s with dirTableBuf := Function.update s.dirTableBuf i .empty }
  if h : clusterNumber.toNat < 512 then
    let s := { s with fatTable := Function.update s.fatTable ⟨clusterNumber.toNat, h⟩ 0 }
    .writeClusters fatClusterNumber (fatBytes s.fatTable) <|
    .writeClusters request.parentClusterNumber (tableBytes s.dirTableBuf) <|
    .done (.ok (0, s))
  else .done (.error (.wildIndex clusterNumber))

theorem deleteEntryClient_run (request : FAT32DriverRequest) (i : Fin 64) (s : DriverState)
    (disk : Disk) :
    ended ((deleteEntryClient request i s).run onDisk disk) =
      deleteEntry request i (s.over disk) := by
  simp only [deleteEntryClient, deleteEntry]
  by_cases inside : (entryCluster (s.dirTableBuf i)).toNat < 512
  · rw [dif_pos inside, dif_pos inside]
    rfl
  · rw [dif_neg inside, dif_neg inside]
    rfl

def deleteLoopClient (fuel : Nat) (request : FAT32DriverRequest)
    (stack : Fin 64 → UInt8 → Nat → UInt8) :
    List (Fin 64) → DriverState → Code (Except Fault (Int × DriverState))
  | [], s => .done (.ok (1, s))
  | i :: rest, s =>
      if memcmp (s.dirTableBuf i).name request.name = 0 then
        if (s.dirTableBuf i).attribute = attrSubdirectory then
          let clusterNumber := entryCluster (s.dirTableBuf i)
          .readClusters clusterNumber fun ptr =>
            let s := { s with test := tableOf ptr }
            match firstFrom 1 fun j => (s.test j).userAttribute != 0 with
            | some _ => .done (.ok (2, s))
            | none => deleteLoopClient fuel request stack rest s
        else
          (deleteRoundsClient request (stack i) fuel 1 s).bind fun
            | none => .done (.error .outOfFuel)
            | some s => deleteLoopClient fuel request stack rest s
      else deleteEntryClient request i s

theorem deleteLoopClient_run (fuel : Nat) (request : FAT32DriverRequest)
    (stack : Fin 64 → UInt8 → Nat → UInt8) (slots : List (Fin 64)) (s : DriverState) (disk : Disk) :
    ended ((deleteLoopClient fuel request stack slots s).run onDisk disk) =
      deleteLoop fuel request stack slots (s.over disk) := by
  induction slots generalizing s disk with
  | nil => rfl
  | cons i rest ih =>
      simp only [deleteLoopClient, deleteLoop]
      by_cases named : memcmp (s.dirTableBuf i).name request.name = 0
      · rw [if_pos named, if_pos named]
        by_cases folder : (s.dirTableBuf i).attribute = attrSubdirectory
        · rw [if_pos folder, if_pos folder, run_readClusters]
          generalize tableOf (Fat32.readClusters disk (entryCluster (s.dirTableBuf i))) = table
          cases firstFrom 1 fun j => (table j).userAttribute != 0 with
          | none => exact ih _ _
          | some j => rfl
        · rw [if_neg folder, if_neg folder, Client.run_bind, deleteRoundsClient_run]
          generalize (deleteRoundsClient request (stack i) fuel 1 s).run onDisk disk = out
          obtain ⟨left, disk'⟩ := out
          cases left with
          | none => rfl
          | some t => exact ih t disk'
      · rw [if_neg named, if_neg named]
        exact deleteEntryClient_run request i s disk

def deleteClient (fuel : Nat) (request : FAT32DriverRequest)
    (stack : Fin 64 → UInt8 → Nat → UInt8) (s : DriverState) :
    Code (Except Fault (Int × DriverState)) :=
  .readClusters request.parentClusterNumber fun ptr =>
    let s := { s with dirTableBuf := tableOf ptr }
    if request.parentClusterNumber < 2 ∨ request.parentClusterNumber > clusterMapSize ∨
        isDirectory s.dirTableBuf = 0 then .done (.ok (-1, s))
    else deleteLoopClient fuel request stack ((List.finRange 64).drop 1) s

theorem deleteClient_run (fuel : Nat) (request : FAT32DriverRequest)
    (stack : Fin 64 → UInt8 → Nat → UInt8) (s : DriverState) (disk : Disk) :
    ended ((deleteClient fuel request stack s).run onDisk disk) =
      Fat32.delete fuel request stack (s.over disk) := by
  simp only [deleteClient, Fat32.delete, run_readClusters]
  generalize tableOf (Fat32.readClusters disk request.parentClusterNumber) = table
  split
  · rfl
  · exact deleteLoopClient_run fuel request stack _ _ _

/-! ### Calls and lists of calls -/

/-- The status of a call that stores nothing. -/
def withStatus (out : Int × DriverState) : Except Fault (Reply × DriverState) :=
  .ok (.status out.1, out.2)

def callClient (fuel : Nat) (s : DriverState) : Call → Code (Except Fault (Reply × DriverState))
  | .initializeFilesystem => (initializeClient s).bind fun out => .done (.ok out)
  | .read request => (readClient request s).bind fun out => .done (.ok out)
  | .readDirectory request beyond =>
      (readDirectoryClient request beyond s).bind fun out => .done (.ok out)
  | .write request => (writeClient request s).bind fun out => .done (withStatus out)
  | .delete request stack =>
      (deleteClient fuel request stack s).bind fun
        | .ok out => .done (withStatus out)
        | .error fault => .done (.error fault)

/-- **One call** computes on the disk what the driver's step does. -/
theorem callClient_run (fuel : Nat) (call : Call) (s : DriverState) (disk : Disk) :
    ended ((callClient fuel s call).run onDisk disk) = Fat32.step fuel (s.over disk) call := by
  cases call with
  | initializeFilesystem =>
      rw [callClient, Client.run_bind, Fat32.step, ← initializeClient_run s disk]
      generalize (initializeClient s).run onDisk disk = out
      rfl
  | read request =>
      rw [callClient, Client.run_bind, Fat32.step, ← readClient_run request s disk]
      generalize (readClient request s).run onDisk disk = out
      rfl
  | readDirectory request beyond =>
      rw [callClient, Client.run_bind, Fat32.step, ← readDirectoryClient_run request beyond s disk]
      generalize (readDirectoryClient request beyond s).run onDisk disk = out
      rfl
  | write request =>
      rw [callClient, Client.run_bind, Fat32.step, ← writeClient_run request s disk]
      generalize (writeClient request s).run onDisk disk = out
      rfl
  | delete request stack =>
      rw [callClient, Client.run_bind, Fat32.step, ← deleteClient_run fuel request stack s disk]
      generalize (deleteClient fuel request stack s).run onDisk disk = out
      obtain ⟨result, disk'⟩ := out
      cases result with
      | ok pair => rfl
      | error fault => rfl

def sessionClient (fuel : Nat) (s : DriverState) :
    List Call → Code (Except Fault (List Reply × DriverState))
  | [] => .done (.ok ([], s))
  | call :: calls =>
      (callClient fuel s call).bind fun
        | .error fault => .done (.error fault)
        | .ok (reply, s) =>
            (sessionClient fuel s calls).bind fun
              | .error fault => .done (.error fault)
              | .ok (replies, s) => .done (.ok (reply :: replies, s))

theorem sessionClient_run (fuel : Nat) (calls : List Call) (s : DriverState) (disk : Disk) :
    ended ((sessionClient fuel s calls).run onDisk disk) =
      run (Fat32.step fuel) (s.over disk) calls := by
  induction calls generalizing s disk with
  | nil => rfl
  | cons call calls ih =>
      rw [sessionClient, Client.run_bind, run, ← callClient_run]
      generalize (callClient fuel s call).run onDisk disk = out
      obtain ⟨result, disk'⟩ := out
      cases result with
      | error fault => rfl
      | ok pair =>
          obtain ⟨reply, t⟩ := pair
          simp only [ended]
          rw [Client.run_bind, ← ih t disk']
          generalize (sessionClient fuel t calls).run onDisk disk' = rest
          obtain ⟨result, disk''⟩ := rest
          cases result with
          | error fault => rfl
          | ok pair => rfl

/-- **The file system over the drive.** On any device that never stays busy for ever,
every list of calls comes to an end with the replies and the faults of the driver's
run, and the device then holds the disk of that run. -/
theorem session_over_ata (fuel : Nat) (calls : List Call) (s : DriverState) {d : Ata}
    (eventually : EventuallyReady d.status) :
    ∃ effort out d', (∀ more ≥ effort,
        (sessionClient fuel s calls).runWithin onAta more d = some (out, d')) ∧
      EventuallyReady d'.status ∧
      ended (out, diskOf d'.image) = run (Fat32.step fuel) (s.over (diskOf d.image)) calls := by
  obtain ⟨effort, d', finished, held⟩ := Client.run_refines onAta_standsIn
    (sessionClient fuel s calls) (⟨eventually, rfl⟩ : Holds (diskOf d.image) d)
  refine ⟨effort, _, d', finished, held.eventually, ?_⟩
  rw [held.disk]
  exact sessionClient_run fuel calls s (diskOf d.image)

end HexOS.Blocks
