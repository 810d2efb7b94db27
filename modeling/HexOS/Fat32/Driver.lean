import HexOS.Fat32.Layout
import HexOS.Library.BoundedScan
import HexOS.Library.WhileLoop
import Mathlib.Data.Fin.VecNotation

/-!
The functions of `fat32.c`, translated statement by statement.

The driver's static variables and the disk are one state, passed explicitly. A
caller's buffer is the memory from `request.buf` on. Two operations read memory
that is not theirs: `read_directory` may copy past the end of `cluster_buf`, into
`test` and on, and `delete` writes a whole cluster from the address of a
four-byte local. What lies outside the driver is an argument of the call.
`delete` can also index outside `cluster_map` or loop forever; both are faults.
-/

namespace HexOS.Fat32

open BoundedScan ByteWords WhileLoop

/-! ### State -/

structure FAT32DriverRequest where
  buf : Nat → UInt8
  name : Bytes 8
  ext : Bytes 3
  parentClusterNumber : UInt32
  bufferSize : UInt32

/-- The device by its clusters of four blocks. Past the end of the device a read
returns whatever the device returns. -/
abbrev Disk := Nat → ClusterBuffer

/-- `fat_state`, `test` and the disk. -/
structure Driver where
  fatTable : FAT32FileAllocationTable
  dirTableBuf : FAT32DirectoryTable
  clusterBuf : ClusterBuffer
  test : FAT32DirectoryTable
  disk : Disk

/-- A return code and the bytes stored from `request.buf[0]` on. -/
structure Reply where
  code : Int
  length : Nat
  byte : Nat → UInt8

def Reply.status (code : Int) : Reply := ⟨code, 0, fun _ => 0⟩

inductive Fault where
  | wildIndex (index : UInt32)
  | outOfFuel
  deriving DecidableEq, Repr

/-! ### Clusters -/

def clusterToLba (cluster : UInt32) : UInt32 := cluster * clusterBlockCount

/-- The cluster the device transfers: `disk.c` hands it 28 bits of the block
address, so clusters 2^26 apart are one. -/
def deviceCluster (cluster : UInt32) : Nat := (clusterToLba cluster &&& 0x0FFFFFFF).toNat / 4

/-- `read_clusters` for the one cluster the driver ever asks for. -/
def readClusters (disk : Disk) (cluster : UInt32) : ClusterBuffer := disk (deviceCluster cluster)

def writeClusters (disk : Disk) (cluster : UInt32) (ptr : ClusterBuffer) : Disk :=
  Function.update disk (deviceCluster cluster) ptr

/-- A `cluster_map` index as a cluster number. -/
def num (c : Fin 512) : UInt32 := UInt32.ofNat c.val

/-! ### Initializing -/

def initDirectoryTable (table : FAT32DirectoryTable) (name : Bytes 8)
    (parentDirCluster : UInt32) : FAT32DirectoryTable :=
  Function.update table 0
    { table 0 with
      name := name
      «attribute» := attrSubdirectory
      userAttribute := uattrNotEmpty
      clusterLow := (parentDirCluster >>> 16).toUInt16
      clusterHigh := (parentDirCluster &&& 0xFFFF).toUInt16
      filesize := 0 }

/-- Block 0: the first 512 bytes of cluster 0. -/
def bootBlock (disk : Disk) : Bytes 512 := fun i => disk 0 ⟨i.val, by omega⟩

def isEmptyStorage (disk : Disk) : Bool := memcmp (bootBlock disk) fsSignature != 0

def rootName : Bytes 8 := ![0x72, 0x6F, 0x6F, 0x74, 0, 0, 0, 0]

def createFat32 (d : Driver) : Driver :=
  let d := { d with
    clusterBuf := fun b => if h : b.val < 512 then fsSignature ⟨b.val, h⟩ else d.clusterBuf b }
  let d := { d with fatTable := Function.update d.fatTable 0 cluster0Value }
  let d := { d with fatTable := Function.update d.fatTable 1 cluster1Value }
  let d := { d with fatTable := Function.update d.fatTable 2 fatEndOfFile }
  let d := { d with dirTableBuf := initDirectoryTable d.dirTableBuf rootName rootClusterNumber }
  let d := { d with disk := writeClusters d.disk bootSector d.clusterBuf }
  let d := { d with disk := writeClusters d.disk fatClusterNumber (fatBytes d.fatTable) }
  { d with disk := writeClusters d.disk rootClusterNumber (tableBytes d.dirTableBuf) }

def initializeFilesystemFat32 (d : Driver) : Driver :=
  if isEmptyStorage d.disk then createFat32 d
  else
    let d := { d with fatTable := fatOf (readClusters d.disk fatClusterNumber) }
    { d with dirTableBuf := tableOf (readClusters d.disk rootClusterNumber) }

/-! ### Directory operations -/

/-- The first free cluster; 0 when there is none. -/
def findEmptyCluster (fat : FAT32FileAllocationTable) : Fin 512 :=
  (firstFrom 2 fun i => fat i == fatEmptyEntry).getD 0

def findNextEmptyCluster (fat : FAT32FileAllocationTable) (i : UInt32) : Fin 512 :=
  if i ≥ clusterMapSize ∨ i < 2 then 0
  else (firstFrom (i.toNat + 1) fun j => fat j == fatEmptyEntry).getD 0

def findEmptyEntry (entry : FAT32DirectoryTable) : Fin 64 :=
  (firstFrom 1 fun i => (entry i).userAttribute != uattrNotEmpty).getD 0

def isDirectory (entry : FAT32DirectoryTable) : UInt8 :=
  if (entry 0).userAttribute ≠ uattrNotEmpty ∨ (entry 0).filesize ≠ 0 then 0 else 1

/-- The comparison of `isExist`: folders are matched by name alone. -/
def existMatch (request : FAT32DriverRequest) (entry : FAT32DirectoryEntry) : Bool :=
  if request.bufferSize = 0 then memcmp entry.name request.name == 0
  else memcmp entry.name request.name == 0 && memcmp entry.ext request.ext == 0

def isExist (request : FAT32DriverRequest) (entry : FAT32DirectoryTable) : Fin 64 :=
  (firstFrom 0 fun i => existMatch request (entry i)).getD 0

def validateWrite (request : FAT32DriverRequest) (entry : FAT32DirectoryTable) : UInt8 :=
  if request.parentClusterNumber < 2 ∨ request.parentClusterNumber > clusterMapSize ∨
      isDirectory entry = 0 then 2
  else if isExist request entry > 0 then 1
  else 0

def writeEntry (request : FAT32DriverRequest) (entry : FAT32DirectoryTable)
    (clusterNumber : UInt32) (entryNumber : Fin 64) : FAT32DirectoryTable :=
  let slot := { entry entryNumber with
    name := request.name
    userAttribute := uattrNotEmpty
    clusterLow := (clusterNumber &&& 0xFFFF).toUInt16
    clusterHigh := (clusterNumber >>> 16).toUInt16
    filesize := request.bufferSize }
  Function.update entry entryNumber
    (if request.bufferSize = 0 then { slot with «attribute» := attrSubdirectory }
    else { slot with «attribute» := 0, ext := request.ext })

/-- `cluster_high << 16 | cluster_low`, as `delete` decodes an entry. -/
def entryCluster (e : FAT32DirectoryEntry) : UInt32 :=
  (e.clusterHigh.toUInt32 <<< 16) ||| e.clusterLow.toUInt32

/-! ### Reading -/

/-- The memory from `cluster_buf` on: the other static, `test`, lies behind it,
and `beyond` behind that. -/
def fromClusterBuf (d : Driver) (beyond : Nat → UInt8) (j : Nat) : UInt8 :=
  if h : j < 2048 then d.clusterBuf ⟨j, h⟩
  else if j < 4096 then peek (tableBytes d.test) (j - 2048)
  else beyond (j - 4096)

/-- A recorded size above 2048 makes the final copy run past `cluster_buf`. -/
def readDirectory (request : FAT32DriverRequest) (beyond : Nat → UInt8) (d : Driver) :
    Reply × Driver :=
  let d := { d with dirTableBuf := tableOf (readClusters d.disk request.parentClusterNumber) }
  if request.parentClusterNumber < 2 ∨ request.parentClusterNumber > clusterMapSize ∨
      isDirectory d.dirTableBuf = 0 then (.status (-1), d)
  else
    match firstFrom 0 fun i => memcmp (d.dirTableBuf i).name request.name == 0 with
    | none => (.status 3, d)
    | some i =>
        let entry := d.dirTableBuf i
        if request.bufferSize < entry.filesize then (.status 2, d)
        else
          let d := { d with clusterBuf := readClusters d.disk entry.clusterLow.toUInt32 }
          (⟨0, entry.filesize.toNat, fromClusterBuf d beyond⟩, d)

def read (request : FAT32DriverRequest) (d : Driver) : Reply × Driver :=
  let d := { d with dirTableBuf := tableOf (readClusters d.disk request.parentClusterNumber) }
  if request.parentClusterNumber < 2 ∨ request.parentClusterNumber > clusterMapSize ∨
      isDirectory d.dirTableBuf = 0 then (.status (-1), d)
  else
    match firstFrom 0 fun i => memcmp (d.dirTableBuf i).name request.name == 0 &&
        memcmp (d.dirTableBuf i).ext request.ext == 0 with
    | none => (.status 3, d)
    | some i =>
        let entry := d.dirTableBuf i
        if request.bufferSize < entry.filesize then (.status 2, d)
        else
          let d := { d with clusterBuf := readClusters d.disk entry.clusterLow.toUInt32 }
          (⟨0, 512, peek d.clusterBuf⟩, d)

/-! ### Writing -/

/-- The folder branch of `write`. The new table starts from what the cluster
held before. -/
def writeFolder (request : FAT32DriverRequest) (clusterNumber : Fin 512) (d : Driver) : Driver :=
  let d := { d with dirTableBuf := tableOf (readClusters d.disk (num clusterNumber)) }
  let d := { d with
    dirTableBuf := initDirectoryTable d.dirTableBuf request.name request.parentClusterNumber }
  let d := { d with
    disk := writeClusters d.disk (num clusterNumber) (tableBytes d.dirTableBuf) }
  let d := { d with fatTable := Function.update d.fatTable clusterNumber fatEndOfFile }
  { d with disk := writeClusters d.disk fatClusterNumber (fatBytes d.fatTable) }

/-- The data copy of one round of the file loop, and the FAT read back after it. -/
def writeChunk (request : FAT32DriverRequest) (tempCluster : Fin 512) (n : UInt32)
    (d : Driver) : Driver :=
  let offset := n * clusterSize
  let d := { d with clusterBuf := readClusters d.disk (num tempCluster) }
  let d := { d with clusterBuf := fun b => request.buf (offset.toNat + b.val) }
  let d := { d with disk := writeClusters d.disk (num tempCluster) d.clusterBuf }
  { d with fatTable := fatOf (readClusters d.disk fatClusterNumber) }

theorem remaining_lower {remainingBytes : UInt32} (large : ¬ remainingBytes ≤ clusterSize) :
    2048 < remainingBytes.toNat ∧
      (remainingBytes - clusterSize).toNat + 2048 = remainingBytes.toNat := by
  have above : 2048 < remainingBytes.toNat := UInt32.lt_iff_toNat_lt.mp (UInt32.not_le.mp large)
  have less : (remainingBytes - clusterSize).toNat = remainingBytes.toNat - 2048 :=
    UInt32.toNat_sub_of_le _ _ (UInt32.le_iff_toNat_le.mpr (le_of_lt above))
  omega

/-- The `while (remaining_bytes > 0)` loop and the flush behind it. -/
def writeFile (request : FAT32DriverRequest) (clusterNumber : Fin 512)
    (n remainingBytes : UInt32) (d : Driver) : Int × Driver :=
  if remainingBytes = 0 then
    (0, { d with disk := writeClusters d.disk fatClusterNumber (fatBytes d.fatTable) })
  else
    let tempCluster := clusterNumber
    let d := writeChunk request tempCluster n d
    if remainingBytes ≤ clusterSize then
      let d := { d with fatTable := Function.update d.fatTable tempCluster fatEndOfFile }
      (0, { d with disk := writeClusters d.disk fatClusterNumber (fatBytes d.fatTable) })
    else
      let clusterNumber := findNextEmptyCluster d.fatTable (num clusterNumber)
      if clusterNumber = 0 then (-1, d)
      else
        let d := { d with
          fatTable := Function.update d.fatTable tempCluster (num clusterNumber) }
        let d := { d with disk := writeClusters d.disk fatClusterNumber (fatBytes d.fatTable) }
        writeFile request clusterNumber (n + 1) (remainingBytes - clusterSize) d
  termination_by remainingBytes.toNat
  decreasing_by
    have lower := remaining_lower ‹¬ remainingBytes ≤ clusterSize›
    omega

def write (request : FAT32DriverRequest) (d : Driver) : Int × Driver :=
  let d := { d with dirTableBuf := tableOf (readClusters d.disk request.parentClusterNumber) }
  let val := validateWrite request d.dirTableBuf
  if val ≠ 0 then (val.toNat, d)
  else
    let clusterNumber := findEmptyCluster d.fatTable
    let entryNumber := findEmptyEntry d.dirTableBuf
    if clusterNumber = 0 ∨ entryNumber = 0 then (-1, d)
    else
      let d := { d with
        dirTableBuf := writeEntry request d.dirTableBuf (num clusterNumber) entryNumber }
      let d := { d with
        disk := writeClusters d.disk request.parentClusterNumber (tableBytes d.dirTableBuf) }
      if request.bufferSize = 0 then (0, writeFolder request clusterNumber d)
      else writeFile request clusterNumber 0 request.bufferSize d

/-! ### Deleting -/

/-- The cluster that starts at the local `temp`: its four bytes and the stack
above it. -/
def tempBytes (temp : UInt32) (stack : Nat → UInt8) : ClusterBuffer := fun b =>
  if b.val < 4 then byteAt temp.toNat b.val else stack b.val

/-- One round of the loop over `k`. The counter has 8 bits, its bound 32. -/
def deleteRound (request : FAT32DriverRequest) (stack : UInt8 → Nat → UInt8) :
    UInt8 × Driver → (UInt8 × Driver) ⊕ Driver
  | (k, d) =>
      if k.toUInt32 < request.bufferSize / clusterSize then
        let index : Fin 512 := ⟨k.toNat, lt_trans k.toNat_lt (by decide)⟩
        let temp := d.fatTable index
        let d := { d with fatTable := Function.update d.fatTable index 0 }
        let d := { d with
          disk := writeClusters d.disk request.parentClusterNumber (tempBytes temp (stack k)) }
        .inl (k + 1, d)
      else .inr d

/-- What stands behind the test of the name: slot `i` is removed. -/
def deleteEntry (request : FAT32DriverRequest) (i : Fin 64) (d : Driver) :
    Except Fault (Int × Driver) :=
  let clusterNumber := entryCluster (d.dirTableBuf i)
  let d := { d with dirTableBuf := Function.update d.dirTableBuf i .empty }
  if h : clusterNumber.toNat < 512 then
    let d := { d with fatTable := Function.update d.fatTable ⟨clusterNumber.toNat, h⟩ 0 }
    let d := { d with disk := writeClusters d.disk fatClusterNumber (fatBytes d.fatTable) }
    .ok (0, { d with
      disk := writeClusters d.disk request.parentClusterNumber (tableBytes d.dirTableBuf) })
  else .error (.wildIndex clusterNumber)

/-- The loop over the slots still to visit. The `continue` closes the branch of
a matching name, for directories and files alike, so the slot that gets removed
is the first one with another name. -/
def deleteLoop (fuel : Nat) (request : FAT32DriverRequest)
    (stack : Fin 64 → UInt8 → Nat → UInt8) : List (Fin 64) → Driver → Except Fault (Int × Driver)
  | [], d => .ok (1, d)
  | i :: rest, d =>
      if memcmp (d.dirTableBuf i).name request.name = 0 then
        if (d.dirTableBuf i).attribute = attrSubdirectory then
          let clusterNumber := entryCluster (d.dirTableBuf i)
          let d := { d with test := tableOf (readClusters d.disk clusterNumber) }
          match firstFrom 1 fun j => (d.test j).userAttribute != 0 with
          | some _ => .ok (2, d)
          | none => deleteLoop fuel request stack rest d
        else
          match iterate (deleteRound request (stack i)) fuel (1, d) with
          | none => .error .outOfFuel
          | some d => deleteLoop fuel request stack rest d
      else deleteEntry request i d

/-- `stack i k` is the stack above `temp` in round `k` for slot `i`. -/
def delete (fuel : Nat) (request : FAT32DriverRequest) (stack : Fin 64 → UInt8 → Nat → UInt8)
    (d : Driver) : Except Fault (Int × Driver) :=
  let d := { d with dirTableBuf := tableOf (readClusters d.disk request.parentClusterNumber) }
  if request.parentClusterNumber < 2 ∨ request.parentClusterNumber > clusterMapSize ∨
      isDirectory d.dirTableBuf = 0 then .ok (-1, d)
  else deleteLoop fuel request stack ((List.finRange 64).drop 1) d

end HexOS.Fat32
