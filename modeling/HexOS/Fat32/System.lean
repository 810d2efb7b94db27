import HexOS.Fat32.Chains
import HexOS.Library.PartialRuns

/-!
The driver as a machine: its calls, one step for each, and the states it starts
from.

A run is a list of calls. A call that faults ends the run. `StepOutcome` lists
what one call can do to the volume, so that an invariant of all runs is a case
analysis over it.
-/

namespace HexOS.Fat32

open PartialRuns

inductive Call where
  | initializeFilesystem
  | read (request : FAT32DriverRequest)
  | readDirectory (request : FAT32DriverRequest) (beyond : Nat → UInt8)
  | write (request : FAT32DriverRequest)
  | delete (request : FAT32DriverRequest) (stack : Fin 64 → UInt8 → Nat → UInt8)

/-- `fuel` bounds the rounds of each loop over `k`. -/
def step (fuel : Nat) (d : Driver) : Call → Except Fault (Reply × Driver)
  | .initializeFilesystem => .ok (.status 0, initializeFilesystemFat32 d)
  | .read request => .ok (read request d)
  | .readDirectory request beyond => .ok (readDirectory request beyond d)
  | .write request => .ok (.status (write request d).1, (write request d).2)
  | .delete request stack =>
      match delete fuel request stack d with
      | .ok (code, d') => .ok (.status code, d')
      | .error fault => .error fault

/-! ### Starting -/

/-- Zeroed driver RAM in front of a disk. -/
def poweredOn (disk : Disk) : Driver :=
  ⟨fun _ => 0, fun _ => .empty, fun _ => 0, fun _ => .empty, disk⟩

def Unformatted (disk : Disk) : Prop := isEmptyStorage disk = true

instance (disk : Disk) : Decidable (Unformatted disk) := inferInstanceAs (Decidable (_ = _))

/-- The zeroed image the build makes. -/
def blankDisk : Disk := fun _ _ => 0

/-- The driver after `initialize_filesystem_fat32` at power-on. -/
def booted (disk : Disk) : Driver := initializeFilesystemFat32 (poweredOn disk)

/-! ### What one call does to the volume -/

/-- The first 512 bytes of cluster 0 are the signature. -/
def Signed (disk : Disk) : Prop := bootBlock disk = fsSignature

theorem unformatted_iff (disk : Disk) : Unformatted disk ↔ ¬ Signed disk := by
  simp [Unformatted, isEmptyStorage, Signed]

theorem signed_congr {disk disk' : Disk} (same : disk' 0 = disk 0) (signed : Signed disk) :
    Signed disk' := by
  unfold Signed bootBlock
  rw [same]
  exact signed

theorem blankDisk_unformatted : Unformatted blankDisk := by
  rw [unformatted_iff]
  intro signed
  exact absurd (congrFun signed 0) (by decide)

def formatFat (fat : FAT32FileAllocationTable) : FAT32FileAllocationTable :=
  Function.update (Function.update (Function.update fat 0 cluster0Value) 1 cluster1Value)
    2 fatEndOfFile

inductive StepOutcome (v : Volume) : Call → Int → Volume → Prop where
  | load : Signed v.disk → StepOutcome v .initializeFilesystem 0 ⟨fatOf (v.disk 1), v.disk⟩
  | format (boot root : ClusterBuffer) : ¬ Signed v.disk →
      (∀ i : Fin 512, peek boot i.val = fsSignature i) →
      LooksLikeDirectory (tableOf root) →
      StepOutcome v .initializeFilesystem 0 ⟨formatFat v.fat,
        Function.update (Function.update (Function.update v.disk 0 boot)
          1 (fatBytes (formatFat v.fat))) 2 root⟩
  | read {request : FAT32DriverRequest} {code : Int} : StepOutcome v (.read request) code v
  | readDirectory {request : FAT32DriverRequest} {beyond : Nat → UInt8} {code : Int} :
      StepOutcome v (.readDirectory request beyond) code v
  | write {request : FAT32DriverRequest} {code : Int} {v' : Volume} :
      WriteOutcome request v code v' → StepOutcome v (.write request) code v'
  | delete {request : FAT32DriverRequest} {stack : Fin 64 → UInt8 → Nat → UInt8} {code : Int}
      {v' : Volume} : DeleteOutcome request stack v code v' →
      StepOutcome v (.delete request stack) code v'

/-- The FAT on the disk that formatting leaves. -/
theorem fatOf_format (disk : Disk) (boot root : ClusterBuffer) (fat : FAT32FileAllocationTable) :
    fatOf (Function.update (Function.update (Function.update disk 0 boot) 1 (fatBytes fat)) 2 root 1) =
      fat := by
  rw [Function.update_of_ne (by decide), Function.update_self, fatOf_fatBytes]

theorem initDirectoryTable_header (table : FAT32DirectoryTable) (name : Bytes 8) (parent : UInt32) :
    LooksLikeDirectory (initDirectoryTable table name parent) := by
  simp [LooksLikeDirectory, initDirectoryTable]

theorem initDirectoryTable_of_ne {table : FAT32DirectoryTable} {name : Bytes 8} {parent : UInt32}
    {i : Fin 64} (behind : i ≠ 0) : initDirectoryTable table name parent i = table i :=
  Function.update_of_ne behind _ _

theorem createFat32_volume (d : Driver) :
    (createFat32 d).volume = ⟨formatFat d.fatTable,
      Function.update (Function.update
        (Function.update d.disk 0 fun b =>
          if h : b.val < 512 then fsSignature ⟨b.val, h⟩ else d.clusterBuf b)
        1 (fatBytes (formatFat d.fatTable)))
        2 (tableBytes (initDirectoryTable d.dirTableBuf rootName rootClusterNumber))⟩ := by
  simp [createFat32, Driver.volume, formatFat]

theorem initializeFilesystem_outcome (d : Driver) :
    StepOutcome d.volume .initializeFilesystem 0 (initializeFilesystemFat32 d).volume := by
  by_cases signed : Signed d.disk
  · have loaded : isEmptyStorage d.disk = false := by
      rw [Signed] at signed
      simpa [isEmptyStorage] using signed
    have result : (initializeFilesystemFat32 d).volume = ⟨fatOf (d.disk 1), d.disk⟩ := by
      simp [initializeFilesystemFat32, loaded, Driver.volume]
    rw [result]
    exact .load signed
  · have empty : isEmptyStorage d.disk = true := (unformatted_iff d.disk).mpr signed
    have result : initializeFilesystemFat32 d = createFat32 d := by
      rw [initializeFilesystemFat32, if_pos empty]
    rw [result, createFat32_volume]
    refine .format _ _ signed (fun i => ?_) ?_
    · have inside : i.val < 2048 := by omega
      rw [peek_of_lt _ inside, dif_pos i.isLt]
    · rw [tableOf_tableBytes]
      exact initDirectoryTable_header _ _ _

theorem read_volume (request : FAT32DriverRequest) (d : Driver) :
    (read request d).2.volume = d.volume := by
  unfold read
  simp only
  split
  · rfl
  · split
    · rfl
    · split <;> rfl

theorem readDirectory_volume (request : FAT32DriverRequest) (beyond : Nat → UInt8) (d : Driver) :
    (readDirectory request beyond d).2.volume = d.volume := by
  unfold readDirectory
  simp only
  split
  · rfl
  · split
    · rfl
    · split <;> rfl

/-! Only `delete` uses the static `test`. -/

theorem initializeFilesystem_test (d : Driver) : (initializeFilesystemFat32 d).test = d.test := by
  unfold initializeFilesystemFat32
  split
  · rfl
  · rfl

theorem read_test (request : FAT32DriverRequest) (d : Driver) : (read request d).2.test = d.test := by
  unfold read
  simp only
  split
  · rfl
  · split
    · rfl
    · split <;> rfl

theorem readDirectory_test (request : FAT32DriverRequest) (beyond : Nat → UInt8) (d : Driver) :
    (readDirectory request beyond d).2.test = d.test := by
  unfold readDirectory
  simp only
  split
  · rfl
  · split
    · rfl
    · split <;> rfl

theorem writeFile_test (request : FAT32DriverRequest) (c : Fin 512) (n remaining : UInt32)
    (d : Driver) : (writeFile request c n remaining d).2.test = d.test := by
  induction hr : remaining.toNat using Nat.strongRecOn generalizing c n remaining d with
  | ind r ih =>
      rw [writeFile]
      split
      · rfl
      · simp only
        split
        · rfl
        · rename_i large
          have lower := remaining_lower large
          split
          · rfl
          · exact (ih _ (by omega) _ _ _ _ rfl).trans rfl

theorem write_test (request : FAT32DriverRequest) (d : Driver) :
    (write request d).2.test = d.test := by
  unfold write
  simp only
  split
  · rfl
  · split
    · rfl
    · split
      · rfl
      · exact writeFile_test request _ _ _ _

theorem step_outcome {fuel : Nat} {d d' : Driver} {call : Call} {reply : Reply}
    (done : step fuel d call = .ok (reply, d')) :
    StepOutcome d.volume call reply.code d'.volume := by
  cases call with
  | initializeFilesystem =>
      simp only [step, Except.ok.injEq, Prod.mk.injEq] at done
      obtain ⟨rfl, rfl⟩ := done
      exact initializeFilesystem_outcome d
  | read request =>
      simp only [step, Except.ok.injEq] at done
      have same := read_volume request d
      rw [done] at same
      rw [same]
      exact .read
  | readDirectory request beyond =>
      simp only [step, Except.ok.injEq] at done
      have same := readDirectory_volume request beyond d
      rw [done] at same
      rw [same]
      exact .readDirectory
  | write request =>
      simp only [step, Except.ok.injEq, Prod.mk.injEq] at done
      obtain ⟨rfl, rfl⟩ := done
      exact .write (write_outcome request d)
  | delete request stack =>
      simp only [step] at done
      split at done
      · rename_i code e ended
        simp only [Except.ok.injEq, Prod.mk.injEq] at done
        obtain ⟨rfl, rfl⟩ := done
        exact .delete (delete_outcome ended)
      · cases done

/-- On a formatted disk whose FAT is the one in RAM only writes and deletes
change the volume. -/
theorem StepOutcome.unchanged {call : Call} {v v' : Volume} {code : Int} (signed : Signed v.disk)
    (synced : v.fat = fatOf (v.disk 1)) (notWrite : ∀ request, call ≠ .write request)
    (notDelete : ∀ request stack, call ≠ .delete request stack)
    (outcome : StepOutcome v call code v') : v' = v := by
  cases outcome with
  | load => rw [← synced]
  | format _ _ unsigned => exact absurd signed unsigned
  | read => rfl
  | readDirectory => rfl
  | @write request => exact absurd rfl (notWrite request)
  | @delete request stack => exact absurd rfl (notDelete request stack)

/-! ### The new entry on disk -/

theorem storeEntry_of_ne {request : FAT32DriverRequest} {disk : Disk} {c : Fin 512} {k : Fin 64}
    {x : Nat} (other : x ≠ request.parentClusterNumber.toNat) :
    storeEntry request disk c k x = disk x :=
  Function.update_of_ne other _ _

/-- The parent's table once the new entry is stored. -/
theorem storeEntry_parent (request : FAT32DriverRequest) (disk : Disk) (c : Fin 512) (k : Fin 64) :
    tableOf (storeEntry request disk c k request.parentClusterNumber.toNat) =
      writeEntry request (parentTable disk request.parentClusterNumber) (num c) k := by
  rw [storeEntry, Function.update_self, tableOf_tableBytes]

/-- The FAT on disk is not in the way of a parent's new entry. -/
theorem storeEntry_fat {request : FAT32DriverRequest} {disk : Disk} {c : Fin 512} {k : Fin 64}
    (accepts : Accepts disk request.parentClusterNumber) :
    fatOf (storeEntry request disk c k 1) = fatOf (disk 1) := by
  have := accepts.1
  rw [storeEntry_of_ne (by omega)]

/-! ### The freshly formatted disk -/

/-- The table `create_fat32` gives the root directory at power-on. -/
def rootTable : FAT32DirectoryTable :=
  initDirectoryTable (fun _ => .empty) rootName rootClusterNumber

/-- The FAT `create_fat32` writes at power-on. -/
def freshFat : FAT32FileAllocationTable := formatFat fun _ => 0

def signatureCluster : ClusterBuffer := fun b =>
  if h : b.val < 512 then fsSignature ⟨b.val, h⟩ else 0

def freshDisk (disk : Disk) : Disk :=
  Function.update (Function.update (Function.update disk 0 signatureCluster)
    1 (fatBytes freshFat)) 2 (tableBytes rootTable)

/-- What formatting leaves, whatever the disk held. -/
theorem booted_volume {disk : Disk} (unformatted : Unformatted disk) :
    (booted disk).fatTable = freshFat ∧ (booted disk).disk = freshDisk disk := by
  have empty : isEmptyStorage (poweredOn disk).disk = true := unformatted
  have formats : booted disk = createFat32 (poweredOn disk) := by
    rw [booted, initializeFilesystemFat32, if_pos empty]
  have volume := createFat32_volume (poweredOn disk)
  simp only [Driver.volume, Volume.mk.injEq] at volume
  rw [formats]
  exact volume

theorem volume_booted {disk : Disk} (unformatted : Unformatted disk) :
    (booted disk).volume = ⟨freshFat, freshDisk disk⟩ := by
  obtain ⟨ram, image⟩ := booted_volume unformatted
  rw [Driver.volume, ram, image]

@[simp] theorem freshDisk_fat (disk : Disk) : fatOf (freshDisk disk 1) = freshFat := by
  simp [freshDisk]

@[simp] theorem freshDisk_root (disk : Disk) : tableOf (freshDisk disk 2) = rootTable := by
  simp [freshDisk]

theorem freshDisk_signed (disk : Disk) : Signed (freshDisk disk) := by
  funext i
  have other : ∀ x, 1 ≤ x → (0 : Nat) ≠ x := fun x positive => by omega
  rw [bootBlock, freshDisk, Function.update_of_ne (other 2 (by decide)),
    Function.update_of_ne (other 1 (by decide)), Function.update_self, signatureCluster,
    dif_pos i.isLt]

theorem freshDisk_of_above (disk : Disk) {x : Nat} (above : 3 ≤ x) : freshDisk disk x = disk x := by
  rw [freshDisk, Function.update_of_ne (by omega), Function.update_of_ne (by omega),
    Function.update_of_ne (by omega)]

theorem freshDisk_accepts_root (disk : Disk) : Accepts (freshDisk disk) rootClusterNumber := by
  refine ⟨by decide, by decide, ?_⟩
  rw [show rootClusterNumber.toNat = 2 from rfl, freshDisk_root]
  exact initDirectoryTable_header _ _ _

theorem freshFat_of_above {c : Fin 512} (above : 3 ≤ c.val) : freshFat c = fatEmptyEntry := by
  have other : ∀ n : Fin 512, n.val < 3 → c ≠ n := fun n less same => by rw [same] at above; omega
  rw [freshFat, formatFat, Function.update_of_ne (other 2 (by decide)),
    Function.update_of_ne (other 1 (by decide)), Function.update_of_ne (other 0 (by decide))]
  rfl

theorem freshFat_firstFree : FirstFree freshFat 3 := by
  refine BoundedScan.firstFrom_eq_some_iff.mpr ⟨by decide, ?_, fun j less hj => ?_⟩
  · simpa using freshFat_of_above (c := 3) (by decide)
  · have root : j = 2 := Fin.ext (by have : j.val < 3 := less; change j.val = 2; omega)
    subst root
    rfl

theorem rootTable_of_ne {i : Fin 64} (other : i ≠ 0) : rootTable i = .empty := by
  rw [rootTable, initDirectoryTable_of_ne other]

/-- No name is taken where only slot 0 can match: `isExist` does not count it. -/
theorem isExist_of_miss {request : FAT32DriverRequest} {table : FAT32DirectoryTable}
    (miss : ∀ i ≠ 0, existMatch request (table i) = false) : isExist request table = 0 := by
  rw [isExist_eq_zero_iff]
  cases own : existMatch request (table 0) with
  | true => exact .inl rfl
  | false =>
      refine .inr fun i => ?_
      by_cases zero : i = 0
      · rw [zero, own]
      · exact miss i zero

/-- In a table that is empty behind slot 0 only the empty name is taken. -/
theorem absent_of_empty {request : FAT32DriverRequest} {table : FAT32DirectoryTable}
    (empty : ∀ i ≠ 0, table i = .empty) (nonempty : request.name ≠ fun _ => 0) :
    isExist request table = 0 := by
  refine isExist_of_miss fun i other => ?_
  rw [empty i other]
  have differ : FAT32DirectoryEntry.empty.name ≠ request.name := fun same => nonempty same.symm
  unfold existMatch
  split <;> simp [differ]

theorem firstSlot_of_empty {table : FAT32DirectoryTable} (empty : ∀ i ≠ 0, table i = .empty) :
    FirstSlot table 1 := by
  refine BoundedScan.firstFrom_here (i := (1 : Fin 64)) ?_
  rw [empty 1 (by decide)]
  decide

section

variable {disk : Disk} {request : FAT32DriverRequest}

/-- A fresh root has room for any name, in slot 1. -/
theorem freshDisk_room (root : request.parentClusterNumber = rootClusterNumber)
    (nonempty : request.name ≠ fun _ => 0) :
    Accepts (freshDisk disk) request.parentClusterNumber ∧
      isExist request (parentTable (freshDisk disk) request.parentClusterNumber) = 0 ∧
      FirstSlot (parentTable (freshDisk disk) request.parentClusterNumber) 1 := by
  have two : rootClusterNumber.toNat = 2 := rfl
  have table : parentTable (freshDisk disk) request.parentClusterNumber = rootTable := by
    rw [parentTable, root, two, freshDisk_root]
  rw [table]
  refine ⟨?_, absent_of_empty (fun _ => rootTable_of_ne) nonempty,
    firstSlot_of_empty fun _ => rootTable_of_ne⟩
  rw [root]
  exact freshDisk_accepts_root disk

theorem findsPlace_booted (unformatted : Unformatted disk)
    (root : request.parentClusterNumber = rootClusterNumber)
    (nonempty : request.name ≠ fun _ => 0) : FindsPlace request (booted disk).volume := by
  obtain ⟨accepts, absent, slot⟩ := @freshDisk_room disk request root nonempty
  rw [volume_booted unformatted]
  exact ⟨accepts, absent, ⟨3, freshFat_firstFree⟩, ⟨1, slot⟩⟩

/-- The first write into a fresh root takes cluster 3 and slot 1. -/
theorem booted_write (unformatted : Unformatted disk)
    (root : request.parentClusterNumber = rootClusterNumber) (nonempty : request.name ≠ fun _ => 0) :
    Volume.write request (booted disk).volume =
      if request.bufferSize = 0 then
        (0, Volume.makeFolder request 3 ⟨freshFat, storeEntry request (freshDisk disk) 3 1⟩)
      else Volume.makeFile request 3 0 request.bufferSize
        (storeEntry request (freshDisk disk) 3 1) := by
  obtain ⟨accepts, absent, slot⟩ := @freshDisk_room disk request root nonempty
  rw [volume_booted unformatted]
  exact Volume.write_of_admitted (v := ⟨freshFat, freshDisk disk⟩) accepts absent
    freshFat_firstFree slot

end

/-- It succeeds when the file is one cluster at most. -/
theorem booted_write_small {disk : Disk} (unformatted : Unformatted disk)
    {request : FAT32DriverRequest} (root : request.parentClusterNumber = rootClusterNumber)
    (nonempty : request.name ≠ fun _ => 0) (small : request.bufferSize.toNat ≤ 2048) :
    (write request (booted disk)).1 = 0 := by
  rw [(write_volume request (booted disk)).1, booted_write unformatted root nonempty]
  split
  · rfl
  · have one : chunksNeeded request.bufferSize ≤ 1 := by unfold chunksNeeded; omega
    have fits : ∀ fat, fileFits fat 3 request.bufferSize = true := fun fat => by
      simp only [fileFits, decide_eq_true_eq]
      omega
    simp only [Volume.makeFile, fits, if_true]

theorem booted_write_table {disk : Disk} (unformatted : Unformatted disk)
    {request : FAT32DriverRequest} (root : request.parentClusterNumber = rootClusterNumber)
    (nonempty : request.name ≠ fun _ => 0) :
    tableOf ((write request (booted disk)).2.disk 2) =
      writeEntry request rootTable (num 3) 1 := by
  have two : rootClusterNumber.toNat = 2 := rfl
  have three : (3 : Fin 512).val = 3 := rfl
  have entered : tableOf (storeEntry request (freshDisk disk) 3 1 2) =
      writeEntry request rootTable (num 3) 1 := by
    rw [← two, ← root, storeEntry_parent, parentTable, root, two, freshDisk_root]
  have written := (write_volume request (booted disk)).2
  rw [booted_write unformatted root nonempty] at written
  have image : (write request (booted disk)).2.disk = (write request (booted disk)).2.volume.disk :=
    rfl
  rw [image, written]
  split
  · simp only [Volume.makeFolder]
    rw [Function.update_of_ne (by decide), Function.update_of_ne (by omega), entered]
  · obtain ⟨-, -, kept, -⟩ := makeFile_spec request (by omega : 2 ≤ (3 : Fin 512).val) 0
      request.bufferSize (storeEntry request (freshDisk disk) 3 1)
    rw [kept 2 (by decide) fun e member => ?_, entered]
    have := Fin.le_def.mp (fileChain_above member)
    omega

/-- The table it leaves passes the parent check. -/
theorem root_of_written {disk : Disk} {written request : FAT32DriverRequest}
    (root : request.parentClusterNumber = rootClusterNumber)
    (table : tableOf (disk 2) = writeEntry written rootTable (num 3) 1) :
    Accepts disk request.parentClusterNumber ∧
      parentTable disk request.parentClusterNumber = writeEntry written rootTable (num 3) 1 := by
  have two : rootClusterNumber.toNat = 2 := rfl
  rw [root, Accepts, parentTable, two, table]
  refine ⟨⟨by decide, by decide, ?_⟩, rfl⟩
  rw [writeEntry, LooksLikeDirectory, Function.update_of_ne (by decide)]
  exact initDirectoryTable_header _ _ _

/-- Of the FAT it changes entry 3 alone. -/
theorem booted_write_fat {disk : Disk} (unformatted : Unformatted disk)
    {request : FAT32DriverRequest} (root : request.parentClusterNumber = rootClusterNumber)
    (nonempty : request.name ≠ fun _ => 0) (small : request.bufferSize.toNat ≤ 2048) {e : Fin 512}
    (other : e ≠ 3) : (write request (booted disk)).2.fatTable e = freshFat e := by
  have written := (write_volume request (booted disk)).2
  have ram : (write request (booted disk)).2.fatTable = (write request (booted disk)).2.volume.fat :=
    rfl
  rw [ram, written, booted_write unformatted root nonempty]
  split
  · exact Function.update_of_ne other _ _
  · have accepts := freshDisk_accepts_root disk
    rw [← root] at accepts
    obtain ⟨-, others, -, -⟩ := makeFile_spec request (by decide : 2 ≤ (3 : Fin 512).val) 0
      request.bufferSize (storeEntry request (freshDisk disk) 3 1)
    rw [storeEntry_fat accepts, freshDisk_fat] at others
    refine others e fun member => ?_
    have one : chunksNeeded request.bufferSize ≤ 1 := by unfold chunksNeeded; omega
    exact other (List.mem_singleton.mp (List.take_subset_take_left _ one member))

/-- A file's first 2048 bytes go to cluster 3. -/
theorem booted_write_data {disk : Disk} (unformatted : Unformatted disk)
    {request : FAT32DriverRequest} (root : request.parentClusterNumber = rootClusterNumber)
    (nonempty : request.name ≠ fun _ => 0) (size : request.bufferSize ≠ 0) :
    (write request (booted disk)).2.disk 3 = chunk request 0 := by
  have written := (write_volume request (booted disk)).2
  have image : (write request (booted disk)).2.disk = (write request (booted disk)).2.volume.disk :=
    rfl
  rw [image, written, booted_write unformatted root nonempty, if_neg size]
  obtain ⟨-, -, -, data⟩ := makeFile_spec request (by decide : 2 ≤ (3 : Fin 512).val) 0
    request.bufferSize (storeEntry request (freshDisk disk) 3 1)
  obtain ⟨rest, head⟩ := fileChain_head (fatOf (storeEntry request (freshDisk disk) 3 1 1)) 3
    (chunksNeeded_pos size)
  simp only [head] at data
  exact data 0 (Nat.zero_lt_succ _)

end HexOS.Fat32
