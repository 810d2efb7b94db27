import HexOS.Fat32.Driver
import HexOS.Library.LinkTable
import Mathlib.Tactic.Ring

/-!
The volume: what the driver keeps between calls, and what a call does to it.

`Volume` forgets the static buffers. `Volume.write` says in closed form what a
write does: a folder takes one free cluster, a file takes the first free
clusters in order and links them. `write_volume` proves that the driver's loop,
with its repeated reads and flushes of the FAT, computes exactly this.
-/

namespace HexOS.Fat32

open BoundedScan ByteWords LinkTable

/-! ### Cluster addresses -/

theorem deviceCluster_eq (cluster : UInt32) : deviceCluster cluster = cluster.toNat % 2 ^ 26 := by
  have four : (4 : UInt32).toNat = 4 := rfl
  have cut : (0x0FFFFFFF : UInt32).toNat = 2 ^ 28 - 1 := rfl
  rw [deviceCluster, clusterToLba, clusterBlockCount, UInt32.toNat_and, cut,
    Nat.and_two_pow_sub_one_eq_mod, UInt32.toNat_mul, four]
  omega

theorem deviceCluster_of_lt {cluster : UInt32} (small : cluster.toNat < 2 ^ 26) :
    deviceCluster cluster = cluster.toNat := by
  rw [deviceCluster_eq, Nat.mod_eq_of_lt small]

theorem toNat_clusterSize : clusterSize.toNat = 2048 := rfl

theorem toNat_num (c : Fin 512) : (num c).toNat = c.val := by
  have := c.isLt
  rw [num, UInt32.toNat_ofNat']
  omega

theorem num_inj {c d : Fin 512} : num c = num d ↔ c = d := by
  rw [← UInt32.toNat_inj, toNat_num, toNat_num, Fin.ext_iff]

theorem eq_num_of_lt {cluster : UInt32} (small : cluster.toNat < 512) :
    cluster = num ⟨cluster.toNat, small⟩ :=
  UInt32.toNat_inj.mp (by rw [toNat_num])

theorem val_ne_of_ne_num {cluster : UInt32} {c : Fin 512} (other : cluster ≠ num c) :
    c.val ≠ cluster.toNat := by
  intro same
  exact other (UInt32.toNat_inj.mp (by rw [toNat_num, same]))

theorem readClusters_of_lt (disk : Disk) {cluster : UInt32} (small : cluster.toNat < 2 ^ 26) :
    readClusters disk cluster = disk cluster.toNat := by
  rw [readClusters, deviceCluster_of_lt small]

theorem writeClusters_of_lt (disk : Disk) {cluster : UInt32} (small : cluster.toNat < 2 ^ 26)
    (ptr : ClusterBuffer) :
    writeClusters disk cluster ptr = Function.update disk cluster.toNat ptr := by
  rw [writeClusters, deviceCluster_of_lt small]

@[simp] theorem readClusters_num (disk : Disk) (c : Fin 512) :
    readClusters disk (num c) = disk c.val := by
  have := c.isLt
  rw [readClusters_of_lt disk (by rw [toNat_num]; omega), toNat_num]

@[simp] theorem writeClusters_num (disk : Disk) (c : Fin 512) (ptr : ClusterBuffer) :
    writeClusters disk (num c) ptr = Function.update disk c.val ptr := by
  have := c.isLt
  rw [writeClusters_of_lt disk (by rw [toNat_num]; omega), toNat_num]

@[simp] theorem readClusters_fat (disk : Disk) : readClusters disk fatClusterNumber = disk 1 :=
  readClusters_of_lt disk (by decide)

@[simp] theorem writeClusters_fat (disk : Disk) (ptr : ClusterBuffer) :
    writeClusters disk fatClusterNumber ptr = Function.update disk 1 ptr :=
  writeClusters_of_lt disk (by decide) ptr

@[simp] theorem readClusters_root (disk : Disk) : readClusters disk rootClusterNumber = disk 2 :=
  readClusters_of_lt disk (by decide)

@[simp] theorem writeClusters_root (disk : Disk) (ptr : ClusterBuffer) :
    writeClusters disk rootClusterNumber ptr = Function.update disk 2 ptr :=
  writeClusters_of_lt disk (by decide) ptr

@[simp] theorem writeClusters_boot (disk : Disk) (ptr : ClusterBuffer) :
    writeClusters disk bootSector ptr = Function.update disk 0 ptr :=
  writeClusters_of_lt disk (by decide) ptr

/-! ### The parent check -/

/-- What `isDirectory` looks for in slot 0. -/
def LooksLikeDirectory (table : FAT32DirectoryTable) : Prop :=
  (table 0).userAttribute = uattrNotEmpty ∧ (table 0).filesize = 0

instance (table : FAT32DirectoryTable) : Decidable (LooksLikeDirectory table) :=
  inferInstanceAs (Decidable (_ ∧ _))

/-- The parent check shared by all four operations. -/
def Accepts (disk : Disk) (parent : UInt32) : Prop :=
  2 ≤ parent.toNat ∧ parent.toNat ≤ 512 ∧ LooksLikeDirectory (tableOf (disk parent.toNat))

instance (disk : Disk) (parent : UInt32) : Decidable (Accepts disk parent) :=
  inferInstanceAs (Decidable (_ ∧ _ ∧ _))

theorem isDirectory_eq_zero_iff (table : FAT32DirectoryTable) :
    isDirectory table = 0 ↔ ¬ LooksLikeDirectory table := by
  unfold isDirectory LooksLikeDirectory
  split
  · rename_i h
    simp only [true_iff, not_and_or]
    exact h
  · rename_i h
    simp only [not_or, not_not] at h
    simp [h]

theorem parent_rejected_iff (disk : Disk) (parent : UInt32) :
    (parent < 2 ∨ parent > clusterMapSize ∨
      isDirectory (tableOf (readClusters disk parent)) = 0) ↔ ¬ Accepts disk parent := by
  have low : parent < 2 ↔ parent.toNat < 2 := UInt32.lt_iff_toNat_lt
  have high : parent > clusterMapSize ↔ 512 < parent.toNat := UInt32.lt_iff_toNat_lt
  rw [isDirectory_eq_zero_iff, low, high, Accepts]
  by_cases small : parent.toNat < 2 ^ 26
  · rw [readClusters_of_lt disk small]
    constructor
    · rintro (h | h | h) ⟨h1, h2, h3⟩
      · omega
      · omega
      · exact h h3
    · intro h
      by_contra hc
      simp only [not_or, not_lt, not_not] at hc
      exact h ⟨hc.1, hc.2.1, hc.2.2⟩
  · constructor
    · rintro - ⟨-, h2, -⟩
      omega
    · intro _
      exact .inr (.inl (by omega))

theorem Accepts.admitted {disk : Disk} {parent : UInt32} (accepts : Accepts disk parent) :
    ¬ (parent < 2 ∨ parent > clusterMapSize ∨
      isDirectory (tableOf (readClusters disk parent)) = 0) :=
  mt (parent_rejected_iff disk parent).mp (not_not.mpr accepts)

/-- The table of an accepted parent. -/
abbrev parentTable (disk : Disk) (parent : UInt32) : FAT32DirectoryTable :=
  tableOf (disk parent.toNat)

theorem Accepts.readClusters {disk : Disk} {parent : UInt32} (accepts : Accepts disk parent) :
    readClusters disk parent = disk parent.toNat :=
  readClusters_of_lt disk (by have := accepts.2.1; omega)

theorem Accepts.writeClusters {disk disk' : Disk} {parent : UInt32}
    (accepts : Accepts disk parent) (ptr : ClusterBuffer) :
    writeClusters disk' parent ptr = Function.update disk' parent.toNat ptr :=
  writeClusters_of_lt disk' (by have := accepts.2.1; omega) ptr

/-! ### Chains -/

/-- The free clusters from `lo` on, in ascending order. -/
def freeClusters (fat : FAT32FileAllocationTable) (lo : Nat) : List (Fin 512) :=
  matchesFrom lo fun i => fat i == fatEmptyEntry

theorem mem_freeClusters {fat : FAT32FileAllocationTable} {lo : Nat} {c : Fin 512} :
    c ∈ freeClusters fat lo ↔ lo ≤ c.val ∧ fat c = fatEmptyEntry := by
  simp [freeClusters, mem_matchesFrom]

/-- Clusters a file of `size` bytes occupies. -/
def chunksNeeded (size : UInt32) : Nat := (size.toNat + 2047) / 2048

/-- The `n`th cluster of the caller's buffer. -/
def chunk (request : FAT32DriverRequest) (n : Nat) : ClusterBuffer :=
  fun b => request.buf (n * 2048 + b.val)

def storeChunks (request : FAT32DriverRequest) : Disk → List (Fin 512) → Nat → Disk
  | disk, [], _ => disk
  | disk, c :: rest, n =>
      storeChunks request (Function.update disk c.val (chunk request n)) rest (n + 1)

/-- Link a chain of clusters; its end is marked only when the chain is complete. -/
def linkChain : FAT32FileAllocationTable → List (Fin 512) → Bool → FAT32FileAllocationTable
  | fat, [], _ => fat
  | fat, [c], complete => if complete then Function.update fat c fatEndOfFile else fat
  | fat, c :: d :: rest, complete =>
      linkChain (Function.update fat c (num d)) (d :: rest) complete

/-! ### Operations on the volume -/

structure Volume where
  fat : FAT32FileAllocationTable
  disk : Disk

def Driver.volume (d : Driver) : Volume := ⟨d.fatTable, d.disk⟩

def Volume.makeFolder (request : FAT32DriverRequest) (c : Fin 512) (v : Volume) : Volume :=
  let table := initDirectoryTable (tableOf (v.disk c.val)) request.name request.parentClusterNumber
  let fat := Function.update v.fat c fatEndOfFile
  ⟨fat, Function.update (Function.update v.disk c.val (tableBytes table)) 1 (fatBytes fat)⟩

/-- The clusters a file of `size` bytes gets when its first one is `c`: as many
of the free clusters behind `c` as it needs and there are. -/
def fileChain (fat : FAT32FileAllocationTable) (c : Fin 512) (size : UInt32) : List (Fin 512) :=
  (c :: freeClusters fat (c.val + 1)).take (chunksNeeded size)

def fileFits (fat : FAT32FileAllocationTable) (c : Fin 512) (size : UInt32) : Bool :=
  chunksNeeded size ≤ (freeClusters fat (c.val + 1)).length + 1

/-- Store a file from its chunk `n` on. The FAT that counts is the one on disk. -/
def Volume.makeFile (request : FAT32DriverRequest) (c : Fin 512) (n : Nat) (size : UInt32)
    (disk : Disk) : Int × Volume :=
  let fat := fatOf (disk 1)
  let complete := fileFits fat c size
  let chain := fileChain fat c size
  let linked := linkChain fat chain complete
  (if complete then 0 else -1,
    ⟨linked, Function.update (storeChunks request disk chain n) 1 (fatBytes linked)⟩)

def Volume.write (request : FAT32DriverRequest) (v : Volume) : Int × Volume :=
  let table := tableOf (readClusters v.disk request.parentClusterNumber)
  if validateWrite request table ≠ 0 then ((validateWrite request table).toNat, v)
  else
    let c := findEmptyCluster v.fat
    let k := findEmptyEntry table
    if c = 0 ∨ k = 0 then (-1, v)
    else
      let disk := writeClusters v.disk request.parentClusterNumber
        (tableBytes (writeEntry request table (num c) k))
      if request.bufferSize = 0 then (0, Volume.makeFolder request c ⟨v.fat, disk⟩)
      else Volume.makeFile request c 0 request.bufferSize disk

/-- The table of a new folder: its header, and what its cluster held. -/
theorem makeFolder_own (request : FAT32DriverRequest) {c : Fin 512} (above : 2 ≤ c.val) (v : Volume) :
    tableOf ((Volume.makeFolder request c v).disk c.val) =
      initDirectoryTable (tableOf (v.disk c.val)) request.name request.parentClusterNumber := by
  simp only [Volume.makeFolder]
  rw [Function.update_of_ne (by omega), Function.update_self, tableOf_tableBytes]

/-- The cluster of a new folder is marked as the end of its chain. -/
theorem makeFolder_marked (request : FAT32DriverRequest) (c : Fin 512) (v : Volume) :
    (Volume.makeFolder request c v).fat c = fatEndOfFile := by
  simp only [Volume.makeFolder, Function.update_self]

/-! ### The driver computes them -/

theorem findEmptyCluster_eq {fat : FAT32FileAllocationTable} {c : Fin 512}
    (found : findEmptyCluster fat = c) (nonzero : c ≠ 0) :
    firstFrom 2 (fun i => fat i == fatEmptyEntry) = some c := by
  cases h : firstFrom 2 (fun i => fat i == fatEmptyEntry) with
  | none => simp [findEmptyCluster, h] at found; exact absurd found.symm nonzero
  | some e => simpa [findEmptyCluster, h] using found

theorem findNextEmptyCluster_num (fat : FAT32FileAllocationTable) {c : Fin 512} (hc : 2 ≤ c.val) :
    findNextEmptyCluster fat (num c) =
      (firstFrom (c.val + 1) fun i => fat i == fatEmptyEntry).getD 0 := by
  have inside : ¬ (num c ≥ clusterMapSize ∨ num c < 2) := by
    have low : num c < 2 ↔ (num c).toNat < 2 := UInt32.lt_iff_toNat_lt
    have high : num c ≥ clusterMapSize ↔ 512 ≤ (num c).toNat := UInt32.le_iff_toNat_le
    have := c.isLt
    rw [low, high, toNat_num]
    omega
  rw [findNextEmptyCluster, if_neg inside, toNat_num]

theorem writeChunk_volume (request : FAT32DriverRequest) {c : Fin 512} (hc : 2 ≤ c.val)
    {n : UInt32} (small : n.toNat * 2048 < 2 ^ 32) (d : Driver) :
    (writeChunk request c n d).fatTable = fatOf (d.disk 1) ∧
      (writeChunk request c n d).disk = Function.update d.disk c.val (chunk request n.toNat) := by
  have offset : (n * clusterSize).toNat = n.toNat * 2048 := by
    rw [UInt32.toNat_mul, toNat_clusterSize, Nat.mod_eq_of_lt small]
  have other : (1 : Nat) ≠ c.val := by omega
  simp only [writeChunk, writeClusters_num, readClusters_fat, offset]
  exact ⟨by rw [Function.update_of_ne other], rfl⟩

theorem storeChunks_update_fat (request : FAT32DriverRequest) (disk : Disk) (ptr last : ClusterBuffer)
    (chain : List (Fin 512)) (n : Nat) (above : ∀ c ∈ chain, 2 ≤ c.val) :
    Function.update (storeChunks request (Function.update disk 1 ptr) chain n) 1 last =
      Function.update (storeChunks request disk chain n) 1 last := by
  induction chain generalizing disk n with
  | nil => simp [storeChunks]
  | cons c rest ih =>
      have here : (1 : Nat) ≠ c.val := by
        have := above c List.mem_cons_self
        omega
      simp only [storeChunks]
      rw [Function.update_comm here]
      exact ih _ _ fun e he => above e (List.mem_cons_of_mem _ he)

theorem freeClusters_update_below (fat : FAT32FileAllocationTable) (c : Fin 512) (entry : UInt32)
    {lo : Nat} (below : c.val < lo) :
    freeClusters (Function.update fat c entry) lo = freeClusters fat lo := by
  apply matchesFrom_congr
  intro i hi
  have other : i ≠ c := fun same => by rw [same] at hi; omega
  rw [Function.update_of_ne other]

theorem freeClusters_of_next {fat : FAT32FileAllocationTable} {lo : Nat} {c : Fin 512}
    (next : firstFrom lo (fun i => fat i == fatEmptyEntry) = some c) :
    freeClusters fat lo = c :: freeClusters fat (c.val + 1) :=
  matchesFrom_of_some next

theorem chunksNeeded_lower {size : UInt32} (large : ¬ size ≤ clusterSize) :
    chunksNeeded size = chunksNeeded (size - clusterSize) + 1 := by
  have lower := remaining_lower large
  unfold chunksNeeded
  omega

theorem fileChain_head (fat : FAT32FileAllocationTable) (c : Fin 512) {size : UInt32}
    (some : 1 ≤ chunksNeeded size) : ∃ rest, fileChain fat c size = c :: rest := by
  obtain ⟨k, hk⟩ : ∃ k, chunksNeeded size = k + 1 := ⟨chunksNeeded size - 1, by omega⟩
  exact ⟨_, by rw [fileChain, hk, List.take_succ_cons]⟩

theorem fileChain_above {fat : FAT32FileAllocationTable} {c : Fin 512} {size : UInt32}
    {e : Fin 512} (member : e ∈ fileChain fat c size) : c ≤ e := by
  rcases List.mem_cons.mp (List.mem_of_mem_take member) with same | later
  · exact le_of_eq same.symm
  · have := (mem_freeClusters.mp later).1
    exact Fin.le_def.mpr (by omega)

/-- The chain goes on with the cluster that comes next. -/
theorem fileChain_round {fat : FAT32FileAllocationTable} {c e : Fin 512} {size : UInt32}
    (large : ¬ size ≤ clusterSize)
    (next : firstFrom (c.val + 1) (fun i => fat i == fatEmptyEntry) = some e) :
    fileFits fat c size = fileFits (Function.update fat c (num e)) e (size - clusterSize) ∧
      fileChain fat c size =
        c :: fileChain (Function.update fat c (num e)) e (size - clusterSize) := by
  obtain ⟨forward, -, -⟩ := firstFrom_eq_some_iff.mp next
  have need := chunksNeeded_lower large
  have behind : freeClusters fat (c.val + 1) =
      e :: freeClusters (Function.update fat c (num e)) (e.val + 1) := by
    rw [freeClusters_of_next next, freeClusters_update_below _ _ _ (by omega)]
  constructor
  · simp only [fileFits, behind, need, List.length_cons, Nat.add_le_add_iff_right]
  · rw [fileChain, need, List.take_succ_cons, behind, fileChain]

/-- One round of the file loop leaves the rest of the file to its next cluster. -/
theorem makeFile_round (request : FAT32DriverRequest) {c e : Fin 512} (hc : 2 ≤ c.val) (n : Nat)
    {size : UInt32} (disk : Disk) (large : ¬ size ≤ clusterSize)
    (next : firstFrom (c.val + 1) (fun i => fatOf (disk 1) i == fatEmptyEntry) = some e) :
    Volume.makeFile request c n size disk =
      Volume.makeFile request e (n + 1) (size - clusterSize)
        (Function.update (Function.update disk c.val (chunk request n)) 1
          (fatBytes (Function.update (fatOf (disk 1)) c (num e)))) := by
  obtain ⟨forward, -, -⟩ := firstFrom_eq_some_iff.mp next
  have lower := remaining_lower large
  have more : 1 ≤ chunksNeeded (size - clusterSize) := by unfold chunksNeeded; omega
  obtain ⟨fits, chain⟩ := fileChain_round large next
  set linked := Function.update (fatOf (disk 1)) c (num e)
  obtain ⟨rest, first⟩ := fileChain_head linked e more
  have above : ∀ x ∈ fileChain linked e (size - clusterSize), 2 ≤ x.val := fun x hx => by
    have := Fin.le_def.mp (fileChain_above hx)
    omega
  have links : ∀ complete, linkChain (fatOf (disk 1)) (c :: fileChain linked e (size - clusterSize))
      complete = linkChain linked (fileChain linked e (size - clusterSize)) complete := by
    intro complete
    rw [first, linkChain]
  simp only [Volume.makeFile, Function.update_self, fatOf_fatBytes, fits, chain, links, storeChunks]
  rw [storeChunks_update_fat request _ _ _ _ _ above]

/-- The file loop from any round on. -/
theorem writeFile_volume (request : FAT32DriverRequest) (c : Fin 512) (n remaining : UInt32)
    (d : Driver) (hc : 2 ≤ c.val) (positive : remaining ≠ 0)
    (fits : n.toNat * 2048 + remaining.toNat < 2 ^ 32) :
    (writeFile request c n remaining d).1 =
        (Volume.makeFile request c n.toNat remaining d.disk).1 ∧
      (writeFile request c n remaining d).2.volume =
        (Volume.makeFile request c n.toNat remaining d.disk).2 := by
  induction hr : remaining.toNat using Nat.strongRecOn generalizing c n remaining d with
  | ind r ih =>
      obtain ⟨fatRead, dataWritten⟩ :=
        writeChunk_volume request hc (lt_of_le_of_lt (Nat.le_add_right _ _) fits) d
      have other : (1 : Nat) ≠ c.val := by omega
      rw [writeFile, if_neg positive]
      by_cases small : remaining ≤ clusterSize
      · -- the last round: the chain is the one cluster in hand
        have bound := UInt32.le_iff_toNat_le.mp small
        rw [toNat_clusterSize] at bound
        have nonzero : remaining.toNat ≠ 0 := fun h => positive (UInt32.toNat_inj.mp h)
        have one : chunksNeeded remaining = 1 := by unfold chunksNeeded; omega
        simp [small, Volume.makeFile, fileFits, fileChain, one, linkChain, storeChunks,
          Driver.volume, fatRead, dataWritten]
      · have lower := remaining_lower small
        have need := chunksNeeded_lower small
        have more : 1 ≤ chunksNeeded (remaining - clusterSize) := by unfold chunksNeeded; omega
        rw [if_neg small]
        simp only [fatRead, findNextEmptyCluster_num _ hc]
        cases next : firstFrom (c.val + 1) fun i => fatOf (d.disk 1) i == fatEmptyEntry with
        | none =>
            -- no cluster left: nothing is linked to `c`, nor is `c` marked
            have behind : freeClusters (fatOf (d.disk 1)) (c.val + 1) = [] :=
              matchesFrom_of_none next
            have short : ¬ chunksNeeded remaining ≤ 1 := by omega
            have first : [c].take (chunksNeeded remaining) = [c] :=
              List.take_of_length_le (by simp; omega)
            have unchanged : Function.update (Function.update d.disk c.val (chunk request n.toNat))
                1 (d.disk 1) = Function.update d.disk c.val (chunk request n.toNat) := by
              apply Function.update_eq_self_iff.mpr
              rw [Function.update_of_ne other]
            simp [Volume.makeFile, fileFits, fileChain, behind, short, first, linkChain,
              storeChunks, Driver.volume, fatRead, dataWritten, unchanged]
        | some e =>
            obtain ⟨forward, -, -⟩ := firstFrom_eq_some_iff.mp next
            have behind := freeClusters_of_next next
            have beyond : 2 ≤ e.val := by omega
            have nonzero : e ≠ 0 := ne_zero_of_one_le (by omega)
            have one : (1 : UInt32).toNat = 1 := rfl
            have nextRound : (n + 1).toNat = n.toNat + 1 := by
              rw [UInt32.toNat_add, one]
              omega
            have sameTotal : (n + 1).toNat * 2048 + (remaining - clusterSize).toNat < 2 ^ 32 := by
              rw [nextRound, Nat.add_mul, Nat.one_mul, Nat.add_assoc, Nat.add_comm 2048, lower.2]
              exact fits
            have left : remaining - clusterSize ≠ 0 := fun h => by
              have := congrArg UInt32.toNat h
              simp only [UInt32.toNat_zero] at this
              omega
            simp only [Option.getD_some, if_neg nonzero, writeClusters_fat, dataWritten]
            have step := ih (remaining - clusterSize).toNat (by omega) e (n + 1)
              (remaining - clusterSize)
              { writeChunk request c n d with
                fatTable := Function.update (fatOf (d.disk 1)) c (num e)
                disk := Function.update (Function.update d.disk c.val (chunk request n.toNat)) 1
                  (fatBytes (Function.update (fatOf (d.disk 1)) c (num e))) }
              beyond left sameTotal rfl
            rw [nextRound] at step
            rw [makeFile_round request hc n.toNat d.disk small next]
            exact step

theorem writeFolder_volume (request : FAT32DriverRequest) (c : Fin 512) (d : Driver) :
    (writeFolder request c d).volume = Volume.makeFolder request c d.volume := by
  simp [writeFolder, Driver.volume, Volume.makeFolder]

/-- **The driver's write is the volume's write.** The static buffers do not
matter, neither for the return code nor for what the call leaves behind. -/
theorem write_volume (request : FAT32DriverRequest) (d : Driver) :
    (write request d).1 = (Volume.write request d.volume).1 ∧
      (write request d).2.volume = (Volume.write request d.volume).2 := by
  unfold write Volume.write
  simp only [Driver.volume]
  by_cases valid :
      validateWrite request (tableOf (readClusters d.disk request.parentClusterNumber)) = 0
  · by_cases full : findEmptyCluster d.fatTable = 0 ∨
        findEmptyEntry (tableOf (readClusters d.disk request.parentClusterNumber)) = 0
    · simp only [valid, full, ne_eq, not_true_eq_false, if_true, if_false, and_self]
    · by_cases folder : request.bufferSize = 0
      · simp only [valid, full, folder, ne_eq, not_true_eq_false, if_true, if_false]
        exact ⟨trivial, writeFolder_volume request _ _⟩
      · simp only [valid, full, folder, ne_eq, not_true_eq_false, if_false]
        simp only [not_or] at full
        obtain ⟨above, -, -⟩ := firstFrom_eq_some_iff.mp (findEmptyCluster_eq rfl full.1)
        exact writeFile_volume request _ 0 _ _ above folder (by simpa using UInt32.toNat_lt _)
  · simp only [valid, ne_eq, not_false_eq_true, if_true, and_self]

end HexOS.Fat32
