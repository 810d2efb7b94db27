import HexOS.Fat32.Directories

/-!
The copies between a caller's buffer and `cluster_buf`.

`writeTraced` is `write` with the `memcpy` calls it makes; leaving these out
gives the call back (`writeTraced_fst`). The two reads make one each, as long as
what they reply. The lengths are a whole cluster, a block, and the recorded size,
whatever the size of the buffer, so a call stays inside its buffer exactly when
that length happens to fit (`staysInside_iff`).
-/

namespace HexOS.Fat32

open BoundedScan LinkTable

/-! ### Copies -/

/-- A `memcpy` between `request.buf` and `cluster_buf`: the index it starts at in
each, and its length. -/
structure Copy where
  buf : Nat
  clusterBuf : Nat
  length : Nat
deriving DecidableEq

/-- It stays inside a buffer of `size` bytes and the 2048 bytes of `cluster_buf`. -/
def Copy.Inside (size : UInt32) (copy : Copy) : Prop :=
  copy.buf + copy.length ≤ size.toNat ∧ copy.clusterBuf + copy.length ≤ 2048

instance (size : UInt32) (copy : Copy) : Decidable (copy.Inside size) :=
  inferInstanceAs (Decidable (_ ∧ _))

/-! ### A write with its copies -/

def writeFileTraced (request : FAT32DriverRequest) (clusterNumber : Fin 512)
    (n remainingBytes : UInt32) (d : Driver) : (Int × Driver) × List Copy :=
  if remainingBytes = 0 then
    ((0, { d with disk := writeClusters d.disk fatClusterNumber (fatBytes d.fatTable) }), [])
  else
    let tempCluster := clusterNumber
    let copy : Copy := ⟨(n * clusterSize).toNat, 0, clusterSize.toNat⟩
    let d := writeChunk request tempCluster n d
    if remainingBytes ≤ clusterSize then
      let d := { d with fatTable := Function.update d.fatTable tempCluster fatEndOfFile }
      ((0, { d with disk := writeClusters d.disk fatClusterNumber (fatBytes d.fatTable) }), [copy])
    else
      let clusterNumber := findNextEmptyCluster d.fatTable (num clusterNumber)
      if clusterNumber = 0 then ((-1, d), [copy])
      else
        let d := { d with
          fatTable := Function.update d.fatTable tempCluster (num clusterNumber) }
        let d := { d with disk := writeClusters d.disk fatClusterNumber (fatBytes d.fatTable) }
        let rest := writeFileTraced request clusterNumber (n + 1) (remainingBytes - clusterSize) d
        (rest.1, copy :: rest.2)
  termination_by remainingBytes.toNat
  decreasing_by
    have lower := remaining_lower ‹¬ remainingBytes ≤ clusterSize›
    omega

def writeTraced (request : FAT32DriverRequest) (d : Driver) : (Int × Driver) × List Copy :=
  let d := { d with dirTableBuf := tableOf (readClusters d.disk request.parentClusterNumber) }
  let val := validateWrite request d.dirTableBuf
  if val ≠ 0 then ((val.toNat, d), [])
  else
    let clusterNumber := findEmptyCluster d.fatTable
    let entryNumber := findEmptyEntry d.dirTableBuf
    if clusterNumber = 0 ∨ entryNumber = 0 then ((-1, d), [])
    else
      let d := { d with
        dirTableBuf := writeEntry request d.dirTableBuf (num clusterNumber) entryNumber }
      let d := { d with
        disk := writeClusters d.disk request.parentClusterNumber (tableBytes d.dirTableBuf) }
      if request.bufferSize = 0 then ((0, writeFolder request clusterNumber d), [])
      else writeFileTraced request clusterNumber 0 request.bufferSize d

theorem writeFileTraced_fst (request : FAT32DriverRequest) (c : Fin 512) (n remaining : UInt32)
    (d : Driver) :
    (writeFileTraced request c n remaining d).1 = writeFile request c n remaining d := by
  induction hr : remaining.toNat using Nat.strongRecOn generalizing c n remaining d with
  | ind r ih =>
      rw [writeFileTraced, writeFile]
      by_cases done : remaining = 0
      · rw [if_pos done, if_pos done]
      · rw [if_neg done, if_neg done]
        by_cases small : remaining ≤ clusterSize
        · rw [if_pos small, if_pos small]
        · have lower := remaining_lower small
          rw [if_neg small, if_neg small]
          simp only
          split
          · rfl
          · exact ih _ (by omega) _ _ _ _ rfl

theorem writeTraced_fst (request : FAT32DriverRequest) (d : Driver) :
    (writeTraced request d).1 = write request d := by
  simp only [writeTraced, write]
  split
  · rfl
  · split
    · rfl
    · split
      · rfl
      · exact writeFileTraced_fst _ _ _ _ _

/-! ### Which copies a write makes -/

/-- The copy of the `n`th cluster of the buffer. -/
def chunkCopy (n : Nat) : Copy := ⟨n * 2048, 0, 2048⟩

/-- The file loop copies one cluster for each member of the chain it makes. -/
theorem writeFileTraced_copies (request : FAT32DriverRequest) (c : Fin 512)
    (n remaining : UInt32) (d : Driver) (hc : 2 ≤ c.val) (positive : remaining ≠ 0)
    (fits : n.toNat * 2048 + remaining.toNat < 2 ^ 32) :
    (writeFileTraced request c n remaining d).2 =
      (List.range' n.toNat (fileChain (fatOf (d.disk 1)) c remaining).length).map chunkCopy := by
  induction hr : remaining.toNat using Nat.strongRecOn generalizing c n remaining d with
  | ind r ih =>
      have small := lt_of_le_of_lt (Nat.le_add_right (n.toNat * 2048) _) fits
      obtain ⟨fatRead, dataWritten⟩ := writeChunk_volume request hc small d
      have copy : (⟨(n * clusterSize).toNat, 0, clusterSize.toNat⟩ : Copy) = chunkCopy n.toNat := by
        rw [UInt32.toNat_mul, toNat_clusterSize, Nat.mod_eq_of_lt small, chunkCopy]
      have nonzero : remaining.toNat ≠ 0 := fun h => positive (UInt32.toNat_inj.mp h)
      rw [writeFileTraced, if_neg positive]
      by_cases last : remaining ≤ clusterSize
      · have bound := UInt32.le_iff_toNat_le.mp last
        rw [toNat_clusterSize] at bound
        have one : chunksNeeded remaining = 1 := by unfold chunksNeeded; omega
        rw [if_pos last, fileChain, one]
        simp only [copy]
        rfl
      · have lower := remaining_lower last
        have need := chunksNeeded_lower last
        rw [if_neg last]
        simp only [fatRead, findNextEmptyCluster_num _ hc, copy]
        cases next : firstFrom (c.val + 1) fun i => fatOf (d.disk 1) i == fatEmptyEntry with
        | none =>
            have behind : freeClusters (fatOf (d.disk 1)) (c.val + 1) = [] :=
              matchesFrom_of_none next
            rw [fileChain, behind, List.take_of_length_le (by simp; omega)]
            rfl
        | some e =>
            obtain ⟨forward, -, -⟩ := firstFrom_eq_some_iff.mp next
            have used : e ≠ 0 := ne_zero_of_one_le (by omega)
            have one : (1 : UInt32).toNat = 1 := rfl
            have nextRound : (n + 1).toNat = n.toNat + 1 := by
              rw [UInt32.toNat_add, one]
              omega
            have sameTotal : (n + 1).toNat * 2048 + (remaining - clusterSize).toNat < 2 ^ 32 := by
              rw [nextRound, Nat.add_mul, Nat.one_mul, Nat.add_assoc, Nat.add_comm 2048, lower.2]
              exact fits
            have left : remaining - clusterSize ≠ 0 := fun h => by
              have := congrArg UInt32.toNat h
              simp only [UInt32.toNat_zero] at this
              omega
            simp only [Option.getD_some, if_neg used, writeClusters_fat, dataWritten]
            rw [ih (remaining - clusterSize).toNat (by omega) e (n + 1) (remaining - clusterSize) _
              (by omega) left sameTotal rfl, (fileChain_round last next).2]
            simp only [Function.update_self, fatOf_fatBytes, nextRound]
            rfl

section

variable {request : FAT32DriverRequest} {d : Driver}

/-- Nothing is copied by a write that is turned away, nor for a folder. -/
theorem writeTraced_none (idle : FindsPlace request d.volume → request.bufferSize = 0) :
    (writeTraced request d).2 = [] := by
  simp only [writeTraced]
  split
  · rfl
  · rename_i valid
    split
    · rfl
    · rename_i stocked
      rw [if_pos (idle (findsPlace_iff.mpr ⟨not_not.mp valid, stocked⟩))]

theorem writeTraced_file (place : FindsPlace request d.volume) (size : request.bufferSize ≠ 0)
    {c : Fin 512} (first : FirstFree d.fatTable c) :
    (writeTraced request d).2 =
      (List.range (fileChain (fatOf (d.disk 1)) c request.bufferSize).length).map chunkCopy := by
  obtain ⟨valid, stocked⟩ := findsPlace_iff.mp place
  have above := place.parent.1
  simp only [Driver.volume, first.find] at valid stocked
  simp only [writeTraced, valid, ne_eq, not_true, if_false, first.find, if_neg stocked, if_neg size,
    place.parent.writeClusters]
  rw [writeFileTraced_copies _ _ _ _ _ first.spec.1 size (by simpa using request.bufferSize.toNat_lt)]
  simp only [Function.update_of_ne (show 1 ≠ request.parentClusterNumber.toNat by omega)]
  rw [List.range_eq_range']
  rfl

/-! ### When a call stays inside -/

/-- The copies of a complete file end with the last of its bytes exactly when
these fill its clusters; those of an incomplete one stay before it. -/
theorem chunkCopies_inside_iff (fat : FAT32FileAllocationTable) (c : Fin 512) (size : UInt32)
    (nonzero : size ≠ 0) :
    (∀ n < (fileChain fat c size).length, (chunkCopy n).Inside size) ↔
      (fileFits fat c size = true → 2048 ∣ size.toNat) := by
  have positive : size.toNat ≠ 0 := fun zero => nonzero (UInt32.toNat_inj.mp zero)
  have length : (fileChain fat c size).length =
      min (chunksNeeded size) ((freeClusters fat (c.val + 1)).length + 1) := by
    rw [fileChain, List.length_take, List.length_cons]
  have need : chunksNeeded size = (size.toNat + 2047) / 2048 := rfl
  simp only [length, fileFits, decide_eq_true_eq, Copy.Inside, chunkCopy]
  constructor
  · intro inside fits
    have last := (inside (chunksNeeded size - 1) (by omega)).1
    omega
  · intro fills n member
    by_cases fits : chunksNeeded size ≤ (freeClusters fat (c.val + 1)).length + 1
    · have full := fills fits
      exact ⟨by omega, by omega⟩
    · exact ⟨by omega, by omega⟩

/-- Every copy of the three calls is inside the caller's buffer and `cluster_buf`.
A read makes one, from index 0 of either. -/
structure StaysInside (request : FAT32DriverRequest) (d : Driver) : Prop where
  write : ∀ copy ∈ (writeTraced request d).2, copy.Inside request.bufferSize
  read : (⟨0, 0, (read request d).1.length⟩ : Copy).Inside request.bufferSize
  readDirectory : ∀ beyond,
    (⟨0, 0, (readDirectory request beyond d).1.length⟩ : Copy).Inside request.bufferSize

/-- A file fills its clusters, a block is asked for at least, and no directory
records more than a cluster. -/
structure LengthsFit (request : FAT32DriverRequest) (d : Driver) : Prop where
  write : FindsPlace request d.volume → request.bufferSize ≠ 0 → ∀ c, FirstFree d.fatTable c →
    fileFits (fatOf (d.disk 1)) c request.bufferSize = true → 2048 ∣ request.bufferSize.toNat
  read : Accepts d.disk request.parentClusterNumber → ∀ i,
    readHit request (parentTable d.disk request.parentClusterNumber) = some i →
    (parentTable d.disk request.parentClusterNumber i).filesize ≤ request.bufferSize →
    512 ≤ request.bufferSize
  readDirectory : Accepts d.disk request.parentClusterNumber → ∀ i,
    directoryHit request (parentTable d.disk request.parentClusterNumber) = some i →
    (parentTable d.disk request.parentClusterNumber i).filesize ≤ request.bufferSize →
    (parentTable d.disk request.parentClusterNumber i).filesize ≤ 2048

theorem write_inside_iff :
    (∀ copy ∈ (writeTraced request d).2, copy.Inside request.bufferSize) ↔
      (FindsPlace request d.volume → request.bufferSize ≠ 0 → ∀ c, FirstFree d.fatTable c →
        fileFits (fatOf (d.disk 1)) c request.bufferSize = true →
        2048 ∣ request.bufferSize.toNat) := by
  by_cases file : FindsPlace request d.volume ∧ request.bufferSize ≠ 0
  · obtain ⟨place, size⟩ := file
    obtain ⟨c, first⟩ := place.cluster
    rw [writeTraced_file place size first, List.forall_mem_map]
    simp only [List.mem_range]
    rw [chunkCopies_inside_iff _ _ _ size]
    constructor
    · intro fills _ _ e firstE
      obtain rfl := Option.some.inj (first.symm.trans firstE)
      exact fills
    · exact fun fills => fills place size c first
  · have idle : FindsPlace request d.volume → request.bufferSize = 0 := fun place => by
      by_contra size
      exact file ⟨place, size⟩
    rw [writeTraced_none idle]
    exact iff_of_true (fun _ none => absurd none List.not_mem_nil) fun place size =>
      absurd (idle place) size

theorem nothing_inside (size : UInt32) : (⟨0, 0, 0⟩ : Copy).Inside size :=
  ⟨Nat.zero_le _, Nat.zero_le _⟩

theorem read_inside_iff :
    (⟨0, 0, (read request d).1.length⟩ : Copy).Inside request.bufferSize ↔
      (Accepts d.disk request.parentClusterNumber → ∀ i,
        readHit request (parentTable d.disk request.parentClusterNumber) = some i →
        (parentTable d.disk request.parentClusterNumber i).filesize ≤ request.bufferSize →
        512 ≤ request.bufferSize) := by
  have outcome := read_outcome request d
  generalize (HexOS.Fat32.read request d).1 = reply at outcome ⊢
  cases outcome with
  | invalidParent rejected =>
      exact iff_of_true (nothing_inside _) fun accepts => absurd accepts rejected
  | notFound _ none =>
      refine iff_of_true (nothing_inside _) fun _ i hit => ?_
      exact absurd (hit.symm.trans none) (Option.some_ne_none i)
  | tooLarge _ found large =>
      refine iff_of_true (nothing_inside _) fun _ i hit small => ?_
      obtain rfl := Option.some.inj (hit.symm.trans found)
      exact absurd large (UInt32.not_lt.mpr small)
  | @delivered i accepts hit fits =>
      have block : (512 : Nat) ≤ 2048 := by decide
      simp only [Copy.Inside, Nat.zero_add, block, and_true]
      constructor
      · exact fun inside _ _ _ _ => UInt32.le_iff_toNat_le.mpr inside
      · exact fun enough =>
          UInt32.le_iff_toNat_le.mp (enough accepts i hit (UInt32.not_lt.mp fits))

theorem readDirectory_inside_iff :
    (∀ beyond, (⟨0, 0, (readDirectory request beyond d).1.length⟩ : Copy).Inside
        request.bufferSize) ↔
      (Accepts d.disk request.parentClusterNumber → ∀ i,
        directoryHit request (parentTable d.disk request.parentClusterNumber) = some i →
        (parentTable d.disk request.parentClusterNumber i).filesize ≤ request.bufferSize →
        (parentTable d.disk request.parentClusterNumber i).filesize ≤ 2048) := by
  by_cases accepts : Accepts d.disk request.parentClusterNumber
  · cases hit : directoryHit request (parentTable d.disk request.parentClusterNumber) with
    | none =>
        refine iff_of_true (fun beyond => ?_) fun _ i found =>
          absurd found (Option.some_ne_none i).symm
        rw [readDirectory_missed accepts hit]
        exact nothing_inside _
    | some i =>
        simp only [readDirectory_hit accepts hit, Option.some.injEq, forall_eq']
        generalize (parentTable d.disk request.parentClusterNumber i).filesize = filesize
        by_cases large : request.bufferSize < filesize
        · simp only [if_pos large]
          exact iff_of_true (fun _ => nothing_inside _) fun _ small =>
            absurd large (UInt32.not_lt.mpr small)
        · have small := UInt32.not_lt.mp large
          simp only [if_neg large, Copy.Inside, Nat.zero_add]
          constructor
          · exact fun inside _ _ => UInt32.le_iff_toNat_le.mpr (inside fun _ => 0).2
          · exact fun cluster _ => ⟨UInt32.le_iff_toNat_le.mp small,
              UInt32.le_iff_toNat_le.mp (cluster accepts small)⟩
  · refine iff_of_true (fun beyond => ?_) fun accepts' => absurd accepts' accepts
    rw [readDirectory_rejected accepts]
    exact nothing_inside _

end

/-- **The calls stay inside their buffers exactly when** the lengths they copy
fit. -/
theorem staysInside_iff (request : FAT32DriverRequest) (d : Driver) :
    StaysInside request d ↔ LengthsFit request d := by
  constructor
  · intro inside
    exact ⟨write_inside_iff.mp inside.write, read_inside_iff.mp inside.read,
      readDirectory_inside_iff.mp inside.readDirectory⟩
  · intro fit
    exact ⟨write_inside_iff.mpr fit.write, read_inside_iff.mpr fit.read,
      readDirectory_inside_iff.mpr fit.readDirectory⟩

/-! ### Five bytes -/

/-- The file `note` of 5 bytes is written with a copy of 2048, and read with one
of 512. -/
theorem staysInside_counterexample :
    (⟨0, 0, 2048⟩ ∈ (writeTraced note (booted blankDisk)).2 ∧
      ¬ StaysInside note (booted blankDisk)) ∧
    (read note (write note (booted blankDisk)).2).1.length = 512 ∧
      ¬ StaysInside note (write note (booted blankDisk)).2 := by
  constructor
  · have place := @findsPlace_booted blankDisk note blankDisk_unformatted rfl (by decide)
    generalize booted blankDisk = d at place
    obtain ⟨c, first⟩ := place.cluster
    obtain ⟨rest, chain⟩ := fileChain_head (fatOf (d.disk 1)) c
      (show 1 ≤ chunksNeeded note.bufferSize by decide)
    have copied : (⟨0, 0, 2048⟩ : Copy) ∈ (writeTraced note d).2 := by
      rw [writeTraced_file place (by decide) first, chain]
      exact List.mem_map.mpr ⟨0, by simp, rfl⟩
    exact ⟨copied, fun inside => absurd (inside.write _ copied) (by decide)⟩
  · have table := @booted_write_table blankDisk blankDisk_unformatted note rfl (by decide)
    generalize (write note (booted blankDisk)).2 = d at table ⊢
    obtain ⟨accepts, entered⟩ := @root_of_written d.disk note note rfl table
    have hit : readHit note (parentTable d.disk note.parentClusterNumber) = some 1 := by
      rw [entered]
      exact (firstFrom_skip (i := (0 : Fin 64)) (by decide)).trans
        (firstFrom_here (i := (1 : Fin 64)) (by decide))
    have length : (read note d).1.length = 512 := by
      rw [read_hit accepts hit (by rw [entered]; decide)]
    refine ⟨length, fun inside => ?_⟩
    have block := inside.read.1
    rw [length] at block
    exact absurd block (by decide)

end HexOS.Fat32
