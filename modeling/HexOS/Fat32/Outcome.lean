import HexOS.Fat32.Volume

/-!
What each call can do to a volume, case by case.

`WriteOutcome` and `DeleteOutcome` list the ways a write or a delete ends, with
the conditions that lead there and the volume it leaves. Every invariant is
derived from these lists; nothing after this module unfolds the driver again.
-/

namespace HexOS.Fat32

open BoundedScan LinkTable WhileLoop

/-! ### Write -/

/-- A slot `write` will not reuse. -/
def Live (entry : FAT32DirectoryEntry) : Prop := entry.userAttribute = uattrNotEmpty

instance (entry : FAT32DirectoryEntry) : Decidable (Live entry) :=
  inferInstanceAs (Decidable (_ = _))

def FirstFree (fat : FAT32FileAllocationTable) (c : Fin 512) : Prop :=
  firstFrom 2 (fun i => fat i == fatEmptyEntry) = some c

def FirstSlot (table : FAT32DirectoryTable) (k : Fin 64) : Prop :=
  firstFrom 1 (fun i => (table i).userAttribute != uattrNotEmpty) = some k

/-- The disk once the parent table holds the new entry. -/
def storeEntry (request : FAT32DriverRequest) (disk : Disk) (c : Fin 512) (k : Fin 64) : Disk :=
  Function.update disk request.parentClusterNumber.toNat
    (tableBytes (writeEntry request (parentTable disk request.parentClusterNumber) (num c) k))

inductive WriteOutcome (request : FAT32DriverRequest) (v : Volume) : Int → Volume → Prop where
  | invalidParent : ¬ Accepts v.disk request.parentClusterNumber → WriteOutcome request v 2 v
  | taken : Accepts v.disk request.parentClusterNumber →
      isExist request (parentTable v.disk request.parentClusterNumber) ≠ 0 →
      WriteOutcome request v 1 v
  | full : Accepts v.disk request.parentClusterNumber →
      isExist request (parentTable v.disk request.parentClusterNumber) = 0 →
      (¬ ∃ c, FirstFree v.fat c) ∨
        (¬ ∃ k, FirstSlot (parentTable v.disk request.parentClusterNumber) k) →
      WriteOutcome request v (-1) v
  | folder {c : Fin 512} {k : Fin 64} : Accepts v.disk request.parentClusterNumber →
      isExist request (parentTable v.disk request.parentClusterNumber) = 0 →
      FirstFree v.fat c → FirstSlot (parentTable v.disk request.parentClusterNumber) k →
      request.bufferSize = 0 →
      WriteOutcome request v 0 (Volume.makeFolder request c ⟨v.fat, storeEntry request v.disk c k⟩)
  | file {c : Fin 512} {k : Fin 64} : Accepts v.disk request.parentClusterNumber →
      isExist request (parentTable v.disk request.parentClusterNumber) = 0 →
      FirstFree v.fat c → FirstSlot (parentTable v.disk request.parentClusterNumber) k →
      request.bufferSize ≠ 0 →
      WriteOutcome request v
        (Volume.makeFile request c 0 request.bufferSize (storeEntry request v.disk c k)).1
        (Volume.makeFile request c 0 request.bufferSize (storeEntry request v.disk c k)).2

theorem FirstFree.spec {fat : FAT32FileAllocationTable} {c : Fin 512} (first : FirstFree fat c) :
    2 ≤ c.val ∧ fat c = fatEmptyEntry ∧ ∀ e < c, 2 ≤ e.val → fat e ≠ fatEmptyEntry := by
  obtain ⟨above, free, least⟩ := firstFrom_eq_some_iff.mp first
  exact ⟨above, by simpa using free, fun e less he => by simpa using least e less he⟩

theorem FirstSlot.spec {table : FAT32DirectoryTable} {k : Fin 64} (first : FirstSlot table k) :
    1 ≤ k.val ∧ ¬ Live (table k) ∧ ∀ i < k, 1 ≤ i.val → Live (table i) := by
  obtain ⟨above, free, least⟩ := firstFrom_eq_some_iff.mp first
  exact ⟨above, by simpa [Live] using free, fun i less hi => by simpa [Live] using least i less hi⟩

theorem findEmptyCluster_iff {fat : FAT32FileAllocationTable} :
    findEmptyCluster fat = 0 ↔ ¬ ∃ c, FirstFree fat c := by
  unfold findEmptyCluster FirstFree
  cases h : firstFrom 2 fun i => fat i == fatEmptyEntry with
  | none => simp
  | some c =>
      obtain ⟨above, -, -⟩ := firstFrom_eq_some_iff.mp h
      have nonzero : c ≠ 0 := ne_zero_of_one_le (by omega)
      simp [nonzero]

theorem exists_firstFree {fat : FAT32FileAllocationTable} {c : Fin 512} (above : 2 ≤ c.val)
    (free : fat c = fatEmptyEntry) : ∃ e, FirstFree fat e := by
  by_contra none
  have missing := Option.eq_none_iff_forall_ne_some.mpr fun e found => none ⟨e, found⟩
  have used := firstFrom_eq_none_iff.mp missing c above
  simp [free] at used

theorem exists_firstSlot {table : FAT32DirectoryTable} {k : Fin 64} (above : 1 ≤ k.val)
    (free : ¬ Live (table k)) : ∃ i, FirstSlot table i := by
  by_contra none
  have missing := Option.eq_none_iff_forall_ne_some.mpr fun i found => none ⟨i, found⟩
  have used := firstFrom_eq_none_iff.mp missing k above
  exact free (by simpa [Live] using used)

theorem FirstFree.find {fat : FAT32FileAllocationTable} {c : Fin 512} (first : FirstFree fat c) :
    findEmptyCluster fat = c := by
  have found : firstFrom 2 (fun i => fat i == fatEmptyEntry) = some c := first
  rw [findEmptyCluster, found, Option.getD_some]

theorem findEmptyEntry_iff {table : FAT32DirectoryTable} :
    findEmptyEntry table = 0 ↔ ¬ ∃ k, FirstSlot table k := by
  unfold findEmptyEntry FirstSlot
  cases h : firstFrom 1 fun i => (table i).userAttribute != uattrNotEmpty with
  | none => simp
  | some k =>
      obtain ⟨above, -, -⟩ := firstFrom_eq_some_iff.mp h
      have nonzero : k ≠ 0 := ne_zero_of_one_le above
      simp [nonzero]

theorem FirstSlot.find {table : FAT32DirectoryTable} {k : Fin 64} (first : FirstSlot table k) :
    findEmptyEntry table = k := by
  have found : firstFrom 1 (fun i => (table i).userAttribute != uattrNotEmpty) = some k := first
  rw [findEmptyEntry, found, Option.getD_some]

/-- `isExist` gives 0 for no match and for a match in slot 0 alike. -/
theorem isExist_eq_zero_iff {request : FAT32DriverRequest} {table : FAT32DirectoryTable} :
    isExist request table = 0 ↔
      existMatch request (table 0) = true ∨ ∀ i, existMatch request (table i) = false := by
  unfold isExist
  cases h : firstFrom 0 fun i => existMatch request (table i) with
  | none => simpa using .inr fun i => firstFrom_eq_none_iff.mp h i (Nat.zero_le _)
  | some i =>
      obtain ⟨-, hit, least⟩ := firstFrom_eq_some_iff.mp h
      rw [Option.getD_some]
      constructor
      · rintro rfl
        exact .inl hit
      · rintro (own | none)
        · by_contra other
          have miss := least 0 (Fin.pos_iff_ne_zero.mpr other) (Nat.zero_le _)
          rw [own] at miss
          cases miss
        · rw [none i] at hit
          cases hit

/-- A write gets past all its checks. -/
structure FindsPlace (request : FAT32DriverRequest) (v : Volume) : Prop where
  parent : Accepts v.disk request.parentClusterNumber
  absent : isExist request (parentTable v.disk request.parentClusterNumber) = 0
  cluster : ∃ c, FirstFree v.fat c
  slot : ∃ i, FirstSlot (parentTable v.disk request.parentClusterNumber) i

theorem validateWrite_eq_zero_iff {request : FAT32DriverRequest} {disk : Disk} :
    validateWrite request (tableOf (readClusters disk request.parentClusterNumber)) = 0 ↔
      Accepts disk request.parentClusterNumber ∧
        isExist request (parentTable disk request.parentClusterNumber) = 0 := by
  by_cases accepts : Accepts disk request.parentClusterNumber
  · have admitted := accepts.admitted
    rw [validateWrite, if_neg admitted, accepts.readClusters, and_iff_right accepts,
      ← not_iff_not, ← ne_eq (isExist _ _), ← Fin.pos_iff_ne_zero]
    split
    · rename_i taken
      exact iff_of_true (by decide) taken
    · rename_i free
      exact iff_of_false (by decide) free
  · rw [validateWrite, if_pos ((parent_rejected_iff disk request.parentClusterNumber).mpr accepts)]
    exact iff_of_false (by decide) fun both => accepts both.1

theorem findsPlace_iff {request : FAT32DriverRequest} {v : Volume} :
    FindsPlace request v ↔
      validateWrite request (tableOf (readClusters v.disk request.parentClusterNumber)) = 0 ∧
        ¬ (findEmptyCluster v.fat = 0 ∨
          findEmptyEntry (tableOf (readClusters v.disk request.parentClusterNumber)) = 0) := by
  rw [validateWrite_eq_zero_iff, not_or, findEmptyCluster_iff, findEmptyEntry_iff, not_not, not_not]
  constructor
  · intro ⟨accepts, absent, cluster, slot⟩
    exact ⟨⟨accepts, absent⟩, cluster, by rwa [accepts.readClusters]⟩
  · intro ⟨⟨accepts, absent⟩, cluster, slot⟩
    exact ⟨accepts, absent, cluster, by rwa [accepts.readClusters] at slot⟩

/-- A write that passes every check. -/
theorem Volume.write_of_admitted {request : FAT32DriverRequest} {v : Volume} {c : Fin 512}
    {k : Fin 64} (accepts : Accepts v.disk request.parentClusterNumber)
    (absent : isExist request (parentTable v.disk request.parentClusterNumber) = 0)
    (first : FirstFree v.fat c)
    (slot : FirstSlot (parentTable v.disk request.parentClusterNumber) k) :
    Volume.write request v =
      if request.bufferSize = 0 then
        (0, Volume.makeFolder request c ⟨v.fat, storeEntry request v.disk c k⟩)
      else Volume.makeFile request c 0 request.bufferSize (storeEntry request v.disk c k) := by
  have valid := validateWrite_eq_zero_iff.mpr ⟨accepts, absent⟩
  rw [accepts.readClusters] at valid
  have stocked : ¬ (c = 0 ∨ k = 0) := by
    have above := first.spec.1
    have below := slot.spec.1
    rintro (rfl | rfl)
    · simp at above
    · simp at below
  simp only [Volume.write, accepts.readClusters, valid, first.find, slot.find, stocked, ne_eq,
    not_true_eq_false, if_false, accepts.writeClusters, storeEntry]

/-- Every write of the volume ends in one of the listed ways. -/
theorem Volume.write_outcome (request : FAT32DriverRequest) (v : Volume) :
    WriteOutcome request v (Volume.write request v).1 (Volume.write request v).2 := by
  have rejected := parent_rejected_iff v.disk request.parentClusterNumber
  by_cases accepts : Accepts v.disk request.parentClusterNumber
  · have table := accepts.readClusters
    have admitted := mt rejected.mp (not_not.mpr accepts)
    rw [table] at admitted
    by_cases exist : isExist request (parentTable v.disk request.parentClusterNumber) = 0
    · have valid := validateWrite_eq_zero_iff.mpr ⟨accepts, exist⟩
      rw [table] at valid
      by_cases full : findEmptyCluster v.fat = 0 ∨
          findEmptyEntry (parentTable v.disk request.parentClusterNumber) = 0
      · have result : Volume.write request v = (-1, v) := by
          simp only [Volume.write, valid, table, full, ne_eq, not_true_eq_false, if_true, if_false]
        rw [result]
        exact .full accepts exist (full.imp findEmptyCluster_iff.mp findEmptyEntry_iff.mp)
      · have stocked := not_or.mp full
        obtain ⟨c, first⟩ := not_not.mp (findEmptyCluster_iff.not.mp stocked.1)
        obtain ⟨k, slot⟩ := not_not.mp (findEmptyEntry_iff.not.mp stocked.2)
        rw [Volume.write_of_admitted accepts exist first slot]
        by_cases size : request.bufferSize = 0
        · rw [if_pos size]
          exact .folder accepts exist first slot size
        · rw [if_neg size]
          exact .file accepts exist first slot size
    · have taken : isExist request (parentTable v.disk request.parentClusterNumber) > 0 :=
        Fin.pos_iff_ne_zero.mpr exist
      have result : Volume.write request v = (1, v) := by
        have valid : validateWrite request (parentTable v.disk request.parentClusterNumber) = 1 := by
          rw [validateWrite, if_neg admitted, if_pos taken]
        simp [Volume.write, table, valid]
      rw [result]
      exact .taken accepts exist
  · have result : Volume.write request v = (2, v) := by
      have valid : validateWrite request (tableOf (readClusters v.disk request.parentClusterNumber))
          = 2 := by
        rw [validateWrite, if_pos (rejected.mpr accepts)]
      simp [Volume.write, valid]
    rw [result]
    exact .invalidParent accepts

theorem write_outcome (request : FAT32DriverRequest) (d : Driver) :
    WriteOutcome request d.volume (write request d).1 (write request d).2.volume := by
  obtain ⟨code, volume⟩ := write_volume request d
  rw [code, volume]
  exact d.volume.write_outcome request

/-! ### Delete -/

/-- Rounds of the loop over `k`, counted from 0. -/
def rounds (request : FAT32DriverRequest) : Nat := request.bufferSize.toNat / 2048

/-- Entries `1 … n - 1` of the FAT zeroed. -/
def wipe (fat : FAT32FileAllocationTable) (n : Nat) : FAT32FileAllocationTable := fun c =>
  if 1 ≤ c.val ∧ c.val < n then 0 else fat c

/-- Slot `j`, before slot `hi`, has the requested name and holds no directory:
the slots that rounds are made for. -/
def Passes (request : FAT32DriverRequest) (table : FAT32DirectoryTable) (hi : Nat) (j : Fin 64) :
    Prop :=
  1 ≤ j.val ∧ j.val < hi ∧ (table j).name = request.name ∧ (table j).attribute ≠ attrSubdirectory

instance (request : FAT32DriverRequest) (table : FAT32DirectoryTable) (hi : Nat) (j : Fin 64) :
    Decidable (Passes request table hi j) := inferInstanceAs (Decidable (_ ∧ _))

def LastPassed (request : FAT32DriverRequest) (table : FAT32DirectoryTable) (hi : Nat)
    (j : Fin 64) : Prop :=
  Passes request table hi j ∧ ∀ j', Passes request table hi j' → j' ≤ j

/-- The FAT entry that the last round finds, and leaves in the local `temp`. -/
def lastEntry (request : FAT32DriverRequest) (fat : FAT32FileAllocationTable) : UInt32 :=
  fat ⟨(rounds request - 1) % 512, Nat.mod_lt _ (by decide)⟩

/-- What the rounds for one slot leave: the wiped FAT in RAM, and the parent
cluster filled from the stack of the last round. -/
def wipedVolume (request : FAT32DriverRequest) (stack : UInt8 → Nat → UInt8) (temp : UInt32)
    (v : Volume) : Volume :=
  ⟨wipe v.fat (rounds request), Function.update v.disk request.parentClusterNumber.toNat
    (tempBytes temp (stack (UInt8.ofNat (rounds request - 1))))⟩

/-- What all rounds before slot `hi` leave: nothing new when there is none. -/
inductive Wiped (request : FAT32DriverRequest) (stack : Fin 64 → UInt8 → Nat → UInt8)
    (table : FAT32DirectoryTable) (v : Volume) (hi : Nat) : Volume → Prop where
  | untouched : (∀ j, Passes request table hi j → rounds request < 2) →
      Wiped request stack table v hi v
  | wiped {j : Fin 64} (temp : UInt32) : LastPassed request table hi j → 2 ≤ rounds request →
      rounds request < 256 → Wiped request stack table v hi (wipedVolume request (stack j) temp v)

/-- A table with something in the slots behind its own. -/
def Occupied (table : FAT32DirectoryTable) : Prop :=
  ∃ j : Fin 64, 1 ≤ j.val ∧ (table j).userAttribute ≠ 0

instance (table : FAT32DirectoryTable) : Decidable (Occupied table) :=
  inferInstanceAs (Decidable (∃ _, _))

/-- The disk as the search finds it at slot `hi`, but for the first four bytes
of the parent cluster once that has been overwritten. -/
def seenDisk (request : FAT32DriverRequest) (stack : Fin 64 → UInt8 → Nat → UInt8)
    (table : FAT32DirectoryTable) (disk : Disk) : Nat → Disk
  | 0 => disk
  | n + 1 =>
      if h : n < 64 then
        if Passes request table (n + 1) ⟨n, h⟩ ∧ 2 ≤ rounds request then
          Function.update disk request.parentClusterNumber.toNat
            (tempBytes 0 (stack ⟨n, h⟩ (UInt8.ofNat (rounds request - 1))))
        else seenDisk request stack table disk n
      else seenDisk request stack table disk n

/-- Slot `i` ends the search: it has another name, or holds a directory that is
not empty. -/
def EndsSearch (request : FAT32DriverRequest) (stack : Fin 64 → UInt8 → Nat → UInt8)
    (table : FAT32DirectoryTable) (disk : Disk) (i : Fin 64) : Prop :=
  (table i).name ≠ request.name ∨ (table i).attribute = attrSubdirectory ∧
    Occupied (tableOf (readClusters (seenDisk request stack table disk i.val)
      (entryCluster (table i))))

instance (request : FAT32DriverRequest) (stack : Fin 64 → UInt8 → Nat → UInt8)
    (table : FAT32DirectoryTable) (disk : Disk) (i : Fin 64) :
    Decidable (EndsSearch request stack table disk i) := inferInstanceAs (Decidable (_ ∨ _))

/-- The slot the search ends at, if it does not run through the whole table. -/
def deleteStop (request : FAT32DriverRequest) (stack : Fin 64 → UInt8 → Nat → UInt8)
    (table : FAT32DirectoryTable) (disk : Disk) : Option (Fin 64) :=
  firstFrom 1 fun i => decide (EndsSearch request stack table disk i)

/-- The number of that slot, or of slots. -/
def searchEnd (request : FAT32DriverRequest) (stack : Fin 64 → UInt8 → Nat → UInt8)
    (table : FAT32DirectoryTable) (disk : Disk) : Nat :=
  (deleteStop request stack table disk).elim 64 Fin.val

def Volume.removeEntry (request : FAT32DriverRequest) (table : FAT32DirectoryTable) (i : Fin 64)
    (c : Fin 512) (v : Volume) : Volume :=
  let fat := Function.update v.fat c fatEmptyEntry
  ⟨fat, Function.update (Function.update v.disk 1 (fatBytes fat)) request.parentClusterNumber.toNat
    (tableBytes (Function.update table i .empty))⟩

/-- How the search ends, given its stop and the volume the wiping left. -/
inductive DeleteEnd (request : FAT32DriverRequest) (table : FAT32DirectoryTable)
    (stop : Option (Fin 64)) (v : Volume) : Int → Volume → Prop where
  | notFound : stop = none → DeleteEnd request table stop v 1 v
  | notEmpty {i : Fin 64} : stop = some i → (table i).name = request.name →
      DeleteEnd request table stop v 2 v
  | removed {i : Fin 64} {c : Fin 512} : stop = some i → (table i).name ≠ request.name →
      entryCluster (table i) = num c →
      DeleteEnd request table stop v 0 (v.removeEntry request table i c)

inductive DeleteOutcome (request : FAT32DriverRequest) (stack : Fin 64 → UInt8 → Nat → UInt8)
    (v : Volume) : Int → Volume → Prop where
  | invalidParent : ¬ Accepts v.disk request.parentClusterNumber →
      DeleteOutcome request stack v (-1) v
  | searched {w v' : Volume} {code : Int} : Accepts v.disk request.parentClusterNumber →
      Wiped request stack (parentTable v.disk request.parentClusterNumber) v
        (searchEnd request stack (parentTable v.disk request.parentClusterNumber) v.disk) w →
      DeleteEnd request (parentTable v.disk request.parentClusterNumber)
        (deleteStop request stack (parentTable v.disk request.parentClusterNumber) v.disk) w code v' →
      DeleteOutcome request stack v code v'

theorem wipedVolume_of_ne {request : FAT32DriverRequest} {stack : UInt8 → Nat → UInt8}
    {temp : UInt32} {v : Volume} {x : Nat} (other : x ≠ request.parentClusterNumber.toNat) :
    (wipedVolume request stack temp v).disk x = v.disk x :=
  Function.update_of_ne other _ _

theorem removeEntry_of_ne {request : FAT32DriverRequest} {table : FAT32DirectoryTable} {i : Fin 64}
    {c : Fin 512} {v : Volume} {x : Nat} (other : x ≠ request.parentClusterNumber.toNat)
    (notFat : x ≠ 1) : (v.removeEntry request table i c).disk x = v.disk x := by
  simp only [Volume.removeEntry]
  rw [Function.update_of_ne other, Function.update_of_ne notFat]

/-- A removal writes the FAT to disk as it is in RAM. -/
theorem removeEntry_fat {request : FAT32DriverRequest} {table : FAT32DirectoryTable} {i : Fin 64}
    {c : Fin 512} {v : Volume} (parent : 2 ≤ request.parentClusterNumber.toNat) :
    fatOf ((v.removeEntry request table i c).disk 1) = (v.removeEntry request table i c).fat := by
  simp only [Volume.removeEntry]
  rw [Function.update_of_ne (by omega), Function.update_self, fatOf_fatBytes]

/-! ### The loop over k -/

theorem wipe_one (fat : FAT32FileAllocationTable) : wipe fat 1 = fat := by
  funext c
  exact if_neg (by omega)

theorem wipe_succ (fat : FAT32FileAllocationTable) {k : Nat} (c : Fin 512) (hc : c.val = k)
    (positive : 1 ≤ k) : Function.update (wipe fat k) c 0 = wipe fat (k + 1) := by
  funext e
  by_cases same : e = c
  · subst same
    rw [Function.update_self, wipe, if_pos (by omega)]
  · have differ : e.val ≠ c.val := Fin.val_ne_of_ne same
    rw [Function.update_of_ne same, wipe, wipe]
    simp only [show e.val < k + 1 ↔ e.val < k by omega]

theorem wipe_wipe (fat : FAT32FileAllocationTable) (n : Nat) : wipe (wipe fat n) n = wipe fat n := by
  funext c
  unfold wipe
  split <;> rfl

theorem round_continues (request : FAT32DriverRequest) (k : UInt8) :
    k.toUInt32 < request.bufferSize / clusterSize ↔ k.toNat < rounds request := by
  rw [UInt32.lt_iff_toNat_lt, UInt32.toNat_div, toNat_clusterSize, UInt8.toNat_toUInt32, rounds]

/-- With 256 rounds or more the 8-bit counter never reaches its bound. -/
theorem deleteRound_diverges (request : FAT32DriverRequest) (stack : UInt8 → Nat → UInt8)
    (many : 256 ≤ rounds request) (fuel : Nat) (s : UInt8 × Driver) :
    iterate (deleteRound request stack) fuel s = none := by
  refine iterate_diverges (I := fun _ => True) (fun s _ => ?_) trivial fuel
  obtain ⟨k, d⟩ := s
  have below : k.toNat < rounds request := lt_of_lt_of_le k.toNat_lt many
  rw [deleteRound, if_pos ((round_continues request k).mpr below)]
  exact ⟨_, rfl, trivial⟩

/-- With fewer rounds the loop over `k` returns. -/
theorem deleteRounds_return (request : FAT32DriverRequest) (stack : UInt8 → Nat → UInt8)
    (few : rounds request < 256) {fuel : Nat} (enough : 256 ≤ fuel) (d : Driver) :
    ∃ e, iterate (deleteRound request stack) fuel (1, d) = some e := by
  have lower : ∀ s t : UInt8 × Driver, deleteRound request stack s = .inl t →
      256 - t.1.toNat < 256 - s.1.toNat := by
    rintro ⟨k, s⟩ ⟨k', t⟩ round
    simp only [deleteRound, round_continues] at round
    split at round
    · rename_i below
      simp only [Sum.inl.injEq, Prod.mk.injEq] at round
      obtain ⟨rfl, -⟩ := round
      have one : (1 : UInt8).toNat = 1 := rfl
      simp only [UInt8.toNat_add, one]
      omega
    · cases round
  obtain ⟨e, ends⟩ := iterate_terminates (I := fun _ => True)
    (fun s : UInt8 × Driver => 256 - s.1.toNat)
    (fun s t _ round => ⟨trivial, lower s t round⟩) (s := (1, d)) trivial
  exact ⟨e, iterate_mono (le_trans (by simp) enough) ends⟩

/-- The state in which round `k` starts. -/
private structure RoundState (request : FAT32DriverRequest) (stack : UInt8 → Nat → UInt8)
    (d : Driver) (s : UInt8 × Driver) : Prop where
  low : 1 ≤ s.1.toNat
  high : s.1.toNat = 1 ∨ s.1.toNat ≤ rounds request
  table : s.2.dirTableBuf = d.dirTableBuf
  fat : s.2.fatTable = wipe d.fatTable s.1.toNat
  disk : s.1.toNat = 1 ∧ s.2.disk = d.disk ∨ ∃ last : UInt8, last.toNat + 1 = s.1.toNat ∧
    2 ≤ s.1.toNat ∧
    s.2.disk = Function.update d.disk request.parentClusterNumber.toNat
      (tempBytes (d.fatTable ⟨last.toNat, lt_trans last.toNat_lt (by decide)⟩) (stack last))

/-- The rounds for one slot. -/
theorem deleteRounds_spec (request : FAT32DriverRequest) (stack : UInt8 → Nat → UInt8)
    (inside : request.parentClusterNumber.toNat < 2 ^ 26) {fuel : Nat} {d e : Driver}
    (done : iterate (deleteRound request stack) fuel (1, d) = some e) :
    e.dirTableBuf = d.dirTableBuf ∧ (rounds request < 2 ∧ e.volume = d.volume ∨
      2 ≤ rounds request ∧ rounds request < 256 ∧
        e.volume = wipedVolume request stack (lastEntry request d.fatTable) d.volume) := by
  have few : rounds request < 256 := by
    by_contra many
    rw [deleteRound_diverges request stack (not_lt.mp many)] at done
    cases done
  refine iterate_invariant (I := RoundState request stack d)
    (Q := fun e => e.dirTableBuf = d.dirTableBuf ∧ (rounds request < 2 ∧ e.volume = d.volume ∨
      2 ≤ rounds request ∧ rounds request < 256 ∧
        e.volume = wipedVolume request stack (lastEntry request d.fatTable) d.volume)) ?_ ?_ ?_ done
  · rintro ⟨k, s⟩ ⟨k', s'⟩ ⟨low, high, table, fat, disk⟩ round
    simp only [deleteRound, round_continues] at round
    split at round
    · rename_i below
      simp only [Sum.inl.injEq, Prod.mk.injEq] at round
      obtain ⟨rfl, rfl⟩ := round
      have one : (1 : UInt8).toNat = 1 := rfl
      have next : (k + 1).toNat = k.toNat + 1 := by
        rw [UInt8.toNat_add, one]
        omega
      simp only at low high table fat disk
      refine ⟨by simp only [next]; omega, .inr (by simp only [next]; omega), table, ?_,
        .inr ⟨k, next.symm, by simp only [next]; omega, ?_⟩⟩
      · simp only [next, fat]
        exact wipe_succ d.fatTable _ rfl low
      · have unwiped : wipe d.fatTable k.toNat ⟨k.toNat, lt_trans k.toNat_lt (by decide)⟩ =
            d.fatTable ⟨k.toNat, lt_trans k.toNat_lt (by decide)⟩ :=
          if_neg fun ⟨_, below⟩ => lt_irrefl _ below
        simp only [writeClusters_of_lt _ inside, fat, unwiped]
        rcases disk with ⟨-, same⟩ | ⟨_, -, -, filled⟩
        · rw [same]
        · rw [filled, Function.update_idem]
    · cases round
  · rintro ⟨k, s⟩ e ⟨low, high, table, fat, disk⟩ leave
    simp only [deleteRound, round_continues] at leave
    split at leave
    · cases leave
    · rename_i stop
      simp only [Sum.inr.injEq] at leave
      subst leave
      refine ⟨table, ?_⟩
      simp only at low high table fat disk
      rcases disk with ⟨first, same⟩ | ⟨last, position, later, filled⟩
      · refine .inl ⟨by omega, ?_⟩
        rw [Driver.volume, Driver.volume, fat, same, first, wipe_one]
      · have reached : k.toNat = rounds request := by omega
        have lastRound : UInt8.ofNat (rounds request - 1) = last := by
          rw [← reached, ← position, Nat.add_sub_cancel, UInt8.ofNat_toNat]
        have entry : lastEntry request d.fatTable =
            d.fatTable ⟨last.toNat, lt_trans last.toNat_lt (by decide)⟩ := by
          rw [lastEntry]
          congr 2
          omega
        refine .inr ⟨by omega, few, ?_⟩
        rw [Driver.volume, fat, filled, reached, wipedVolume, lastRound, entry]
        rfl
  · exact ⟨le_rfl, .inl rfl, rfl, (wipe_one d.fatTable).symm, .inl ⟨rfl, rfl⟩⟩

/-! ### The loop over the slots -/

theorem wipedVolume_again (request : FAT32DriverRequest) (stack stack' : UInt8 → Nat → UInt8)
    (temp temp' : UInt32) (v : Volume) :
    wipedVolume request stack' temp' (wipedVolume request stack temp v) =
      wipedVolume request stack' temp' v := by
  simp only [wipedVolume, wipe_wipe, Function.update_idem]

theorem passes_succ_iff {request : FAT32DriverRequest} {table : FAT32DirectoryTable} {i j : Fin 64} :
    Passes request table (i.val + 1) j ↔
      j = i ∧ Passes request table (i.val + 1) i ∨ Passes request table i.val j := by
  constructor
  · intro passes
    by_cases same : j = i
    · exact .inl ⟨same, same ▸ passes⟩
    · obtain ⟨low, high, kept⟩ := passes
      have differ : j.val ≠ i.val := Fin.val_ne_of_ne same
      exact .inr ⟨low, by omega, kept⟩
  · rintro (⟨rfl, passes⟩ | ⟨low, high, kept⟩)
    · exact passes
    · exact ⟨low, by omega, kept⟩

/-- The rounds for slot `i` make it the last one passed. -/
theorem lastPassed_succ {request : FAT32DriverRequest} {table : FAT32DirectoryTable} {i : Fin 64}
    (passes : Passes request table (i.val + 1) i) : LastPassed request table (i.val + 1) i :=
  ⟨passes, fun _ other => Fin.le_def.mpr (Nat.lt_succ_iff.mp other.2.1)⟩

section Wiped

variable {request : FAT32DriverRequest} {stack : Fin 64 → UInt8 → Nat → UInt8}
variable {table : FAT32DirectoryTable} {u v w : Volume} {i : Fin 64}

theorem Wiped.skip (miss : ¬ Passes request table (i.val + 1) i)
    (wiped : Wiped request stack table v i.val w) : Wiped request stack table v (i.val + 1) w := by
  have same : ∀ j, Passes request table (i.val + 1) j ↔ Passes request table i.val j := fun j =>
    passes_succ_iff.trans (or_iff_right fun own => miss own.2)
  cases wiped with
  | untouched few => exact .untouched fun j passes => few j ((same j).mp passes)
  | wiped temp last many bounded =>
      exact .wiped temp ⟨(same _).mpr last.1, fun j other => last.2 j ((same j).mp other)⟩
        many bounded

/-- The rounds for slot `i`, after those for the slots before it. -/
theorem Wiped.again (passes : Passes request table (i.val + 1) i)
    (wiped : Wiped request stack table v i.val u)
    (rest : rounds request < 2 ∧ w = u ∨ 2 ≤ rounds request ∧ rounds request < 256 ∧
      ∃ temp, w = wipedVolume request (stack i) temp u) :
    Wiped request stack table v (i.val + 1) w := by
  rcases rest with ⟨few, rfl⟩ | ⟨many, bounded, temp, rfl⟩
  · cases wiped with
    | untouched => exact .untouched fun _ _ => few
    | wiped _ _ many => exact absurd many (by omega)
  · cases wiped with
    | untouched => exact .wiped temp (lastPassed_succ passes) many bounded
    | wiped =>
        rw [wipedVolume_again]
        exact .wiped temp (lastPassed_succ passes) many bounded

theorem seenDisk_untouched {disk : Disk} {hi : Nat}
    (few : ∀ j, Passes request table hi j → rounds request < 2) :
    seenDisk request stack table disk hi = disk := by
  induction hi with
  | zero => rfl
  | succ n ih =>
      have below := ih fun j passes => few j ⟨passes.1, by have := passes.2.1; omega, passes.2.2⟩
      unfold seenDisk
      split
      · rw [if_neg, below]
        rintro ⟨passes, many⟩
        exact absurd (few _ passes) (by omega)
      · exact below

theorem seenDisk_last {disk : Disk} {hi : Nat} {j : Fin 64} (last : LastPassed request table hi j)
    (many : 2 ≤ rounds request) :
    seenDisk request stack table disk hi = Function.update disk request.parentClusterNumber.toNat
      (tempBytes 0 (stack j (UInt8.ofNat (rounds request - 1)))) := by
  induction hi with
  | zero => exact absurd last.1.2.1 (Nat.not_lt_zero _)
  | succ n ih =>
      have below : j.val ≠ n → seenDisk request stack table disk n =
          Function.update disk request.parentClusterNumber.toNat
            (tempBytes 0 (stack j (UInt8.ofNat (rounds request - 1)))) := by
        intro earlier
        obtain ⟨low, high, kept⟩ := last.1
        exact ih ⟨⟨low, by omega, kept⟩, fun k other =>
          last.2 k ⟨other.1, Nat.lt_succ_of_lt other.2.1, other.2.2⟩⟩
      unfold seenDisk
      split
      · rename_i here
        split
        · rename_i passes
          have behind := Fin.le_def.mp (last.2 _ passes.1)
          have high := last.1.2.1
          have same : j = ⟨n, here⟩ := Fin.ext (by change j.val = n; simp only at behind; omega)
          rw [same]
        · rename_i miss
          refine below fun same => miss ⟨?_, many⟩
          have own : j = ⟨n, here⟩ := Fin.ext same
          exact own ▸ last.1
      · rename_i beyond
        exact below (by omega)

/-- The local `temp` lies in front of every slot that `Occupied` looks at. -/
theorem occupied_tempBytes (disk : Disk) (x : Nat) (cluster temp temp' : UInt32)
    (stack : Nat → UInt8) :
    Occupied (tableOf (readClusters (Function.update disk x (tempBytes temp stack)) cluster)) ↔
      Occupied (tableOf (readClusters (Function.update disk x (tempBytes temp' stack)) cluster)) := by
  have slot : ∀ j : Fin 64, 1 ≤ j.val →
      (tableOf (tempBytes temp stack) j).userAttribute =
        (tableOf (tempBytes temp' stack) j).userAttribute := by
    intro j behind
    have inside : 32 * j.val + 12 < 2048 := by omega
    have beyond : ¬ 32 * j.val + 12 < 4 := by omega
    simp only [tableOf, FAT32DirectoryEntry.ofBytes, peek_of_lt _ inside, tempBytes, beyond, if_false]
  unfold readClusters
  by_cases here : deviceCluster cluster = x
  · rw [here, Function.update_self, Function.update_self]
    constructor
    · rintro ⟨j, behind, used⟩
      exact ⟨j, behind, by rwa [← slot j behind]⟩
    · rintro ⟨j, behind, used⟩
      exact ⟨j, behind, by rwa [slot j behind]⟩
  · rw [Function.update_of_ne here, Function.update_of_ne here]

theorem Wiped.occupied_iff {hi : Nat} (wiped : Wiped request stack table v hi w) (cluster : UInt32) :
    Occupied (tableOf (readClusters w.disk cluster)) ↔
      Occupied (tableOf (readClusters (seenDisk request stack table v.disk hi) cluster)) := by
  cases wiped with
  | untouched few => rw [seenDisk_untouched few]
  | wiped temp last many =>
      rw [seenDisk_last last many]
      exact occupied_tempBytes _ _ _ _ _ _

end Wiped

theorem occupied_iff (table : FAT32DirectoryTable) :
    Occupied table ↔ firstFrom 1 (fun j => (table j).userAttribute != 0) ≠ none := by
  rw [ne_eq, firstFrom_eq_none_iff, Occupied]
  simp

theorem deleteEntry_end {request : FAT32DriverRequest} {i : Fin 64} {d d' : Driver} {code : Int}
    (inside : request.parentClusterNumber.toNat < 2 ^ 26)
    (done : deleteEntry request i d = .ok (code, d')) :
    ∃ c, entryCluster (d.dirTableBuf i) = num c ∧ code = 0 ∧
      d'.volume = d.volume.removeEntry request d.dirTableBuf i c := by
  unfold deleteEntry at done
  simp only at done
  split at done
  · rename_i small
    simp only [Except.ok.injEq, Prod.mk.injEq] at done
    obtain ⟨rfl, rfl⟩ := done
    refine ⟨⟨_, small⟩, eq_num_of_lt small, rfl, ?_⟩
    simp only [Driver.volume, Volume.removeEntry, writeClusters_fat, writeClusters_of_lt _ inside]
    rfl
  · cases done

section SearchEnd

variable {request : FAT32DriverRequest} {stack : Fin 64 → UInt8 → Nat → UInt8}
variable {table : FAT32DirectoryTable} {disk : Disk}

theorem running_succ {i : Fin 64}
    (running : ∀ j : Fin 64, 1 ≤ j.val → j.val < i.val → ¬ EndsSearch request stack table disk j)
    (going : ¬ EndsSearch request stack table disk i) {j : Fin 64} (above : 1 ≤ j.val)
    (below : j.val < i.val + 1) : ¬ EndsSearch request stack table disk j := by
  by_cases here : j = i
  · exact here ▸ going
  · have differ : j.val ≠ i.val := Fin.val_ne_of_ne here
    exact running j above (by omega)

/-- The search goes on up to its end. -/
theorem not_endsSearch {j : Fin 64} (above : 1 ≤ j.val)
    (before : j.val < searchEnd request stack table disk) :
    ¬ EndsSearch request stack table disk j := by
  intro ends
  cases stop : deleteStop request stack table disk with
  | none => exact absurd ends (of_decide_eq_false (firstFrom_eq_none_iff.mp stop j above))
  | some i =>
      rw [searchEnd, stop, Option.elim_some] at before
      exact absurd ends
        (of_decide_eq_false ((firstFrom_eq_some_iff.mp stop).2.2 j (Fin.lt_def.mpr before) above))

theorem le_searchEnd {hi : Nat} (high : hi ≤ 64)
    (running : ∀ {j : Fin 64}, 1 ≤ j.val → j.val < hi → ¬ EndsSearch request stack table disk j) :
    hi ≤ searchEnd request stack table disk := by
  cases stop : deleteStop request stack table disk with
  | none =>
      rw [searchEnd, stop]
      exact high
  | some i =>
      obtain ⟨above, ends, -⟩ := firstFrom_eq_some_iff.mp stop
      rw [searchEnd, stop, Option.elim_some]
      by_contra later
      exact running above (not_le.mp later) (of_decide_eq_true ends)

end SearchEnd

/-- The state in which the loop comes to slot `lo`. -/
structure Searching (request : FAT32DriverRequest) (stack : Fin 64 → UInt8 → Nat → UInt8)
    (table : FAT32DirectoryTable) (v : Volume) (lo : Nat) (d : Driver) : Prop where
  low : 1 ≤ lo
  high : lo ≤ 64
  loaded : d.dirTableBuf = table
  wiped : Wiped request stack table v lo d.volume
  running : ∀ j : Fin 64, 1 ≤ j.val → j.val < lo → ¬ EndsSearch request stack table v.disk j

section Searching

variable {request : FAT32DriverRequest} {stack : Fin 64 → UInt8 → Nat → UInt8}
variable {table : FAT32DirectoryTable} {v : Volume} {i : Fin 64} {d : Driver}

theorem Searching.occupied_iff (searching : Searching request stack table v i.val d) :
    Occupied (tableOf (readClusters d.disk (entryCluster (table i)))) ↔
      Occupied (tableOf (readClusters (seenDisk request stack table v.disk i.val)
        (entryCluster (table i)))) :=
  searching.wiped.occupied_iff _

theorem Searching.stops (searching : Searching request stack table v i.val d)
    (ends : EndsSearch request stack table v.disk i) :
    deleteStop request stack table v.disk = some i :=
  firstFrom_eq_some_iff.mpr ⟨searching.low, decide_eq_true ends, fun j less above =>
    decide_eq_false (searching.running j above less)⟩

theorem Searching.runsOut (searching : Searching request stack table v 64 d) :
    deleteStop request stack table v.disk = none :=
  firstFrom_eq_none_iff.mpr fun j above => decide_eq_false (searching.running j above j.isLt)

/-- The loop goes on behind slot `i`. -/
theorem Searching.next (searching : Searching request stack table v i.val d)
    (going : ¬ EndsSearch request stack table v.disk i) {e : Driver}
    (loaded : e.dirTableBuf = table) (wiped : Wiped request stack table v (i.val + 1) e.volume) :
    Searching request stack table v (i.val + 1) e := by
  exact ⟨by omega, i.isLt, loaded, wiped, fun _ above below =>
    running_succ searching.running going above below⟩

/-- It goes on behind an empty directory of the name. -/
theorem Searching.directory (searching : Searching request stack table v i.val d)
    (name : (table i).name = request.name) (kind : (table i).attribute = attrSubdirectory)
    (empty : ¬ Occupied (tableOf (readClusters d.disk (entryCluster (table i))))) {e : Driver}
    (loaded : e.dirTableBuf = table) (same : e.volume = d.volume) :
    Searching request stack table v (i.val + 1) e := by
  refine searching.next ?_ loaded (same ▸ searching.wiped.skip fun passes => passes.2.2.2 kind)
  rintro (other | ⟨-, occupied⟩)
  · exact other name
  · exact empty (searching.occupied_iff.mpr occupied)

/-- It goes on behind a file of the name, once its rounds are made. -/
theorem Searching.file (searching : Searching request stack table v i.val d)
    (inside : request.parentClusterNumber.toNat < 2 ^ 26) (name : (table i).name = request.name)
    (kind : (table i).attribute ≠ attrSubdirectory) {fuel : Nat} {e : Driver}
    (ran : iterate (deleteRound request (stack i)) fuel (1, d) = some e) :
    Searching request stack table v (i.val + 1) e := by
  obtain ⟨kept, rest⟩ := deleteRounds_spec request (stack i) inside ran
  refine searching.next ?_ (kept.trans searching.loaded)
    (searching.wiped.again ⟨searching.low, Nat.lt_succ_self _, name, kind⟩
      (rest.imp_right fun ⟨many, bounded, volume⟩ => ⟨many, bounded, _, volume⟩))
  rintro (other | ⟨directory, -⟩)
  · exact other name
  · exact kind directory

/-- A search that goes on from slot `lo` ends at the stop. -/
theorem deleteLoop_end {fuel : Nat} (inside : request.parentClusterNumber.toNat < 2 ^ 26) {lo : Nat}
    {d' : Driver} {code : Int} (searching : Searching request stack table v lo d)
    (done : deleteLoop fuel request stack ((List.finRange 64).drop lo) d = .ok (code, d')) :
    ∃ w, Wiped request stack table v (searchEnd request stack table v.disk) w ∧
      DeleteEnd request table (deleteStop request stack table v.disk) w code d'.volume := by
  induction hm : 64 - lo generalizing lo d with
  | zero =>
      obtain rfl : lo = 64 := le_antisymm searching.high (by omega)
      rw [List.drop_eq_nil_of_le (by simp)] at done
      simp only [deleteLoop, Except.ok.injEq, Prod.mk.injEq] at done
      obtain ⟨rfl, rfl⟩ := done
      have none := searching.runsOut
      refine ⟨d.volume, ?_, .notFound none⟩
      simpa only [searchEnd, none, Option.elim_none] using searching.wiped
  | succ m ih =>
      obtain ⟨i, rfl⟩ : ∃ i : Fin 64, i.val = lo := ⟨⟨lo, by omega⟩, rfl⟩
      have stopped : EndsSearch request stack table v.disk i →
          Wiped request stack table v (searchEnd request stack table v.disk) d.volume := fun ends => by
        simpa only [searchEnd, searching.stops ends, Option.elim_some] using searching.wiped
      rw [List.drop_eq_getElem_cons (by simp), List.getElem_finRange] at done
      simp only [Fin.cast_mk, Fin.eta, deleteLoop, memcmp_eq_zero_iff, searching.loaded] at done
      by_cases name : (table i).name = request.name
      · by_cases kind : (table i).attribute = attrSubdirectory
        · simp only [name, kind, if_true] at done
          split at done
          · rename_i found
            simp only [Except.ok.injEq, Prod.mk.injEq] at done
            obtain ⟨rfl, rfl⟩ := done
            have occupied := (occupied_iff _).mpr fun none =>
              Option.some_ne_none _ (found.symm.trans none)
            have ends : EndsSearch request stack table v.disk i :=
              .inr ⟨kind, searching.occupied_iff.mp occupied⟩
            exact ⟨d.volume, stopped ends, .notEmpty (searching.stops ends) name⟩
          · rename_i empty
            refine ih (searching.directory name kind ?_ ?_ ?_) done (by omega)
            · exact fun occupied => (occupied_iff _).mp occupied empty
            · rfl
            · rfl
        · simp only [name, kind, if_true, if_false] at done
          split at done
          · cases done
          · rename_i e ran
            exact ih (searching.file inside name kind ran) done (by omega)
      · simp only [name, if_false] at done
        have ends : EndsSearch request stack table v.disk i := .inl name
        obtain ⟨c, decoded, rfl, volume⟩ := deleteEntry_end inside done
        rw [searching.loaded] at decoded volume
        exact ⟨d.volume, stopped ends, volume ▸ .removed (searching.stops ends) name decoded⟩

/-- A search whose rounds are few leaves the loop, unless its stop decodes to a
cluster behind the FAT. -/
theorem deleteLoop_ends {fuel : Nat} (inside : request.parentClusterNumber.toNat < 2 ^ 26)
    (few : ∀ j, Passes request table (searchEnd request stack table v.disk) j → rounds request < 256)
    (enough : 256 ≤ fuel) {lo : Nat} (searching : Searching request stack table v lo d) :
    (∃ r, deleteLoop fuel request stack ((List.finRange 64).drop lo) d = .ok r) ∨
      ∃ i, deleteStop request stack table v.disk = some i ∧ (table i).name ≠ request.name ∧
        512 ≤ (entryCluster (table i)).toNat ∧
        deleteLoop fuel request stack ((List.finRange 64).drop lo) d =
          .error (.wildIndex (entryCluster (table i))) := by
  induction hm : 64 - lo generalizing lo d with
  | zero =>
      rw [List.drop_eq_nil_of_le (by simp; omega)]
      exact .inl ⟨_, rfl⟩
  | succ m ih =>
      obtain ⟨i, rfl⟩ : ∃ i : Fin 64, i.val = lo := ⟨⟨lo, by omega⟩, rfl⟩
      rw [List.drop_eq_getElem_cons (by simp), List.getElem_finRange]
      simp only [Fin.cast_mk, Fin.eta, deleteLoop, memcmp_eq_zero_iff, searching.loaded]
      by_cases name : (table i).name = request.name
      · by_cases kind : (table i).attribute = attrSubdirectory
        · simp only [name, kind, if_true]
          split
          · exact .inl ⟨_, rfl⟩
          · rename_i empty
            refine ih (searching.directory name kind ?_ ?_ ?_) (by omega)
            · exact fun occupied => (occupied_iff _).mp occupied empty
            · rfl
            · rfl
        · simp only [name, kind, if_true, if_false]
          have going : ¬ EndsSearch request stack table v.disk i := by
            rintro (other | ⟨directory, -⟩)
            · exact other name
            · exact kind directory
          have beyond : i.val < searchEnd request stack table v.disk :=
            le_searchEnd i.isLt (running_succ searching.running going)
          obtain ⟨e, ran⟩ := deleteRounds_return request (stack i)
            (few i ⟨searching.low, beyond, name, kind⟩) enough d
          rw [ran]
          exact ih (searching.file inside name kind ran) (by omega)
      · simp only [name, if_false]
        by_cases below : (entryCluster (table i)).toNat < 512
        · simp only [deleteEntry, searching.loaded, below, dif_pos]
          exact .inl ⟨_, rfl⟩
        · refine .inr ⟨i, searching.stops (.inl name), name, not_lt.mp below, ?_⟩
          simp only [deleteEntry, searching.loaded, below, dif_neg, not_false_eq_true]

end Searching

/-- The state in which an accepted delete enters the loop. -/
theorem searching_start {request : FAT32DriverRequest} {stack : Fin 64 → UInt8 → Nat → UInt8}
    {d : Driver} (accepts : Accepts d.disk request.parentClusterNumber) :
    Searching request stack (parentTable d.disk request.parentClusterNumber) d.volume 1
      { d with dirTableBuf := tableOf (readClusters d.disk request.parentClusterNumber) } := by
  refine ⟨le_rfl, by omega, congrArg tableOf accepts.readClusters, .untouched ?_, ?_⟩
  · rintro j ⟨low, high, -⟩
    omega
  · intro j low high
    omega

theorem accepts_of_admitted {disk : Disk} {parent : UInt32}
    (valid : ¬ (parent < 2 ∨ parent > clusterMapSize ∨
      isDirectory (tableOf (readClusters disk parent)) = 0)) : Accepts disk parent := by
  by_contra no
  exact valid ((parent_rejected_iff disk parent).mpr no)

/-- A delete whose rounds are few leaves its loops. -/
theorem delete_ends {request : FAT32DriverRequest} (stack : Fin 64 → UInt8 → Nat → UInt8)
    {d : Driver}
    (few : Accepts d.disk request.parentClusterNumber → ∀ j,
      Passes request (parentTable d.disk request.parentClusterNumber)
        (searchEnd request stack (parentTable d.disk request.parentClusterNumber) d.disk) j →
      rounds request < 256)
    {fuel : Nat} (enough : 256 ≤ fuel) :
    (∃ r, delete fuel request stack d = .ok r) ∨
      Accepts d.disk request.parentClusterNumber ∧
        ∃ i, deleteStop request stack (parentTable d.disk request.parentClusterNumber) d.disk =
            some i ∧
          (parentTable d.disk request.parentClusterNumber i).name ≠ request.name ∧
          512 ≤ (entryCluster (parentTable d.disk request.parentClusterNumber i)).toNat ∧
          delete fuel request stack d =
            .error (.wildIndex (entryCluster (parentTable d.disk request.parentClusterNumber i))) := by
  unfold delete
  simp only
  split
  · exact .inl ⟨_, rfl⟩
  · rename_i valid
    have accepts := accepts_of_admitted valid
    have inside : request.parentClusterNumber.toNat < 2 ^ 26 := by
      have := accepts.2.1
      omega
    have searching := @searching_start request stack d accepts
    have ends := deleteLoop_ends (v := d.volume) inside (few accepts) enough searching
    exact ends.imp_right fun wild => ⟨accepts, wild⟩

theorem delete_returns {request : FAT32DriverRequest} (stack : Fin 64 → UInt8 → Nat → UInt8)
    {d : Driver} (few : rounds request < 256)
    (decodes : ∀ i, deleteStop request stack (parentTable d.disk request.parentClusterNumber) d.disk =
      some i → (entryCluster (parentTable d.disk request.parentClusterNumber i)).toNat < 512)
    {fuel : Nat} (enough : 256 ≤ fuel) : ∃ r, delete fuel request stack d = .ok r := by
  rcases delete_ends stack (fun _ _ _ => few) enough with returned | ⟨-, i, hit, -, wild, -⟩
  · exact returned
  · exact absurd (decodes i hit) (not_lt.mpr wild)

/-- Every delete that returns ends in one of the listed ways. -/
theorem delete_outcome {fuel : Nat} {request : FAT32DriverRequest}
    {stack : Fin 64 → UInt8 → Nat → UInt8} {d d' : Driver} {code : Int}
    (done : delete fuel request stack d = .ok (code, d')) :
    DeleteOutcome request stack d.volume code d'.volume := by
  unfold delete at done
  simp only at done
  split at done
  · rename_i invalid
    simp only [Except.ok.injEq, Prod.mk.injEq] at done
    obtain ⟨rfl, rfl⟩ := done
    exact .invalidParent ((parent_rejected_iff d.disk request.parentClusterNumber).mp invalid)
  · rename_i valid
    have accepts := accepts_of_admitted valid
    have inside := accepts.2.1
    obtain ⟨w, wiped, ended⟩ := deleteLoop_end (by omega) (searching_start accepts) done
    exact .searched accepts wiped ended

end HexOS.Fat32
