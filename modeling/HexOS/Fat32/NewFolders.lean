import HexOS.Fat32.FileWrites
import HexOS.Fat32.Removals

/-!
What a new folder contains.

The folder branch of `write` reads the cluster it took, sets the fields of slot 0
but for the ext, and writes the table back: the other slots are those the
cluster held before. So the directory is empty exactly when what it took was
clean. `Filling` follows an empty directory while entries are created in it,
until slot 63 is used or the clusters are.
-/

namespace HexOS.Fat32

open BoundedScan PartialRuns

/-! ### The specification -/

/-- Clusters an entry takes: one if it is a folder. -/
def clustersNeeded (request : FAT32DriverRequest) : Nat :=
  if request.bufferSize = 0 then 1 else chunksNeeded request.bufferSize

/-- The writes return 0, one after the other. -/
def AllWritten : Driver → List FAT32DriverRequest → Prop
  | _, [] => True
  | d, request :: rest => (write request d).1 = 0 ∧ AllWritten (write request d).2 rest

/-- Entries for an empty directory: 63 at most, of distinct names that are not
empty, with clusters for all of them. -/
structure Fills (c : Fin 512) (fat : FAT32FileAllocationTable) (requests : List FAT32DriverRequest) :
    Prop where
  few : requests.length ≤ 63
  parent : ∀ request ∈ requests, request.parentClusterNumber = num c
  named : ∀ request ∈ requests, request.name ≠ fun _ => 0
  distinct : (requests.map FAT32DriverRequest.name).Nodup
  room : (requests.map clustersNeeded).sum ≤ (freeClusters fat 2).length

/-- Slot 0 of a new directory. -/
structure NewHeader (request : FAT32DriverRequest) (entry : FAT32DirectoryEntry) : Prop where
  name : entry.name = request.name
  ext : entry.ext = fun _ => 0
  kind : entry.attribute = attrSubdirectory
  live : entry.userAttribute = uattrNotEmpty
  filesize : entry.filesize = 0

/-- Cluster `c` holds an empty directory: its other slots are free and match no
name, the check of `delete` finds no entry, and 63 can be created. -/
structure EmptyDirectory (request : FAT32DriverRequest) (c : Fin 512) (d : Driver) : Prop where
  header : NewHeader request (tableOf (d.disk c.val) 0)
  free : ∀ i : Fin 64, 1 ≤ i.val →
    ¬ Live (tableOf (d.disk c.val) i) ∧ (tableOf (d.disk c.val) i).name = fun _ => 0
  removable : ¬ Occupied (tableOf (d.disk c.val))
  creatable : ∀ requests, Fills c d.fatTable requests → AllWritten d requests

/-- What one call should keep. -/
def NewFolderIsEmpty (d : Driver) (call : Call) (reply : Reply) (d' : Driver) : Prop :=
  ∀ request, call = .write request → request.bufferSize = 0 → reply.code = 0 →
    EmptyDirectory request (findEmptyCluster d.fatTable) d'

/-- Nothing in cluster `c` shows in a new table: no ext in slot 0, no name and no
user attribute behind it; and it is not the parent's own cluster. -/
structure CleanCluster (request : FAT32DriverRequest) (disk : Disk) (c : Fin 512) : Prop where
  apart : request.parentClusterNumber ≠ num c
  ext : (tableOf (disk c.val) 0).ext = fun _ => 0
  slots : ∀ i : Fin 64, 1 ≤ i.val →
    (tableOf (disk c.val) i).name = (fun _ => 0) ∧ (tableOf (disk c.val) i).userAttribute = 0

/-- A write of a folder that passes every check takes a clean cluster. -/
def TakesClean (d : Driver) : Call → Prop
  | .write request => request.bufferSize = 0 → Accepts d.disk request.parentClusterNumber →
      isExist request (parentTable d.disk request.parentClusterNumber) = 0 →
      (∃ k, FirstSlot (parentTable d.disk request.parentClusterNumber) k) →
      ∀ c, FirstFree d.fatTable c → CleanCluster request d.disk c
  | _ => True

/-! ### Filling a directory -/

/-- Slots 1 to `m` of the directory in cluster `c` are used, by entries of the
names in `taken`; the others are as new. -/
structure Filling (v : Volume) (c : Fin 512) (taken : List (Bytes 8)) (m : Nat) : Prop where
  synced : v.fat = fatOf (v.disk 1)
  low : 2 ≤ c.val
  used : v.fat c ≠ fatEmptyEntry
  header : LooksLikeDirectory (tableOf (v.disk c.val))
  filled : ∀ i : Fin 64, 1 ≤ i.val → i.val ≤ m →
    Live (tableOf (v.disk c.val) i) ∧ (tableOf (v.disk c.val) i).name ∈ taken
  free : ∀ i : Fin 64, m < i.val →
    ¬ Live (tableOf (v.disk c.val) i) ∧ (tableOf (v.disk c.val) i).name = fun _ => 0

section

variable {request : FAT32DriverRequest} {v : Volume} {c : Fin 512} {taken : List (Bytes 8)} {m : Nat}

theorem Filling.accepts (filling : Filling v c taken m) : Accepts v.disk (num c) := by
  have below := c.isLt
  have above := filling.low
  refine ⟨by rw [toNat_num]; omega, by rw [toNat_num]; omega, ?_⟩
  rw [toNat_num]
  exact filling.header

/-- No slot but slot 0 can have the name of a further entry. -/
theorem Filling.absent (filling : Filling v c taken m) (named : request.name ≠ fun _ => 0)
    (fresh : request.name ∉ taken) : isExist request (tableOf (v.disk c.val)) = 0 := by
  refine isExist_of_miss fun i other => ?_
  have above : 1 ≤ i.val := Nat.one_le_iff_ne_zero.mpr (Fin.val_ne_zero_iff.mpr other)
  by_contra hit
  obtain ⟨name, -⟩ := existMatch_iff.mp (Bool.not_eq_false _ ▸ hit)
  by_cases inside : i.val ≤ m
  · exact fresh (name ▸ (filling.filled i above inside).2)
  · exact named (name.symm.trans (filling.free i (not_le.mp inside)).2)

theorem Filling.firstSlot (filling : Filling v c taken m) {k : Fin 64} (next : k.val = m + 1) :
    FirstSlot (tableOf (v.disk c.val)) k := by
  refine firstFrom_eq_some_iff.mpr ⟨by omega, ?_, fun i less above => ?_⟩
  · simpa [Live] using (filling.free k (by omega)).1
  · have before := Fin.lt_def.mp less
    simpa [Live] using (filling.filled i above (by omega)).1

/-- What leaves the directory as its new entry has it leaves it one slot fuller. -/
theorem Filling.next {v' : Volume} (filling : Filling v c taken m)
    (parent : request.parentClusterNumber.toNat = c.val) {k : Fin 64} (next : k.val = m + 1)
    {e : Fin 512} (image : v'.disk c.val = storeEntry request v.disk e k c.val)
    (synced : v'.fat = fatOf (v'.disk 1)) (used : v'.fat c = v.fat c) :
    Filling v' c (request.name :: taken) (m + 1) := by
  have zero : (0 : Fin 64) ≠ k := (ne_zero_of_one_le (by omega)).symm
  have table : tableOf (v'.disk c.val) = writeEntry request (tableOf (v.disk c.val)) (num e) k := by
    rw [image, ← parent, storeEntry_parent, parentTable]
  constructor
  · exact synced
  · exact filling.low
  · rw [used]
    exact filling.used
  · rw [table, LooksLikeDirectory, writeEntry_of_ne zero]
    exact filling.header
  · intro i above inside
    rw [table]
    by_cases here : i = k
    · rw [here, writeEntry_name]
      exact ⟨writeEntry_live _ _ _ _, List.mem_cons_self⟩
    · have other : i.val ≠ k.val := Fin.val_ne_of_ne here
      obtain ⟨live, member⟩ := filling.filled i above (by omega)
      rw [writeEntry_of_ne here]
      exact ⟨live, List.mem_cons_of_mem _ member⟩
  · intro i beyond
    have other : i ≠ k := by
      rintro rfl
      omega
    rw [table, writeEntry_of_ne other]
    exact filling.free i (by omega)

theorem Filling.addFolder (filling : Filling v c taken m)
    (parent : request.parentClusterNumber.toNat = c.val) {k : Fin 64} (next : k.val = m + 1)
    {e : Fin 512} (first : FirstFree v.fat e) :
    let v' := Volume.makeFolder request e ⟨v.fat, storeEntry request v.disk e k⟩
    Filling v' c (request.name :: taken) (m + 1) ∧
      (freeClusters v.fat 2).length ≤ (freeClusters v'.fat 2).length + 1 := by
  have low := filling.low
  have apart : c ≠ e := fun same => filling.used (same ▸ first.spec.2.1)
  refine ⟨filling.next (e := e) parent next ?_ (by simp [Volume.makeFolder])
    (Function.update_of_ne apart _ _), freeClusters_length_le fun x outside => ?_⟩
  · simp only [Volume.makeFolder]
    rw [Function.update_of_ne (by omega), Function.update_of_ne (Fin.val_ne_of_ne apart)]
  · have other : x ≠ e := by
      rintro rfl
      rw [freeClusters_of_next first] at outside
      exact outside List.mem_cons_self
    exact Function.update_of_ne other _ _

theorem Filling.addFile (filling : Filling v c taken m)
    (parent : request.parentClusterNumber.toNat = c.val) {k : Fin 64} (next : k.val = m + 1)
    {e : Fin 512} (first : FirstFree v.fat e)
    (accepts : Accepts v.disk request.parentClusterNumber)
    (room : chunksNeeded request.bufferSize ≤ (freeClusters v.fat 2).length) :
    let stored := Volume.makeFile request e 0 request.bufferSize (storeEntry request v.disk e k)
    stored.1 = 0 ∧ Filling stored.2 c (request.name :: taken) (m + 1) ∧
      (freeClusters v.fat 2).length ≤
        (freeClusters stored.2.fat 2).length + chunksNeeded request.bufferSize := by
  obtain ⟨above, free, -⟩ := first.spec
  have low := filling.low
  have fat : fatOf (storeEntry request v.disk e k 1) = v.fat :=
    (storeEntry_fat accepts).trans filling.synced.symm
  obtain ⟨flushed, entries, untouched, -⟩ := makeFile_spec request above 0 request.bufferSize
    (storeEntry request v.disk e k)
  rw [fat] at entries untouched
  have apart : c ∉ fileChain v.fat e request.bufferSize :=
    fun member => filling.used (fileChain_free free member)
  refine ⟨makeFile_code_iff.mpr ?_, filling.next (e := e) parent next ?_ flushed (entries c apart),
    freeClusters_length_le fun x outside => ?_⟩
  · rw [fat]
    exact (fileFits_iff first _).mpr room
  · exact untouched c.val (by omega) fun x member same => apart (Fin.ext same ▸ member)
  · exact entries x (fileChain_eq_take first _ ▸ outside)

theorem clustersNeeded_pos (request : FAT32DriverRequest) : 1 ≤ clustersNeeded request := by
  unfold clustersNeeded
  split
  · exact le_rfl
  · exact chunksNeeded_pos ‹_›

/-- **One more entry.** A write into the directory returns 0, uses its next slot
and takes its clusters. -/
theorem Filling.write (filling : Filling v c taken m) (few : m < 63)
    (parent : request.parentClusterNumber = num c) (named : request.name ≠ fun _ => 0)
    (fresh : request.name ∉ taken) (room : clustersNeeded request ≤ (freeClusters v.fat 2).length) :
    (Volume.write request v).1 = 0 ∧
      Filling (Volume.write request v).2 c (request.name :: taken) (m + 1) ∧
      (freeClusters v.fat 2).length ≤
        (freeClusters (Volume.write request v).2.fat 2).length + clustersNeeded request := by
  have accepts : Accepts v.disk request.parentClusterNumber := parent ▸ filling.accepts
  have index : request.parentClusterNumber.toNat = c.val := by rw [parent, toNat_num]
  have own : parentTable v.disk request.parentClusterNumber = tableOf (v.disk c.val) := by
    rw [parentTable, index]
  obtain ⟨k, next⟩ : ∃ k : Fin 64, k.val = m + 1 := ⟨⟨m + 1, by omega⟩, rfl⟩
  have slot := filling.firstSlot next
  have absent := filling.absent named fresh
  obtain ⟨e, first⟩ : ∃ e, FirstFree v.fat e := by
    by_contra none
    have positive := clustersNeeded_pos request
    rw [freeClusters_eq_nil_iff.mpr none, List.length_nil] at room
    omega
  rw [Volume.write_of_admitted accepts (own ▸ absent) first (own ▸ slot)]
  split
  · rename_i folder
    rw [clustersNeeded, if_pos folder]
    exact ⟨rfl, filling.addFolder index next first⟩
  · rename_i size
    rw [clustersNeeded, if_neg size] at room ⊢
    exact filling.addFile index next first accepts room

/-- **Filling it up.** -/
theorem Filling.allWritten {d : Driver} (filling : Filling d.volume c taken m)
    {requests : List FAT32DriverRequest} (few : m + requests.length ≤ 63)
    (parent : ∀ request ∈ requests, request.parentClusterNumber = num c)
    (named : ∀ request ∈ requests, request.name ≠ fun _ => 0)
    (distinct : (requests.map FAT32DriverRequest.name).Nodup)
    (fresh : ∀ request ∈ requests, request.name ∉ taken)
    (room : (requests.map clustersNeeded).sum ≤ (freeClusters d.fatTable 2).length) :
    AllWritten d requests := by
  induction requests generalizing d taken m with
  | nil => trivial
  | cons request rest ih =>
      rw [List.map_cons, List.sum_cons] at room
      rw [List.map_cons, List.nodup_cons] at distinct
      rw [List.length_cons] at few
      have first := @List.mem_cons_self _ request rest
      obtain ⟨code, next, left⟩ := filling.write (by omega) (parent request first)
        (named request first)
        (fresh request first) (by simp only [Driver.volume]; omega)
      obtain ⟨sameCode, sameVolume⟩ := write_volume request d
      rw [← sameVolume] at next left
      refine ⟨sameCode.trans code, ih next (by omega)
        (fun other member => parent other (List.mem_cons_of_mem _ member))
        (fun other member => named other (List.mem_cons_of_mem _ member)) distinct.2
        (fun other member used => ?_) (by simp only [Driver.volume] at left; omega)⟩
      rcases List.mem_cons.mp used with same | old
      · exact distinct.1 (same ▸ List.mem_map_of_mem member)
      · exact fresh other (List.mem_cons_of_mem _ member) old

end

/-! ### One folder -/

section

variable {request : FAT32DriverRequest} {v : Volume} {c : Fin 512} {k : Fin 64} {d' : Driver}

/-- The slots behind slot 0 are those the cluster held when it was read. -/
theorem newFolder_table (low : 2 ≤ c.val)
    (result : d'.volume = Volume.makeFolder request c ⟨v.fat, storeEntry request v.disk c k⟩) :
    tableOf (d'.disk c.val) = initDirectoryTable (tableOf (storeEntry request v.disk c k c.val))
      request.name request.parentClusterNumber := by
  have image : d'.disk = d'.volume.disk := rfl
  rw [image, result]
  exact makeFolder_own request low _

theorem newHeader_init {table : FAT32DirectoryTable} :
    NewHeader request (initDirectoryTable table request.name request.parentClusterNumber 0) ↔
      (table 0).ext = fun _ => 0 := by
  rw [initDirectoryTable, Function.update_self]
  exact ⟨fun header => header.ext, fun ext => ⟨rfl, ext, rfl, rfl, rfl⟩⟩

/-- A new folder starts to fill when what it took was clean. -/
theorem filling_makeFolder (low : 2 ≤ c.val)
    (result : d'.volume = Volume.makeFolder request c ⟨v.fat, storeEntry request v.disk c k⟩)
    (clean : CleanCluster request v.disk c) : Filling d'.volume c [] 0 := by
  have table := newFolder_table low result
  rw [storeEntry_of_ne (val_ne_of_ne_num clean.apart)] at table
  have image : d'.disk = d'.volume.disk := rfl
  rw [image] at table
  constructor
  · simp [result, Volume.makeFolder]
  · exact low
  · rw [result, makeFolder_marked]
    decide
  · rw [table]
    exact initDirectoryTable_header _ _ _
  · intro i above inside
    omega
  · intro i above
    obtain ⟨name, blank⟩ := clean.slots i above
    rw [table, initDirectoryTable_of_ne (ne_zero_of_one_le above), Live, blank]
    exact ⟨by decide, name⟩

/-- **A new folder is empty exactly when its cluster was clean.** -/
theorem emptyDirectory_iff (first : FirstFree v.fat c)
    (slot : FirstSlot (parentTable v.disk request.parentClusterNumber) k)
    (result : d'.volume = Volume.makeFolder request c ⟨v.fat, storeEntry request v.disk c k⟩) :
    EmptyDirectory request c d' ↔ CleanCluster request v.disk c := by
  obtain ⟨low, -, -⟩ := first.spec
  have table := newFolder_table low result
  constructor
  · intro empty
    have apart : request.parentClusterNumber ≠ num c := by
      intro same
      -- the folder took the parent's cluster, with its own entry in it
      obtain ⟨above, -, -⟩ := slot.spec
      have index : c.val = request.parentClusterNumber.toNat := by rw [same, toNat_num]
      have free := (empty.free k above).1
      rw [table, initDirectoryTable_of_ne (ne_zero_of_one_le above), index,
        storeEntry_parent] at free
      exact free (writeEntry_live _ _ _ _)
    rw [storeEntry_of_ne (val_ne_of_ne_num apart)] at table
    refine ⟨apart, newHeader_init.mp (table ▸ empty.header), fun i above => ?_⟩
    have behind := @initDirectoryTable_of_ne (tableOf (v.disk c.val)) request.name
      request.parentClusterNumber i (ne_zero_of_one_le above)
    have name := (empty.free i above).2
    have blank := not_exists.mp empty.removable i
    rw [table, behind] at name blank
    exact ⟨name, not_not.mp fun used => blank ⟨above, used⟩⟩
  · intro clean
    have filling := filling_makeFolder low result clean
    rw [storeEntry_of_ne (val_ne_of_ne_num clean.apart)] at table
    refine ⟨?_, fun i above => filling.free i above, ?_, fun requests fills => ?_⟩
    · rw [table]
      exact newHeader_init.mpr clean.ext
    · rintro ⟨i, above, used⟩
      rw [table, initDirectoryTable_of_ne (ne_zero_of_one_le above)] at used
      exact used (clean.slots i above).2
    · exact filling.allWritten (by rw [Nat.zero_add]; exact fills.few) fills.parent fills.named
        fills.distinct (fun _ _ => List.not_mem_nil) fills.room

end

/-! ### Runs -/

theorem newFolder_iff {request : FAT32DriverRequest} {d d' : Driver} {v' : Volume} {code : Int}
    (outcome : WriteOutcome request d.volume code v') (result : d'.volume = v')
    (folder : request.bufferSize = 0) :
    (code = 0 → EmptyDirectory request (findEmptyCluster d.fatTable) d') ↔
      (Accepts d.disk request.parentClusterNumber →
        isExist request (parentTable d.disk request.parentClusterNumber) = 0 →
        (∃ k, FirstSlot (parentTable d.disk request.parentClusterNumber) k) →
        ∀ c, FirstFree d.fatTable c → CleanCluster request d.disk c) := by
  cases outcome with
  | invalidParent rejected =>
      exact ⟨fun _ accepts => absurd accepts rejected, fun _ code => absurd code (by decide)⟩
  | taken _ exist =>
      exact ⟨fun _ _ absent => absurd absent exist, fun _ code => absurd code (by decide)⟩
  | full _ _ none =>
      refine ⟨fun _ _ _ slot c first => ?_, fun _ code => absurd code (by decide)⟩
      exact absurd none (not_or.mpr ⟨not_not.mpr ⟨c, first⟩, not_not.mpr slot⟩)
  | file _ _ _ _ size => exact absurd folder size
  | @folder c k accepts absent first slot =>
      have found : findEmptyCluster d.fatTable = c := first.find
      have exactly := emptyDirectory_iff first slot result
      rw [found]
      constructor
      · intro empty _ _ _ c' first'
        obtain rfl : c = c' := first.unique first'
        exact exactly.mp (empty rfl)
      · intro clean _
        exact exactly.mpr (clean accepts absent ⟨k, slot⟩ c first)

theorem newFolder_step_iff {fuel : Nat} {d d' : Driver} {call : Call} {reply : Reply}
    (taken : step fuel d call = .ok (reply, d')) :
    NewFolderIsEmpty d call reply d' ↔ TakesClean d call := by
  have outcome := step_outcome taken
  cases call with
  | write request =>
      cases outcome with
      | write outcome =>
          constructor
          · intro empty folder
            exact (newFolder_iff outcome rfl folder).mp (empty request rfl folder)
          · rintro clean _ ⟨⟩ folder
            exact (newFolder_iff outcome rfl folder).mpr (clean folder)
  | initializeFilesystem => exact ⟨fun _ => trivial, fun _ _ other => Call.noConfusion other⟩
  | read => exact ⟨fun _ => trivial, fun _ _ other => Call.noConfusion other⟩
  | readDirectory => exact ⟨fun _ => trivial, fun _ _ other => Call.noConfusion other⟩
  | delete => exact ⟨fun _ => trivial, fun _ _ other => Call.noConfusion other⟩

/-- **In a run of any calls from any state, every new folder is empty exactly
when every folder takes a clean cluster.** -/
theorem newFolders_iff_takeClean (fuel : Nat) (d : Driver) (calls : List Call) :
    Along (step fuel) NewFolderIsEmpty d calls ↔ Guarded (step fuel) TakesClean d calls :=
  along_iff_guarded (I := fun _ => True)
    (fun d call reply d' _ taken => @newFolder_step_iff fuel d d' call reply taken)
    (fun _ _ _ _ _ _ _ => trivial) trivial

/-! ### A folder in a recycled cluster -/

/-- Deleting a name that is not there removes `note`, whose cluster keeps its
bytes. -/
theorem note_removed {d : Driver} (table : tableOf (d.disk 2) = writeEntry note rootTable (num 3) 1)
    (stack : Fin 64 → UInt8 → Nat → UInt8) :
    ∃ d', delete 256 docs stack d = .ok (0, d') ∧
      parentTable d'.disk docs.parentClusterNumber = rootTable ∧
      d'.disk 3 = d.disk 3 ∧ d'.fatTable = Function.update d.fatTable 3 fatEmptyEntry := by
  have two : docs.parentClusterNumber.toNat = 2 := rfl
  obtain ⟨-, entered⟩ := @root_of_written d.disk note docs rfl table
  have other : (parentTable d.disk docs.parentClusterNumber 1).name ≠ docs.name := by
    rw [entered]
    decide
  have stop : plainStop docs (parentTable d.disk docs.parentClusterNumber) d.disk = some 1 :=
    firstFrom_here (i := (1 : Fin 64)) (decide_eq_true (.inl other))
  have decoded : entryCluster (parentTable d.disk docs.parentClusterNumber 1) = num 3 := by
    rw [entered]
    exact entryCluster_writeEntry _ _ _ _
  obtain ⟨d', done, volume⟩ := @quiet_removes docs d stack (note_accepts table)
    (fun _ => by decide) 1 3
    stop other decoded
  have image : d'.disk = d'.volume.disk := rfl
  refine ⟨d', done, ?_, ?_, congrArg Volume.fat volume⟩
  · rw [image, volume, entered]
    simp only [Volume.removeEntry, parentTable]
    rw [Function.update_self, tableOf_tableBytes]
    funext i
    by_cases first : i = 1
    · rw [first, Function.update_self, rootTable_of_ne (by decide)]
    · rw [Function.update_of_ne first, writeEntry_of_ne first]
  · rw [image, volume, removeEntry_of_ne (by rw [two]; decide) (by decide)]
    rfl

/-- The folder `docs`, made in the cluster of `note` once that is removed, holds
its bytes. -/
theorem newFolders_counterexample :
    ¬ Along (step 256) NewFolderIsEmpty (booted blankDisk)
      [.write note, .delete docs fun _ _ _ => 0, .write docs] := by
  have table := @booted_write_table blankDisk blankDisk_unformatted note rfl (by decide)
  have data := @booted_write_data blankDisk blankDisk_unformatted note rfl (by decide) (by decide)
  have root : (write note (booted blankDisk)).2.fatTable 2 = fatEndOfFile :=
    @booted_write_fat blankDisk blankDisk_unformatted note rfl (by decide) (by decide) 2 (by decide)
  generalize booted blankDisk = start at table data root ⊢
  intro along
  obtain ⟨-, along⟩ := along (.status (write note start).1) (write note start).2 (by rw [step])
  generalize (write note start).2 = d at table data root along
  obtain ⟨d', done, rest, kept, freed⟩ := note_removed table fun _ _ _ => 0
  obtain ⟨-, along⟩ := along (.status 0) d' (by rw [step, done])
  have taken : step 256 d' (.write docs) = .ok (.status (write docs d').1, (write docs d').2) := by
    rw [step]
  obtain ⟨here, -⟩ := along _ _ taken
  have two : docs.parentClusterNumber.toNat = 2 := rfl
  have accepts : Accepts d'.disk docs.parentClusterNumber := by
    refine ⟨by decide, by decide, ?_⟩
    rw [← parentTable, rest]
    exact initDirectoryTable_header _ _ _
  have first : FirstFree d'.fatTable 3 := by
    refine firstFrom_eq_some_iff.mpr ⟨by decide, by rw [freed, Function.update_self]; rfl,
      fun i less above => ?_⟩
    obtain rfl : i = 2 := Fin.ext (by have : i.val < 3 := less; change i.val = 2; omega)
    rw [freed, Function.update_of_ne (by decide), root]
    rfl
  have clean := (newFolder_step_iff taken).mp here rfl accepts
    (by rw [rest]; exact absent_of_empty (fun _ => rootTable_of_ne) (by decide))
    ⟨1, by rw [rest]; exact firstSlot_of_empty fun _ => rootTable_of_ne⟩ 3 first
  have blank := (clean.slots 1 le_rfl).2
  have three : (3 : Fin 512).val = 3 := rfl
  rw [three, kept, data] at blank
  exact absurd blank (by decide)

end HexOS.Fat32
