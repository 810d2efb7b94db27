import HexOS.Fat32.FileWrites

/-!
The cluster numbers in directory entries.

`write` splits a number into its low and high half, `init_directory_table` into
high and low: the slot of a child decodes to the cluster it was given, slot 0 to
its parent's number with the halves swapped. A `Journal` keeps, beside the
driver, the tables that were made and the entries written, so that each slot of
each table on disk has a number it should decode to (`Expected`).
-/

namespace HexOS.Fat32

open BoundedScan ByteWords LinkTable PartialRuns

/-! ### Encoding and decoding -/

/-- By the rule of `delete` and by that of the reads, the entry gives number `x`. -/
def Decodes (entry : FAT32DirectoryEntry) (x : UInt32) : Prop :=
  entryCluster entry = x ∧ entry.clusterLow.toUInt32 = x

instance (entry : FAT32DirectoryEntry) (x : UInt32) : Decidable (Decodes entry x) :=
  inferInstanceAs (Decidable (_ ∧ _))

theorem decodes_of_cluster {entry : FAT32DirectoryEntry} {c : Fin 512}
    (cluster : entryCluster entry = num c) : Decodes entry (num c) :=
  ⟨cluster, clusterLow_of_entryCluster cluster⟩

/-- The halves of a parent number, as slot 0 holds them. -/
structure HeaderFrom (parent : UInt32) (entry : FAT32DirectoryEntry) : Prop where
  low : entry.clusterLow = (parent >>> 16).toUInt16
  high : entry.clusterHigh = (parent &&& 0xFFFF).toUInt16

theorem headerFrom_init (table : FAT32DirectoryTable) (name : Bytes 8) (parent : UInt32) :
    HeaderFrom parent (initDirectoryTable table name parent 0) := by
  rw [initDirectoryTable, Function.update_self]
  exact ⟨rfl, rfl⟩

/-- Slot 0 decodes to the parent number with its halves swapped. -/
theorem HeaderFrom.toNat {parent : UInt32} {entry : FAT32DirectoryEntry}
    (header : HeaderFrom parent entry) :
    (entryCluster entry).toNat = parent.toNat % 65536 * 65536 + parent.toNat / 65536 := by
  have bound := parent.toNat_lt
  have mask : (parent &&& 0xFFFF).toNat = parent.toNat % 2 ^ 16 := toNat_and_mask parent 0xFFFF rfl
  have shift : (parent >>> 16).toNat = parent.toNat / 2 ^ 16 := toNat_shiftRight parent 16 (by decide)
  rw [entryCluster_toNat, header.low, header.high, UInt32.toNat_toUInt16, UInt32.toNat_toUInt16, mask,
    shift]
  omega

theorem HeaderFrom.decodes_iff {parent : UInt32} {entry : FAT32DirectoryEntry}
    (header : HeaderFrom parent entry) :
    entryCluster entry = parent ↔ parent >>> 16 = parent &&& 0xFFFF := by
  have bound := parent.toNat_lt
  have mask : (parent &&& 0xFFFF).toNat = parent.toNat % 2 ^ 16 := toNat_and_mask parent 0xFFFF rfl
  have shift : (parent >>> 16).toNat = parent.toNat / 2 ^ 16 := toNat_shiftRight parent 16 (by decide)
  rw [← UInt32.toNat_inj, ← UInt32.toNat_inj, header.toNat, mask, shift]
  omega

/-- No number a parent can have is among those that survive it. -/
theorem HeaderFrom.swapped {parent : UInt32} {entry : FAT32DirectoryEntry}
    (header : HeaderFrom parent entry) (above : 2 ≤ parent.toNat) (below : parent.toNat ≤ 512) :
    ¬ Decodes entry parent := by
  rintro ⟨same, -⟩
  have value := header.toNat
  rw [same] at value
  omega

/-! ### The journal -/

/-- A write that returned 0: the slot and the first cluster it took. -/
structure Entered where
  request : FAT32DriverRequest
  slot : Fin 64
  first : Fin 512

/-- A directory table: its cluster, and the parent number slot 0 was made from. -/
structure MadeTable where
  cluster : Fin 512
  parent : UInt32

structure Journal where
  driver : Driver
  tables : List MadeTable
  entries : List Entered

/-- Enter a write that returned `code` and left driver `d`. -/
def Journal.record (j : Journal) (request : FAT32DriverRequest) (code : Int) (d : Driver) : Journal :=
  let c := findEmptyCluster j.driver.fatTable
  let k := findEmptyEntry (parentTable j.driver.disk request.parentClusterNumber)
  if code ≠ 0 then { j with driver := d }
  else if request.bufferSize = 0 then
    ⟨d, j.tables ++ [⟨c, request.parentClusterNumber⟩], j.entries ++ [⟨request, k, c⟩]⟩
  else ⟨d, j.tables, j.entries ++ [⟨request, k, c⟩]⟩

def Journal.advance (j : Journal) (call : Call) (code : Int) (d : Driver) : Journal :=
  match call with
  | .write request => j.record request code d
  | _ => { j with driver := d }

def journalStep (fuel : Nat) (j : Journal) (call : Call) : Except Fault (Reply × Journal) :=
  match step fuel j.driver call with
  | .error fault => .error fault
  | .ok (reply, d) => .ok (reply, j.advance call reply.code d)

/-- The journal that starts with the root when the disk has been formatted. -/
def opened (disk : Disk) : Journal := ⟨booted disk, [⟨2, rootClusterNumber⟩], []⟩

theorem opened_driver (disk : Disk) : (opened disk).driver = booted disk := by
  rw [opened]

/-- Writes succeed, and nothing is deleted. -/
def Succeeds (j : Journal) : Call → Prop
  | .write request => (write request j.driver).1 = 0
  | .delete _ _ => False
  | _ => True

/-- Slot `i` of a table on disk. -/
def Journal.entry (j : Journal) (t : MadeTable) (i : Fin 64) : FAT32DirectoryEntry :=
  tableOf (j.driver.disk t.cluster.val) i

/-- The number slot `i` of a table should decode to: the parent's for slot 0,
the cluster it was given for the slot of a child. -/
inductive Expected (j : Journal) (t : MadeTable) : Fin 64 → UInt32 → Prop where
  | parent : Expected j t 0 t.parent
  | child {e : Entered} : e ∈ j.entries → e.request.parentClusterNumber = num t.cluster →
      Expected j t e.slot (num e.first)

/-! ### What the journal knows of the disk -/

/-- The state of a journal whose writes all succeeded: free clusters are blank,
and the used slots of each table are slot 0 and those of the children entered. -/
structure Recorded (tables : List MadeTable) (entries : List Entered) (v : Volume) : Prop where
  grounded : Grounded (tables.map MadeTable.cluster) v
  blank : ∀ c : Fin 512, 2 ≤ c.val → v.fat c = fatEmptyEntry → v.disk c.val = fun _ => 0
  headers : ∀ t ∈ tables, HeaderFrom t.parent (tableOf (v.disk t.cluster.val) 0) ∧
    2 ≤ t.parent.toNat ∧ t.parent.toNat ≤ 512
  parents : ∀ e ∈ entries, ∀ p : Fin 512, e.request.parentClusterNumber = num p →
    v.fat p ≠ fatEmptyEntry
  children : ∀ t ∈ tables, ∀ e ∈ entries, e.request.parentClusterNumber = num t.cluster →
    1 ≤ e.slot.val ∧ Live (tableOf (v.disk t.cluster.val) e.slot) ∧
      entryCluster (tableOf (v.disk t.cluster.val) e.slot) = num e.first
  entered : ∀ t ∈ tables, ∀ i : Fin 64, 1 ≤ i.val → Live (tableOf (v.disk t.cluster.val) i) →
    ∃ e ∈ entries, e.request.parentClusterNumber = num t.cluster ∧ e.slot = i

section

variable {tables : List MadeTable} {entries : List Entered} {v v' : Volume}
variable {request : FAT32DriverRequest} {c : Fin 512} {k : Fin 64}

theorem not_looksLikeDirectory_blank : ¬ LooksLikeDirectory (tableOf fun _ => 0) := by decide

theorem blank_dead : ∀ i, ¬ Live (tableOf (fun _ => 0) i) := by decide

/-- A parent that passes the check is no free cluster. -/
theorem Recorded.parent_used (recorded : Recorded tables entries v)
    (accepts : Accepts v.disk request.parentClusterNumber) {p : Fin 512}
    (index : request.parentClusterNumber.toNat = p.val) : v.fat p ≠ fatEmptyEntry := by
  intro free
  have above := accepts.1
  have looks := accepts.2.2
  rw [index, recorded.blank p (by omega) free] at looks
  exact not_looksLikeDirectory_blank looks

/-- Slot `i` of cluster `p` once the new entry is stored. -/
theorem storeEntry_slot (disk : Disk) (p : Fin 512) (i : Fin 64) :
    tableOf (storeEntry request disk c k p.val) i =
      if request.parentClusterNumber.toNat = p.val ∧ i = k then
        writeEntry request (parentTable disk request.parentClusterNumber) (num c) k k
      else tableOf (disk p.val) i := by
  by_cases here : request.parentClusterNumber.toNat = p.val
  · rw [← here, storeEntry_parent]
    by_cases slot : i = k
    · rw [if_pos ⟨rfl, slot⟩, slot]
    · rw [if_neg fun both => slot both.2, writeEntry_of_ne slot]
  · rw [storeEntry_of_ne (Ne.symm here), if_neg fun both => here both.1]

/-- The new entry is the one slot of the tables that changes. -/
theorem Recorded.enter (recorded : Recorded tables entries v)
    (accepts : Accepts v.disk request.parentClusterNumber)
    (slot : FirstSlot (parentTable v.disk request.parentClusterNumber) k)
    (keeps : Keeps (tables.map MadeTable.cluster) v v')
    (image : ∀ t ∈ tables, v'.disk t.cluster.val = storeEntry request v.disk c k t.cluster.val)
    (free : ∀ e : Fin 512, 2 ≤ e.val → v'.fat e = fatEmptyEntry → v'.disk e.val = v.disk e.val) :
    Recorded tables (entries ++ [⟨request, k, c⟩]) v' := by
  have index : ∀ p : Fin 512, request.parentClusterNumber = num p →
      request.parentClusterNumber.toNat = p.val := fun p parent => by rw [parent, toNat_num]
  have directory : ∀ t ∈ tables, t.cluster ∈ tables.map MadeTable.cluster := fun t member =>
    List.mem_map_of_mem member
  constructor
  · exact keeps.grounded recorded.grounded
  · intro e above freed
    have before : v.fat e = fatEmptyEntry := by
      by_contra used
      exact used ((keeps.used e used).symm.trans freed)
    rw [free e above freed]
    exact recorded.blank e above before
  · intro t member
    rw [keeps.tables t.cluster (directory t member) 0 (.inl rfl)]
    exact recorded.headers t member
  · intro e member p parent
    rcases List.mem_append.mp member with old | new
    · have used := recorded.parents e old p parent
      rwa [keeps.used p used]
    · rw [List.mem_singleton.mp new] at parent
      have used := recorded.parent_used accepts (index p parent)
      rwa [keeps.used p used]
  · intro t member e entry parent
    rcases List.mem_append.mp entry with old | new
    · obtain ⟨above, live, cluster⟩ := recorded.children t member e old parent
      rw [keeps.tables t.cluster (directory t member) e.slot (.inr live)]
      exact ⟨above, live, cluster⟩
    · rw [List.mem_singleton.mp new] at parent ⊢
      simp only
      rw [image t member, storeEntry_slot, if_pos ⟨index _ parent, rfl⟩]
      exact ⟨slot.spec.1, writeEntry_live _ _ _ _, entryCluster_writeEntry _ _ _ _⟩
  · intro t member i above live
    rw [image t member, storeEntry_slot] at live
    split at live
    · rename_i new
      refine ⟨⟨request, k, c⟩, List.mem_append_right _ (List.mem_singleton_self _), ?_, new.2.symm⟩
      exact UInt32.toNat_inj.mp (by rw [toNat_num, new.1])
    · obtain ⟨e, old, parent, same⟩ := recorded.entered t member i above live
      exact ⟨e, List.mem_append_left _ old, parent, same⟩

/-- A table whose other slots are blank joins the journal. -/
theorem Recorded.addTable (recorded : Recorded tables entries v) {parent : UInt32} (above : 2 ≤ c.val)
    (used : v.fat c ≠ fatEmptyEntry) (header : HeaderFrom parent (tableOf (v.disk c.val) 0))
    (bounds : 2 ≤ parent.toNat ∧ parent.toNat ≤ 512)
    (apart : ∀ e ∈ entries, e.request.parentClusterNumber ≠ num c)
    (dead : ∀ i : Fin 64, 1 ≤ i.val → ¬ Live (tableOf (v.disk c.val) i)) :
    Recorded (tables ++ [⟨c, parent⟩]) entries v := by
  constructor
  · rw [List.map_append, List.map_singleton]
    exact recorded.grounded.append above used
  · exact recorded.blank
  · intro t member
    rcases List.mem_append.mp member with old | new
    · exact recorded.headers t old
    · rw [List.mem_singleton.mp new]
      exact ⟨header, bounds⟩
  · exact recorded.parents
  · intro t member e entry child
    rcases List.mem_append.mp member with old | new
    · exact recorded.children t old e entry child
    · rw [List.mem_singleton.mp new] at child
      exact absurd child (apart e entry)
  · intro t member i behind live
    rcases List.mem_append.mp member with old | new
    · exact recorded.entered t old i behind live
    · rw [List.mem_singleton.mp new] at live
      exact absurd live (dead i behind)

/-- A cluster the write leaves free was free before, and is not the parent's. -/
theorem Recorded.freed (recorded : Recorded tables entries v)
    (accepts : Accepts v.disk request.parentClusterNumber)
    (keeps : Keeps (tables.map MadeTable.cluster) v v') {e : Fin 512}
    (freed : v'.fat e = fatEmptyEntry) : e.val ≠ request.parentClusterNumber.toNat := by
  intro parent
  have used := recorded.parent_used accepts parent.symm
  exact used ((keeps.used e used).symm.trans freed)

theorem recorded_makeFolder (recorded : Recorded tables entries v)
    (accepts : Accepts v.disk request.parentClusterNumber)
    (absent : isExist request (parentTable v.disk request.parentClusterNumber) = 0)
    (first : FirstFree v.fat c)
    (slot : FirstSlot (parentTable v.disk request.parentClusterNumber) k)
    (folder : request.bufferSize = 0) :
    Recorded (tables ++ [⟨c, request.parentClusterNumber⟩]) (entries ++ [⟨request, k, c⟩])
      (Volume.makeFolder request c ⟨v.fat, storeEntry request v.disk c k⟩) := by
  obtain ⟨above, free, -⟩ := first.spec
  have parent := accepts.1
  have keeps := keeps_write recorded.grounded (.folder accepts absent first slot folder)
  have apart : c.val ≠ request.parentClusterNumber.toNat := fun same =>
    recorded.parent_used accepts same.symm free
  have taken := makeFolder_marked request c ⟨v.fat, storeEntry request v.disk c k⟩
  -- the new cluster was blank, so its table is the header alone
  have own := makeFolder_own request above ⟨v.fat, storeEntry request v.disk c k⟩
  have blank := recorded.blank c above free
  simp only [storeEntry_of_ne apart, blank] at own
  have entered := recorded.enter (c := c) accepts slot keeps
    (fun t member => makeFolder_directory recorded.grounded first (List.mem_map_of_mem member))
    fun e low freed => ?_
  · refine entered.addTable above ?_ ?_ ⟨accepts.1, accepts.2.1⟩ (fun e member => ?_)
      fun i behind => ?_
    · rw [taken]
      decide
    · rw [own]
      exact headerFrom_init _ _ _
    · rcases List.mem_append.mp member with old | new
      · exact fun child => recorded.parents e old c child free
      · rw [List.mem_singleton.mp new]
        intro child
        exact apart (by rw [child, toNat_num])
    · rw [own, initDirectoryTable_of_ne (ne_zero_of_one_le behind)]
      exact blank_dead i
  · have away := recorded.freed accepts keeps freed
    have other : e.val ≠ c.val := by
      intro same
      rw [Fin.ext same, taken] at freed
      exact absurd freed (by decide)
    simp only [Volume.makeFolder]
    rw [Function.update_of_ne (by omega), Function.update_of_ne other, storeEntry_of_ne away]

theorem recorded_makeFile (recorded : Recorded tables entries v)
    (accepts : Accepts v.disk request.parentClusterNumber)
    (absent : isExist request (parentTable v.disk request.parentClusterNumber) = 0)
    (first : FirstFree v.fat c)
    (slot : FirstSlot (parentTable v.disk request.parentClusterNumber) k)
    (size : request.bufferSize ≠ 0)
    (success : (Volume.makeFile request c 0 request.bufferSize
      (storeEntry request v.disk c k)).1 = 0) :
    Recorded tables (entries ++ [⟨request, k, c⟩])
      (Volume.makeFile request c 0 request.bufferSize (storeEntry request v.disk c k)).2 := by
  have keeps := keeps_write recorded.grounded (.file accepts absent first slot size)
  obtain ⟨-, chained⟩ := makeFile_complete size success
  refine recorded.enter accepts slot keeps
    (fun t member => makeFile_directory recorded.grounded accepts first (List.mem_map_of_mem member))
    fun e low freed => ?_
  have away := recorded.freed accepts keeps freed
  obtain ⟨-, -, untouched, -⟩ := makeFile_spec request first.spec.1 0 request.bufferSize
    (storeEntry request v.disk c k)
  rw [untouched e.val (by omega) fun x member same => ?_, storeEntry_of_ne away]
  -- a complete chain has no free cluster
  rw [Fin.ext same] at member
  exact chain_used chained member (fatLink_free_iff.mpr freed)

/-- **One successful write keeps the journal true.** -/
theorem recorded_write {code : Int} (recorded : Recorded tables entries v)
    (outcome : WriteOutcome request v code v') (success : code = 0) :
    let c := findEmptyCluster v.fat
    let k := findEmptyEntry (parentTable v.disk request.parentClusterNumber)
    Recorded (if request.bufferSize = 0 then tables ++ [⟨c, request.parentClusterNumber⟩] else tables)
      (entries ++ [⟨request, k, c⟩]) v' := by
  cases outcome with
  | invalidParent => exact absurd success (by decide)
  | taken => exact absurd success (by decide)
  | full => exact absurd success (by decide)
  | folder accepts absent first slot folder =>
      simp only [first.find, slot.find, if_pos folder]
      exact recorded_makeFolder recorded accepts absent first slot folder
  | file accepts absent first slot size =>
      simp only [first.find, slot.find, if_neg size]
      exact recorded_makeFile recorded accepts absent first slot size success

end

/-! ### Runs -/

def Journal.Faithful (j : Journal) : Prop := Recorded j.tables j.entries j.driver.volume

theorem recorded_fresh :
    Recorded [⟨2, rootClusterNumber⟩] [] ⟨freshFat, freshDisk blankDisk⟩ := by
  have grounded := grounded_fresh blankDisk
  have table : tableOf (freshDisk blankDisk (2 : Fin 512).val) = rootTable := freshDisk_root blankDisk
  constructor
  · exact grounded
  · intro c above free
    have other : 3 ≤ c.val := by
      by_contra small
      obtain rfl : c = 2 := Fin.ext (by change c.val = 2; omega)
      exact root_used grounded.root free
    exact freshDisk_of_above blankDisk other
  · intro t member
    rw [List.mem_singleton.mp member, table]
    exact ⟨headerFrom_init _ _ _, by decide, by decide⟩
  · intro e member
    cases member
  · intro t _ e member
    cases member
  · intro t member i behind live
    rw [List.mem_singleton.mp member, table, rootTable_of_ne (ne_zero_of_one_le behind)] at live
    exact absurd live (by decide)

theorem faithful_opened : (opened blankDisk).Faithful := by
  rw [Journal.Faithful, opened, volume_booted blankDisk_unformatted]
  exact recorded_fresh

theorem journalStep_ok {fuel : Nat} {j u : Journal} {call : Call} {reply : Reply}
    (taken : journalStep fuel j call = .ok (reply, u)) :
    ∃ d, step fuel j.driver call = .ok (reply, d) ∧ u = j.advance call reply.code d := by
  unfold journalStep at taken
  split at taken
  · cases taken
  · rename_i reply' d result
    simp only [Except.ok.injEq, Prod.mk.injEq] at taken
    obtain ⟨rfl, rfl⟩ := taken
    exact ⟨d, result, rfl⟩

theorem record_success {j : Journal} {request : FAT32DriverRequest} {code : Int} {d : Driver}
    (success : code = 0) :
    j.record request code d = ⟨d,
      if request.bufferSize = 0 then
        j.tables ++ [⟨findEmptyCluster j.driver.fatTable, request.parentClusterNumber⟩]
      else j.tables,
      j.entries ++ [⟨request,
        findEmptyEntry (parentTable j.driver.disk request.parentClusterNumber),
        findEmptyCluster j.driver.fatTable⟩]⟩ := by
  rw [Journal.record]
  split
  · exact absurd success ‹_›
  · split <;> rfl

theorem faithful_step {fuel : Nat} {j u : Journal} {call : Call} {reply : Reply}
    (faithful : j.Faithful) (succeeds : Succeeds j call)
    (taken : journalStep fuel j call = .ok (reply, u)) : u.Faithful := by
  obtain ⟨d, stepped, rfl⟩ := journalStep_ok taken
  have outcome := step_outcome stepped
  have unchanged : d.volume = j.driver.volume → Journal.Faithful { j with driver := d } := by
    intro volume
    rw [Journal.Faithful, volume]
    exact faithful
  cases call with
  | write request =>
      have success : reply.code = 0 := by
        rw [step] at stepped
        simp only [Except.ok.injEq, Prod.mk.injEq] at stepped
        rw [← stepped.1]
        exact succeeds
      cases outcome with
      | write outcome =>
          have recorded := recorded_write faithful outcome success
          rw [Journal.Faithful, Journal.advance, record_success success]
          exact recorded
  | delete => exact absurd succeeds not_false
  | _ =>
      exact unchanged (outcome.unchanged faithful.grounded.signed faithful.grounded.synced
        (fun _ => Call.noConfusion) fun _ _ => Call.noConfusion)

theorem faithful_run {fuel : Nat} {calls : List Call} {replies : List Reply} {j : Journal}
    (succeed : Guarded (journalStep fuel) Succeeds (opened blankDisk) calls)
    (done : run (journalStep fuel) (opened blankDisk) calls = .ok (replies, j)) : j.Faithful :=
  run_guarded (fun _ _ _ _ faithful succeeds taken => faithful_step faithful succeeds taken)
    faithful_opened succeed done

/-! ### Decoding in every reachable state -/

section

variable {j : Journal} {t : MadeTable} {i : Fin 64}

theorem Journal.Faithful.exists_expected (faithful : j.Faithful) (member : t ∈ j.tables)
    (used : i = 0 ∨ Live (j.entry t i)) : ∃ x, Expected j t i x := by
  by_cases header : i = 0
  · rw [header]
    exact ⟨t.parent, .parent⟩
  · have live := used.resolve_left header
    have behind : 1 ≤ i.val := Nat.one_le_iff_ne_zero.mpr (Fin.val_ne_of_ne header)
    obtain ⟨e, entry, parent, rfl⟩ := faithful.entered t member i behind live
    exact ⟨num e.first, .child entry parent⟩

/-- The slots of children decode to what they should, slot 0 does not. -/
theorem Journal.Faithful.decodes_iff (faithful : j.Faithful) (member : t ∈ j.tables) {x : UInt32}
    (expected : Expected j t i x) : Decodes (j.entry t i) x ↔ i ≠ 0 := by
  cases expected with
  | parent =>
      obtain ⟨header, above, below⟩ := faithful.headers t member
      exact ⟨fun decodes => absurd decodes (header.swapped above below), fun other => absurd rfl other⟩
  | @child e entry parent =>
      obtain ⟨behind, -, cluster⟩ := faithful.children t member e entry parent
      refine ⟨fun _ zero => ?_, fun _ => decodes_of_cluster cluster⟩
      rw [zero] at behind
      exact absurd behind (by decide)

end

/-- A write that succeeds, as a step of the journal. -/
theorem journalStep_write (fuel : Nat) {j : Journal} {request : FAT32DriverRequest}
    (success : (write request j.driver).1 = 0) :
    ∃ u, journalStep fuel j (.write request) = .ok (.status 0, u) ∧
      u.driver = (write request j.driver).2 := by
  have written : step fuel j.driver (.write request) =
      .ok (.status 0, (write request j.driver).2) := by
    rw [step, success]
  refine ⟨j.record request 0 (write request j.driver).2, ?_, ?_⟩
  · rw [journalStep, written]
    rfl
  · simp only [Journal.record, ne_eq, not_true_eq_false, if_false]
    split <;> rfl

/-- **Decoding.** The number `init_directory_table` is given comes back only when
its halves are equal; and in every table that successful writes leave on a fresh
disk, a used slot decodes to its cluster exactly when it is not slot 0. -/
theorem decoding_iff_behind {fuel : Nat} {calls : List Call} {replies : List Reply} {j : Journal}
    (succeed : Guarded (journalStep fuel) Succeeds (opened blankDisk) calls)
    (done : run (journalStep fuel) (opened blankDisk) calls = .ok (replies, j)) :
    (∀ (table : FAT32DirectoryTable) (name : Bytes 8) (parent : UInt32),
      entryCluster (initDirectoryTable table name parent 0) = parent ↔
        parent >>> 16 = parent &&& 0xFFFF) ∧
    ∀ t ∈ j.tables, ∀ i : Fin 64, i = 0 ∨ Live (j.entry t i) →
      (∃ x, Expected j t i x) ∧ ∀ x, Expected j t i x → (Decodes (j.entry t i) x ↔ i ≠ 0) := by
  have faithful := faithful_run succeed done
  refine ⟨fun table name parent => (headerFrom_init table name parent).decodes_iff,
    fun t member i used => ⟨faithful.exists_expected member used, fun x expected => ?_⟩⟩
  exact faithful.decodes_iff member expected

/-- `note` has room behind the folder `docs`. -/
theorem note_behind_docs : (write note (write docs (booted blankDisk)).2).1 = 0 := by
  have two : note.parentClusterNumber.toNat = 2 := rfl
  have size : note.bufferSize ≠ 0 := by decide
  have one : chunksNeeded note.bufferSize = 1 := by decide
  have table := @booted_write_table blankDisk blankDisk_unformatted docs rfl (by decide)
  have empty : (write docs (booted blankDisk)).2.fatTable 4 = fatEmptyEntry :=
    (@booted_write_fat blankDisk blankDisk_unformatted docs rfl (by decide) (by decide) 4
      (by decide)).trans (freshFat_of_above (by decide))
  have housed := housed_record (housed_formatted blankDisk_unformatted)
    (write_outcome docs (formatted blankDisk).driver)
  have root : (2 : Fin 512) ∈ ((formatted blankDisk).record docs
      (write docs (formatted blankDisk).driver).1
      (write docs (formatted blankDisk).driver).2).directories := by
    rw [record_directories]
    split
    · exact List.mem_append_left _ (List.mem_singleton_self _)
    · exact List.mem_singleton_self _
  have accepts := housed.accepts root
  have used := housed.grounded.used 2 root
  have synced := housed.grounded.synced
  rw [record_driver, formatted_driver] at accepts used synced
  generalize (write docs (booted blankDisk)).2 = d at table empty accepts used synced ⊢
  have absent : ∀ i, carries note (parentTable d.disk note.parentClusterNumber i) = false := by
    intro i
    rw [parentTable, two, table]
    by_cases entry : i = 1
    · rw [entry]
      decide
    · rw [writeEntry_of_ne entry]
      by_cases header : i = 0
      · rw [header]
        decide
      · rw [rootTable_of_ne header]
        decide
  have spec := @fileWriteSpec_of_used note _ synced accepts (fun e here => ?_) size
    (isExist_of_absent size absent)
  · refine spec.succeeds.mpr ⟨⟨2, by decide, ?_⟩, ?_⟩
    · rw [parentTable, two, table, writeEntry_of_ne (by decide), rootTable_of_ne (by decide)]
      decide
    · rw [one]
      exact List.length_pos_of_mem (mem_freeClusters.mpr ⟨by decide, empty⟩)
  · obtain rfl : e = 2 := Fin.ext here
    exact used.2

/-- A folder and a file behind it. -/
theorem decoding_note : ∃ j : Journal,
    run (journalStep 1) (opened blankDisk) [.write docs, .write note] =
        .ok ([.status 0, .status 0], j) ∧
      (∀ (table : FAT32DirectoryTable) (name : Bytes 8) (parent : UInt32),
        entryCluster (initDirectoryTable table name parent 0) = parent ↔
          parent >>> 16 = parent &&& 0xFFFF) ∧
      ∀ t ∈ j.tables, ∀ i : Fin 64, i = 0 ∨ Live (j.entry t i) →
        (∃ x, Expected j t i x) ∧ ∀ x, Expected j t i x → (Decodes (j.entry t i) x ↔ i ≠ 0) := by
  have folder : (write docs (opened blankDisk).driver).1 = 0 := by
    rw [opened_driver]
    exact booted_write_small blankDisk_unformatted rfl (by decide) (by decide)
  obtain ⟨u, first, driver⟩ := journalStep_write 1 folder
  rw [opened_driver] at driver
  have file : (write note u.driver).1 = 0 := by
    rw [driver]
    exact note_behind_docs
  obtain ⟨j, second, -⟩ := journalStep_write 1 file
  have done : run (journalStep 1) (opened blankDisk) [.write docs, .write note] =
      .ok ([.status 0, .status 0], j) := by
    simp only [run, first, second]
  have succeed : Guarded (journalStep 1) Succeeds (opened blankDisk) [.write docs, .write note] := by
    refine fun reply v taken => ⟨folder, fun _ _ _ => ⟨?_, trivial⟩⟩
    rw [first] at taken
    obtain ⟨-, rfl⟩ := Prod.mk.inj (Except.ok.inj taken)
    exact file
  exact ⟨j, done, decoding_iff_behind succeed done⟩

/-- Slot 0 of the root gives cluster 0x20000 to `delete` and 0 to the reads: its
parent is 2. -/
theorem decoding_counterexample : ∃ t ∈ (opened blankDisk).tables,
    t.parent = 2 ∧ entryCluster ((opened blankDisk).entry t 0) = 0x20000 ∧
      ((opened blankDisk).entry t 0).clusterLow = 0 ∧
      ¬ Decodes ((opened blankDisk).entry t 0) t.parent := by
  have table : tableOf ((booted blankDisk).disk (2 : Fin 512).val) = rootTable := by
    rw [(booted_volume blankDisk_unformatted).2]
    exact freshDisk_root blankDisk
  refine ⟨⟨2, rootClusterNumber⟩, List.mem_singleton_self _, rfl, ?_⟩
  rw [Journal.entry, opened, table]
  decide

end HexOS.Fat32
