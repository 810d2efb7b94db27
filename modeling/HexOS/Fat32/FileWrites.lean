import HexOS.Fat32.RoundTrip
import HexOS.Fat32.Reboot

/-!
What a write of a file does, exactly.

`FileWriteSpec` says when the write succeeds and what it then leaves: the free
clusters with the lowest numbers, as many as the file needs, linked in order and
holding its bytes, one new entry in the lowest free slot, and nothing else. It
holds wherever the two FATs agree and the parent is a used cluster that passes
the check (`fileWriteSpec_of_used`); and every directory made by a successful
write stays such a cluster, whatever parents other writes are given
(`Housed`).
-/

namespace HexOS.Fat32

open BoundedScan LinkTable PartialRuns

/-! ### The specification -/

/-- The entry of a file whose first cluster is `first`. -/
structure FileEntry (request : FAT32DriverRequest) (first : Fin 512) (e : FAT32DirectoryEntry) :
    Prop where
  name : e.name = request.name
  ext : e.ext = request.ext
  kind : e.attribute = 0
  live : e.userAttribute = uattrNotEmpty
  filesize : e.filesize = request.bufferSize
  cluster : entryCluster e = num first

/-- From volume `v` to `v'` the file is stored along `chain`, its entry in slot
`k`, and nothing else changes. -/
structure FileStored (request : FAT32DriverRequest) (k : Fin 64) (chain : List (Fin 512))
    (v v' : Volume) : Prop where
  slotFree : 1 ≤ k.val ∧ ¬ Live (parentTable v.disk request.parentClusterNumber k)
  slotLowest : ∀ i < k, 1 ≤ i.val → Live (parentTable v.disk request.parentClusterNumber i)
  flushed : fatOf (v'.disk 1) = v'.fat
  links : ∀ (i : Nat) (hi : i + 1 < chain.length), v'.fat chain[i] = num chain[i + 1]
  last : ∀ nonempty : chain ≠ [], v'.fat (chain.getLast nonempty) = fatEndOfFile
  entries : ∀ e ∉ chain, v'.fat e = v.fat e
  data : ∀ (i : Nat) (hi : i < chain.length) (b : Fin 2048),
    v'.disk chain[i].val b = request.buf (i * 2048 + b.val)
  entry : ∃ first rest, chain = first :: rest ∧
    FileEntry request first (parentTable v'.disk request.parentClusterNumber k)
  slots : ∀ i ≠ k, parentTable v'.disk request.parentClusterNumber i =
    parentTable v.disk request.parentClusterNumber i
  clusters : ∀ x, x ≠ 1 → x ≠ request.parentClusterNumber.toNat → (∀ c ∈ chain, c.val ≠ x) →
    v'.disk x = v.disk x

/-- A write of a file succeeds exactly when there is a free slot and room for
it, and then takes the free clusters with the lowest numbers. -/
structure FileWriteSpec (request : FAT32DriverRequest) (d : Driver) : Prop where
  succeeds : (write request d).1 = 0 ↔
    (∃ k : Fin 64, 1 ≤ k.val ∧ ¬ Live (parentTable d.disk request.parentClusterNumber k)) ∧
      chunksNeeded request.bufferSize ≤ (freeClusters d.fatTable 2).length
  stores : (write request d).1 = 0 → ∃ k, FileStored request k
    ((freeClusters d.fatTable 2).take (chunksNeeded request.bufferSize)) d.volume
    (write request d).2.volume

/-! ### One write -/

theorem makeFile_code_iff {request : FAT32DriverRequest} {c : Fin 512} {n : Nat} {size : UInt32}
    {disk : Disk} :
    (Volume.makeFile request c n size disk).1 = 0 ↔ fileFits (fatOf (disk 1)) c size = true := by
  unfold Volume.makeFile
  simp only
  split
  · rename_i fits
    exact ⟨fun _ => fits, fun _ => rfl⟩
  · rename_i short
    exact ⟨fun failed => absurd failed (by decide), fun fits => absurd fits short⟩

theorem fileEntry_writeEntry {request : FAT32DriverRequest} (size : request.bufferSize ≠ 0)
    (table : FAT32DirectoryTable) (c : Fin 512) (k : Fin 64) :
    FileEntry request c (writeEntry request table (num c) k k) := by
  have cluster := entryCluster_writeEntry request table c k
  obtain ⟨live, name, ext, filesize⟩ := writeEntry_file size table c k
  refine ⟨name, ext, ?_, live, filesize, cluster⟩
  rw [writeEntry, Function.update_self, if_neg size]

theorem fileStored_makeFile {request : FAT32DriverRequest} {v : Volume} {c : Fin 512} {k : Fin 64}
    (synced : v.fat = fatOf (v.disk 1)) (accepts : Accepts v.disk request.parentClusterNumber)
    (used : ∀ e : Fin 512, e.val = request.parentClusterNumber.toNat → v.fat e ≠ fatEmptyEntry)
    (size : request.bufferSize ≠ 0) (first : FirstFree v.fat c)
    (slot : FirstSlot (parentTable v.disk request.parentClusterNumber) k)
    (fits : fileFits v.fat c request.bufferSize = true) :
    FileStored request k ((freeClusters v.fat 2).take (chunksNeeded request.bufferSize)) v
      (Volume.makeFile request c 0 request.bufferSize (storeEntry request v.disk c k)).2 := by
  obtain ⟨slotAbove, slotFree, slotLowest⟩ := slot.spec
  obtain ⟨above, free, -⟩ := first.spec
  have parent := accepts.1
  have fat : fatOf (storeEntry request v.disk c k 1) = v.fat := by rw [storeEntry_fat accepts, synced]
  obtain ⟨flushed, entries, clusters, data⟩ := makeFile_spec request above 0 request.bufferSize
    (storeEntry request v.disk c k)
  rw [fat] at entries clusters data
  have linked : (Volume.makeFile request c 0 request.bufferSize
      (storeEntry request v.disk c k)).2.fat =
      linkChain v.fat (fileChain v.fat c request.bufferSize) true := by
    simp only [Volume.makeFile, fat, fits]
  obtain ⟨rest, head⟩ := fileChain_head v.fat c (chunksNeeded_pos size)
  -- the parent is used, so it is not overwritten by the file
  have table : parentTable (Volume.makeFile request c 0 request.bufferSize
      (storeEntry request v.disk c k)).2.disk request.parentClusterNumber =
      writeEntry request (parentTable v.disk request.parentClusterNumber) (num c) k := by
    have apart : ∀ e ∈ fileChain v.fat c request.bufferSize,
        e.val ≠ request.parentClusterNumber.toNat :=
      fun e member same => used e same (fileChain_free free member)
    rw [parentTable, clusters _ (by omega) apart, storeEntry_parent]
  rw [← fileChain_eq_take first]
  refine ⟨⟨slotAbove, slotFree⟩, slotLowest, flushed.symm, fun i hi => ?_, fun nonempty => ?_, entries,
    fun i hi b => ?_, ⟨c, rest, head, ?_⟩, fun i other => ?_, fun x notFat notParent outside => ?_⟩
  · rw [linked]
    exact linkChain_getElem (fileChain_nodup _ _ _) _ _ hi
  · rw [linked]
    exact linkChain_getLast nonempty _
  · rw [data i hi, chunk, Nat.zero_add]
  · rw [table]
    exact fileEntry_writeEntry size _ c k
  · rw [table, writeEntry_of_ne other]
  · rw [clusters x notFat outside, storeEntry_of_ne notParent]

/-- **A write of a file below a used parent meets its specification.** -/
theorem fileWriteSpec_of_used {request : FAT32DriverRequest} {d : Driver} (synced : Synced d)
    (accepts : Accepts d.disk request.parentClusterNumber)
    (used : ∀ e : Fin 512, e.val = request.parentClusterNumber.toNat →
      d.fatTable e ≠ fatEmptyEntry)
    (size : request.bufferSize ≠ 0)
    (absent : isExist request (parentTable d.disk request.parentClusterNumber) = 0) :
    FileWriteSpec request d := by
  have outcome := write_outcome request d
  have positive := chunksNeeded_pos size
  suffices spec : ((write request d).1 = 0 ↔
      (∃ k : Fin 64, 1 ≤ k.val ∧ ¬ Live (parentTable d.disk request.parentClusterNumber k)) ∧
        chunksNeeded request.bufferSize ≤ (freeClusters d.fatTable 2).length) ∧
      ((write request d).1 = 0 → ∃ k, FileStored request k
        ((freeClusters d.fatTable 2).take (chunksNeeded request.bufferSize)) d.volume
        (write request d).2.volume) from ⟨spec.1, spec.2⟩
  generalize (write request d).1 = code at outcome ⊢
  generalize (write request d).2.volume = v' at outcome ⊢
  cases outcome with
  | invalidParent rejected => exact absurd accepts rejected
  | taken _ exist => exact absurd absent exist
  | full _ _ none =>
      refine ⟨⟨fun failed => absurd failed (by decide), ?_⟩, fun failed => absurd failed (by decide)⟩
      rintro ⟨⟨k, above, free⟩, room⟩
      rcases none with noCluster | noSlot
      · have empty : freeClusters d.fatTable 2 = [] := freeClusters_eq_nil_iff.mpr noCluster
        rw [empty, List.length_nil] at room
        omega
      · exact absurd (exists_firstSlot above free) noSlot
  | folder _ _ _ _ folder => exact absurd folder size
  | @file c k _ _ first slot =>
      have fat : fatOf (storeEntry request d.disk c k 1) = d.fatTable :=
        (storeEntry_fat accepts).trans synced.symm
      have room : (Volume.makeFile request c 0 request.bufferSize
          (storeEntry request d.volume.disk c k)).1 = 0 ↔
          chunksNeeded request.bufferSize ≤ (freeClusters d.fatTable 2).length := by
        rw [makeFile_code_iff, Driver.volume, fat]
        exact fileFits_iff first _
      obtain ⟨slotAbove, slotFree, -⟩ := slot.spec
      refine ⟨⟨fun success => ⟨⟨k, slotAbove, slotFree⟩, room.mp success⟩, fun h => room.mpr h.2⟩,
        fun success => ⟨k, ?_⟩⟩
      have fits : fileFits d.fatTable c request.bufferSize = true :=
        (fileFits_iff first _).mpr (room.mp success)
      exact @fileStored_makeFile request d.volume c k synced accepts used size first slot fits

/-! ### Directories stay directories -/

/-- What a write leaves alone, whatever its parent: the used entries of the FAT,
and in every directory slot 0 and the live slots. -/
structure Keeps (directories : List (Fin 512)) (v v' : Volume) : Prop where
  synced : v'.fat = fatOf (v'.disk 1)
  boot : v'.disk 0 = v.disk 0
  used : ∀ e, v.fat e ≠ fatEmptyEntry → v'.fat e = v.fat e
  tables : ∀ p ∈ directories, ∀ i, i = 0 ∨ Live (tableOf (v.disk p.val) i) →
    tableOf (v'.disk p.val) i = tableOf (v.disk p.val) i

theorem Keeps.refl {directories : List (Fin 512)} {v : Volume} (synced : v.fat = fatOf (v.disk 1)) :
    Keeps directories v v :=
  ⟨synced, rfl, fun _ _ => rfl, fun _ _ _ _ => rfl⟩

theorem Keeps.grounded {directories : List (Fin 512)} {v v' : Volume}
    (grounded : Grounded directories v) (keeps : Keeps directories v v') :
    Grounded directories v' := by
  refine ⟨signed_congr keeps.boot grounded.signed, keeps.synced, ?_, fun p member => ?_⟩
  · exact (keeps.used 2 (root_used grounded.root)).trans grounded.root
  · obtain ⟨above, used⟩ := grounded.used p member
    exact ⟨above, by rwa [keeps.used p used]⟩

theorem keeps_write {directories : List (Fin 512)} {request : FAT32DriverRequest} {v v' : Volume}
    {code : Int} (grounded : Grounded directories v) (outcome : WriteOutcome request v code v') :
    Keeps directories v v' := by
  cases outcome with
  | invalidParent => exact .refl grounded.synced
  | taken => exact .refl grounded.synced
  | full => exact .refl grounded.synced
  | @folder c k accepts _ first slot =>
      have parent := accepts.1
      obtain ⟨above, free, -⟩ := first.spec
      refine ⟨?_, ?_, fun e used => ?_, fun p member i kept => ?_⟩
      · simp [Volume.makeFolder]
      · simp only [Volume.makeFolder]
        rw [Function.update_of_ne (by omega), Function.update_of_ne (by omega),
          storeEntry_of_ne (by omega)]
      · have other : e ≠ c := fun same => used (same ▸ free)
        exact Function.update_of_ne other _ _
      · rw [makeFolder_directory grounded first member]
        exact storeEntry_keeps slot kept
  | @file c k accepts _ first slot =>
      have parent := accepts.1
      obtain ⟨above, free, -⟩ := first.spec
      obtain ⟨synced, others, untouched, -⟩ := makeFile_spec request above 0 request.bufferSize
        (storeEntry request v.disk c k)
      rw [storeEntry_fat accepts, ← grounded.synced] at others
      refine ⟨synced, ?_, fun e used => ?_, fun p member i kept => ?_⟩
      · rw [untouched 0 (by omega) fun e member => ?_, storeEntry_of_ne (by omega)]
        have := Fin.le_def.mp (fileChain_above member)
        omega
      · exact others e fun member => used (fileChain_free free member)
      · rw [makeFile_directory grounded accepts first member]
        exact storeEntry_keeps slot kept

/-- The directories of a session are used clusters that look like directories. -/
structure Housed (s : Session) : Prop where
  grounded : Grounded s.directories s.driver.volume
  headers : ∀ p ∈ s.directories, LooksLikeDirectory (tableOf (s.driver.disk p.val))

theorem Housed.accepts {s : Session} (housed : Housed s) {p : Fin 512} (member : p ∈ s.directories) :
    Accepts s.driver.disk (num p) := by
  have below := p.isLt
  have above := (housed.grounded.used p member).1
  refine ⟨by rw [toNat_num]; omega, by rw [toNat_num]; omega, ?_⟩
  rw [toNat_num]
  exact housed.headers p member

theorem housed_formatted {disk : Disk} (unformatted : Unformatted disk) : Housed (formatted disk) := by
  have readable := readable_formatted unformatted
  exact ⟨readable.sound.grounded, fun p member =>
    ⟨(readable.headers p member).live, (readable.headers p member).filesize⟩⟩

/-- The clusters of directories that stay directories. -/
theorem Keeps.headers {directories : List (Fin 512)} {v v' : Volume}
    (keeps : Keeps directories v v')
    (headers : ∀ p ∈ directories, LooksLikeDirectory (tableOf (v.disk p.val))) :
    ∀ p ∈ directories, LooksLikeDirectory (tableOf (v'.disk p.val)) := by
  intro p member
  rw [LooksLikeDirectory, keeps.tables p member 0 (.inl rfl)]
  exact headers p member

theorem housed_record {s : Session} {request : FAT32DriverRequest} {code : Int} {d : Driver}
    (housed : Housed s) (outcome : WriteOutcome request s.driver.volume code d.volume) :
    Housed (s.record request code d) := by
  have keeps := keeps_write housed.grounded outcome
  have ground := keeps.grounded housed.grounded
  have headers := keeps.headers housed.headers
  suffices stays : Grounded (s.record request code d).directories d.volume ∧
      ∀ p ∈ (s.record request code d).directories,
        LooksLikeDirectory (tableOf (d.volume.disk p.val)) by
    refine ⟨?_, ?_⟩
    · rw [record_driver]
      exact stays.1
    · rw [record_driver]
      exact stays.2
  rw [record_directories]
  split
  · rename_i created
    obtain ⟨success, folder⟩ := created
    generalize d.volume = v' at outcome ground headers ⊢
    cases outcome with
    | invalidParent => exact absurd success (by decide)
    | taken => exact absurd success (by decide)
    | full => exact absurd success (by decide)
    | file _ _ _ _ size => exact absurd folder size
    | @folder c k accepts _ first =>
        have found : findEmptyCluster s.driver.fatTable = c := first.find
        obtain ⟨above, -, -⟩ := first.spec
        rw [found]
        refine ⟨ground.append above ?_, fun p member => ?_⟩
        · rw [makeFolder_marked]
          decide
        · rcases List.mem_append.mp member with old | new
          · exact headers p old
          · rw [List.mem_singleton.mp new]
            rw [makeFolder_own request above]
            exact initDirectoryTable_header _ _ _
  · exact ⟨ground, headers⟩

/-- Any call but a delete. -/
def Call.NoDelete : Call → Prop
  | .delete _ _ => False
  | _ => True

theorem housed_step {fuel : Nat} {s t : Session} {call : Call} {reply : Reply} (housed : Housed s)
    (allowed : call.NoDelete) (taken : sessionStep fuel s call = .ok (reply, t)) : Housed t := by
  obtain ⟨d, stepped, rfl⟩ := sessionStep_ok taken
  have outcome := step_outcome stepped
  have unchanged : d.volume = s.driver.volume → Housed { s with driver := d } := by
    intro volume
    have image : d.disk = s.driver.disk := congrArg Volume.disk volume
    refine ⟨by rw [volume]; exact housed.grounded, ?_⟩
    simp only [image]
    exact housed.headers
  cases call with
  | write request =>
      cases outcome with
      | write outcome => exact housed_record housed outcome
  | delete => exact absurd allowed not_false
  | _ =>
      exact unchanged (outcome.unchanged housed.grounded.signed housed.grounded.synced
        (fun _ => Call.noConfusion) fun _ _ => Call.noConfusion)

theorem housed_run {fuel : Nat} {disk : Disk} (unformatted : Unformatted disk) {calls : List Call}
    (writes : ∀ call ∈ calls, call.NoDelete) {replies : List Reply} {s : Session}
    (done : run (sessionStep fuel) (formatted disk) calls = .ok (replies, s)) : Housed s :=
  run_guarded (G := fun _ call => call.NoDelete)
    (fun _ _ _ _ housed allowed taken => housed_step housed allowed taken)
    (housed_formatted unformatted) (guarded_of_forall writes) done

/-! ### Writing files -/

theorem isExist_of_absent {request : FAT32DriverRequest} {table : FAT32DirectoryTable}
    (size : request.bufferSize ≠ 0) (absent : ∀ i, carries request (table i) = false) :
    isExist request table = 0 :=
  isExist_eq_zero_iff.mpr (.inr fun i => (existMatch_file size (table i)).trans (absent i))

/-- **Writing a file.** In every state that calls other than delete reach from a
formatted disk, below every live directory. -/
theorem file_write_spec {fuel : Nat} {disk : Disk} (unformatted : Unformatted disk)
    {calls : List Call} (writes : ∀ call ∈ calls, call.NoDelete) {replies : List Reply} {s : Session}
    (done : run (sessionStep fuel) (formatted disk) calls = .ok (replies, s))
    {request : FAT32DriverRequest} (live : LiveParent s request) (size : request.bufferSize ≠ 0)
    (absent : ∀ i, carries request (parentTable s.driver.disk request.parentClusterNumber i) = false) :
    Synced s.driver ∧ FileWriteSpec request s.driver := by
  have housed := housed_run unformatted writes done
  have synced : Synced s.driver := housed.grounded.synced
  obtain ⟨p, member, parent⟩ := live
  refine ⟨synced, fileWriteSpec_of_used synced ?_ (fun e here => ?_) size
    (isExist_of_absent size absent)⟩
  · rw [parent]
    exact housed.accepts member
  · rw [parent, toNat_num] at here
    obtain rfl : e = p := Fin.ext here
    exact (housed.grounded.used e member).2

/-- A file `essay` of 5000 bytes in the root directory. -/
def essay : FAT32DriverRequest :=
  ⟨fun _ => 0x62, ![0x65, 0x73, 0x73, 0x61, 0x79, 0, 0, 0], fun _ => 0, rootClusterNumber, 5000⟩

/-- Three clusters, behind the one of `note`. -/
theorem file_write_spec_note :
    Synced (recorded note).driver ∧ FileWriteSpec essay (recorded note).driver := by
  have two : essay.parentClusterNumber.toNat = 2 := rfl
  have table := @booted_write_table blankDisk blankDisk_unformatted note rfl (by decide)
  have done : run (sessionStep 1) (formatted blankDisk) [.write note] =
      .ok ([.status 0], recorded note) := by
    simp only [run, note_recorded]
  refine file_write_spec blankDisk_unformatted (fun call member => ?_) done
    ⟨2, List.mem_singleton_self _, rfl⟩ (by decide) fun i => ?_
  · rw [List.mem_singleton.mp member]
    exact trivial
  · rw [parentTable, two, recorded_driver, table]
    by_cases entry : i = 1
    · rw [entry]
      decide
    · rw [writeEntry_of_ne entry]
      by_cases header : i = 0
      · rw [header]
        decide
      · rw [rootTable_of_ne header]
        decide

end HexOS.Fat32
