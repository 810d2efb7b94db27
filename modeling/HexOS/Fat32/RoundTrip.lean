import HexOS.Fat32.Durability

/-!
Reading back what was written.

`read` copies one block of one cluster, and it takes the first slot that carries
the name, slot 0 included. So a stored file is read back exactly when it has at
most 512 bytes and slot 0 of its directory does not carry its name; where slot 0
does, the read delivers the signature block instead.
-/

namespace HexOS.Fat32

open BoundedScan ByteWords PartialRuns

/-- The comparison of `read`. -/
def carries (request : FAT32DriverRequest) (entry : FAT32DirectoryEntry) : Bool :=
  memcmp entry.name request.name == 0 && memcmp entry.ext request.ext == 0

/-- The caller's buffer after a reply. -/
def delivered (buf : Nat → UInt8) (reply : Reply) (j : Nat) : UInt8 :=
  if j < reply.length then reply.byte j else buf j

/-- The same name asked for with another buffer. -/
def FAT32DriverRequest.withBuffer (request : FAT32DriverRequest) (buf : Nat → UInt8)
    (size : UInt32) : FAT32DriverRequest :=
  { request with buf := buf, bufferSize := size }

@[simp] theorem withBuffer_parent (request : FAT32DriverRequest) (buf : Nat → UInt8)
    (size : UInt32) :
    (request.withBuffer buf size).parentClusterNumber = request.parentClusterNumber := rfl

@[simp] theorem withBuffer_bufferSize (request : FAT32DriverRequest) (buf : Nat → UInt8)
    (size : UInt32) : (request.withBuffer buf size).bufferSize = size := rfl

/-- Any read of the file with a buffer large enough returns 0 and delivers
exactly the bytes `request` holds. -/
def ReadsBack (request : FAT32DriverRequest) (d : Driver) : Prop :=
  ∀ (buf : Nat → UInt8) (size : UInt32), request.bufferSize ≤ size →
    (read (request.withBuffer buf size) d).1.code = 0 ∧
    ∀ j < request.bufferSize.toNat,
      delivered buf (read (request.withBuffer buf size) d).1 j = request.buf j

/-- A file reads back after any admitted calls. -/
def RoundTrip (fuel : Nat) (request : FAT32DriverRequest) (s : Session) : Prop :=
  ∀ calls replies t, Guarded (sessionStep fuel) Admitted s calls →
    run (sessionStep fuel) s calls = .ok (replies, t) → ReadsBack request t.driver

/-- The file is one block at most, and slot 0 of the parent does not carry its
name, unless the file is the beginning of the signature block itself. -/
def Fits (request : FAT32DriverRequest) (parent : FAT32DirectoryTable) : Prop :=
  request.bufferSize.toNat ≤ 512 ∧
    (carries request (parent 0) = true →
      ∀ j : Fin 512, j.val < request.bufferSize.toNat → request.buf j.val = fsSignature j)

/-! ### What a read delivers -/

theorem read_length (request : FAT32DriverRequest) (d : Driver) :
    (read request d).1.length ≤ 512 := by
  unfold read
  simp only
  split
  · simp [Reply.status]
  · split
    · simp [Reply.status]
    · split
      · simp [Reply.status]
      · exact le_rfl

theorem read_hit {request : FAT32DriverRequest} {d : Driver} {i : Fin 64}
    (accepts : Accepts d.disk request.parentClusterNumber)
    (hit : (firstFrom 0 fun i =>
      carries request (parentTable d.disk request.parentClusterNumber i)) = some i)
    (fits : (parentTable d.disk request.parentClusterNumber i).filesize ≤ request.bufferSize) :
    (read request d).1 = ⟨0, 512, peek (readClusters d.disk
      (parentTable d.disk request.parentClusterNumber i).clusterLow.toUInt32)⟩ := by
  have admitted := accepts.admitted
  rw [accepts.readClusters] at admitted
  have large : ¬ request.bufferSize < (parentTable d.disk request.parentClusterNumber i).filesize :=
    UInt32.not_lt.mpr fits
  simp only [carries] at hit
  simp only [read, accepts.readClusters, if_neg admitted, hit, if_neg large]

theorem entryCluster_toNat (e : FAT32DirectoryEntry) :
    (entryCluster e).toNat = e.clusterHigh.toNat * 65536 + e.clusterLow.toNat := by
  have high := e.clusterHigh.toNat_lt
  have low := e.clusterLow.toNat_lt
  have sixteen : (16 : UInt32).toNat % 32 = 16 := rfl
  rw [entryCluster, UInt32.toNat_or, UInt32.toNat_shiftLeft, UInt16.toNat_toUInt32,
    UInt16.toNat_toUInt32, sixteen, Nat.shiftLeft_eq, Nat.mod_eq_of_lt (by omega),
    ← Nat.shiftLeft_eq, ← Nat.shiftLeft_add_eq_or_of_lt (by omega), Nat.shiftLeft_eq]

/-- An entry of a cluster below 512 has that number in its low half. -/
theorem clusterLow_of_entryCluster {e : FAT32DirectoryEntry} {c : Fin 512}
    (decoded : entryCluster e = num c) : e.clusterLow.toUInt32 = num c := by
  have value := entryCluster_toNat e
  have := c.isLt
  rw [decoded, toNat_num] at value
  apply UInt32.toNat_inj.mp
  rw [UInt16.toNat_toUInt32, toNat_num]
  omega

theorem peek_signed {disk : Disk} (signed : Signed disk) (j : Fin 512) :
    peek (disk 0) j.val = fsSignature j := by
  rw [peek_of_lt _ (by omega)]
  exact congrFun signed j

theorem StoredAt.head {disk : Disk} {f : StoredFile} {chain : List (Fin 512)}
    (stored : StoredAt disk f chain) {j : Nat} (block : j < 512)
    (inside : j < f.request.bufferSize.toNat) : peek (disk f.first.val) j = f.request.buf j := by
  have first : ∃ rest, chain = f.first :: rest := by
    have links := stored.links
    cases links with
    | here => exact ⟨_, rfl⟩
    | hop => exact ⟨_, rfl⟩
  obtain ⟨rest, rfl⟩ := first
  rw [← stored.bytes j inside, contents, Nat.div_eq_of_lt (by omega), Nat.mod_eq_of_lt (by omega)]
  rfl

/-! ### Where a file stands in its table -/

/-- Slot 0 of a directory, as far as a read depends on it. -/
structure Header (table : FAT32DirectoryTable) : Prop where
  live : Live (table 0)
  filesize : (table 0).filesize = 0
  clusterLow : (table 0).clusterLow = 0

/-- In front of the file's slot every slot is in use, and none of them carries
the file's name, unless slot 0 does. -/
def Leads (disk : Disk) (f : StoredFile) : Prop :=
  ∀ i < f.slot, (i = 0 ∨ Live (parentTable disk f.request.parentClusterNumber i)) ∧
    (carries f.request (parentTable disk f.request.parentClusterNumber 0) = true ∨
      carries f.request (parentTable disk f.request.parentClusterNumber i) = false)

structure Readable (s : Session) : Prop where
  sound : Sound s
  headers : ∀ p ∈ s.directories, Header (tableOf (s.driver.disk p.val))
  leads : ∀ f ∈ s.files, Leads s.driver.disk f

theorem header_init (table : FAT32DirectoryTable) (name : Bytes 8) (p : Fin 512) :
    Header (initDirectoryTable table name (num p)) := by
  have low : ∀ p : Fin 512, (num p >>> 16).toUInt16 = 0 := by decide +kernel
  refine ⟨?_, ?_, ?_⟩
  · simp [initDirectoryTable, Live]
  · simp [initDirectoryTable]
  · simp [initDirectoryTable, low]

theorem Header.congr {table table' : FAT32DirectoryTable} (header : Header table)
    (same : table' 0 = table 0) : Header table' :=
  ⟨same ▸ header.live, same ▸ header.filesize, same ▸ header.clusterLow⟩

theorem existMatch_file {request : FAT32DriverRequest} (size : request.bufferSize ≠ 0)
    (entry : FAT32DirectoryEntry) : existMatch request entry = carries request entry := by
  rw [existMatch, if_neg size, carries]

theorem readable_formatted {disk : Disk} (unformatted : Unformatted disk) :
    Readable (formatted disk) := by
  refine ⟨sound_formatted unformatted, fun p member => ?_, by simp [formatted]⟩
  obtain ⟨-, image⟩ := booted_volume unformatted
  have two : (2 : Fin 512).val = 2 := rfl
  simp only [formatted, List.mem_singleton] at member
  rw [member, two, formatted, image, freshDisk_root]
  exact header_init _ _ 2

theorem leads_makeFile {s : Session} {request : FAT32DriverRequest} {c : Fin 512} {k : Fin 64}
    (grounded : Grounded s.directories s.driver.volume) (live : LiveParent s request)
    (accepts : Accepts s.driver.disk request.parentClusterNumber)
    (absent : isExist request (parentTable s.driver.disk request.parentClusterNumber) = 0)
    (first : FirstFree s.driver.fatTable c)
    (slot : FirstSlot (parentTable s.driver.disk request.parentClusterNumber) k)
    (size : request.bufferSize ≠ 0) :
    Leads (Volume.makeFile request c 0 request.bufferSize
      (storeEntry request s.driver.disk c k)).2.disk ⟨k, c, request⟩ := by
  obtain ⟨above, -, before⟩ := slot.spec
  have table := makeFile_parent (k := k) grounded live accepts first
  have zero : (0 : Fin 64) ≠ k := (ne_zero_of_one_le above).symm
  intro i less
  simp only at less ⊢
  rw [table, writeEntry_of_ne (ne_of_lt less), writeEntry_of_ne zero]
  constructor
  · by_cases header : i = 0
    · exact .inl header
    · exact .inr (before i less (by have := Fin.val_ne_of_ne header; simp at this; omega))
  · simp only [← existMatch_file size]
    exact (isExist_eq_zero_iff.mp absent).imp_right fun none => none i

theorem Leads.kept {directories : List (Fin 512)} {v v' : Volume} {f : StoredFile}
    (leads : Leads v.disk f) (extend : Extends directories v v') {p : Fin 512}
    (member : p ∈ directories) (parent : f.request.parentClusterNumber.toNat = p.val) :
    Leads v'.disk f := by
  intro i less
  obtain ⟨inUse, differs⟩ := leads i less
  rw [parentTable, parent] at inUse differs
  have same : ∀ i, i = 0 ∨ Live (tableOf (v.disk p.val) i) →
      parentTable v'.disk f.request.parentClusterNumber i = tableOf (v.disk p.val) i := by
    intro i kept
    rw [parentTable, parent]
    exact extend.tables p member i kept
  rw [same i inUse, same 0 (.inl rfl)]
  exact ⟨inUse, differs⟩

theorem readable_step {fuel : Nat} {s t : Session} {call : Call} {reply : Reply}
    (readable : Readable s) (admitted : Admitted s call)
    (taken : sessionStep fuel s call = .ok (reply, t)) : Readable t := by
  obtain ⟨sound, headers, leads⟩ := readable
  have next := sound_step sound admitted taken
  suffices kept : (∀ p ∈ t.directories, Header (tableOf (t.driver.disk p.val))) ∧
      ∀ f ∈ t.files, Leads t.driver.disk f from ⟨next, kept.1, kept.2⟩
  clear next
  obtain ⟨extend, advanced⟩ := sessionStep_extends sound.grounded admitted taken
  have oldHeaders : ∀ p ∈ s.directories, Header (tableOf (t.driver.disk p.val)) := fun p member =>
    (headers p member).congr (extend.tables p member 0 (.inl rfl))
  have oldLeads : ∀ f ∈ s.files, Leads t.driver.disk f := by
    intro f member
    obtain ⟨p, directory, parent⟩ := (sound.files f member).1.index
    exact (leads f member).kept extend directory parent
  obtain ⟨driver, directories, entries⟩ := t
  simp only at advanced oldHeaders oldLeads ⊢
  have image : driver.disk = driver.volume.disk := rfl
  rw [image] at oldHeaders oldLeads ⊢
  generalize driver.volume = v' at advanced oldHeaders oldLeads
  cases advanced with
  | same => exact ⟨oldHeaders, oldLeads⟩
  | @folder request c k live _ _ first _ _ result =>
      refine ⟨fun p member => ?_, oldLeads⟩
      rcases List.mem_append.mp member with old | new
      · exact oldHeaders p old
      · obtain ⟨q, -, parent⟩ := live
        have lower := first.above_root sound.grounded.root
        rw [List.mem_singleton.mp new, result, makeFolder_own request (by omega), parent]
        exact header_init _ _ q
  | @file request c k live accepts absent first slot size _ result =>
      refine ⟨oldHeaders, fun f member => ?_⟩
      rcases List.mem_append.mp member with old | new
      · exact oldLeads f old
      · rw [List.mem_singleton.mp new, result]
        exact leads_makeFile sound.grounded live accepts absent first slot size

/-! ### Reading a stored file -/

theorem Readable.accepts {s : Session} (readable : Readable s) {request : FAT32DriverRequest}
    (live : LiveParent s request) : Accepts s.driver.disk request.parentClusterNumber := by
  obtain ⟨p, member, parent⟩ := live.index
  have header := readable.headers p member
  have above := (readable.sound.grounded.used p member).1
  have := p.isLt
  refine ⟨by omega, by omega, ?_⟩
  rw [parent]
  exact ⟨header.live, header.filesize⟩

theorem read_stored {s : Session} (readable : Readable s) {f : StoredFile} (member : f ∈ s.files)
    (buf : Nat → UInt8) {size : UInt32} (enough : f.request.bufferSize ≤ size) :
    (read (f.request.withBuffer buf size) s.driver).1 =
      ⟨0, 512, peek (s.driver.disk
        (if carries f.request (parentTable s.driver.disk f.request.parentClusterNumber 0) then 0
        else f.first.val))⟩ := by
  obtain ⟨live, chain, stored, -⟩ := readable.sound.files f member
  have accepts := readable.accepts live
  by_cases own : carries f.request (parentTable s.driver.disk f.request.parentClusterNumber 0) = true
  · obtain ⟨p, directory, parent⟩ := live.index
    have header := readable.headers p directory
    have found : (firstFrom 0 fun i => carries f.request
        (parentTable s.driver.disk f.request.parentClusterNumber i)) = some 0 :=
      firstFrom_here (i := (0 : Fin 64)) own
    rw [if_pos own, @read_hit (f.request.withBuffer buf size) _ _ accepts found]
    · simp only [withBuffer_parent, parentTable, parent, header.clusterLow]
      rw [readClusters_of_lt _ (by decide)]
      rfl
    · simp only [withBuffer_parent, parentTable, parent, header.filesize]
      exact UInt32.zero_le
  · have found : (firstFrom 0 fun i => carries f.request
        (parentTable s.driver.disk f.request.parentClusterNumber i)) = some f.slot := by
      refine firstFrom_eq_some_iff.mpr ⟨Nat.zero_le _, ?_, fun i less _ => ?_⟩
      · have name := stored.name
        have ext := stored.ext
        rw [StoredFile.entry] at name ext
        simp [carries, name, ext]
      · exact (readable.leads f member i less).2.resolve_left own
    have low := clusterLow_of_entryCluster stored.cluster
    have filesize := stored.filesize
    rw [StoredFile.entry] at low filesize
    rw [if_neg own, @read_hit (f.request.withBuffer buf size) _ _ accepts found]
    · simp only [withBuffer_parent, low, readClusters_num]
    · simpa only [withBuffer_parent, withBuffer_bufferSize, filesize] using enough

/-- **A stored file reads back exactly when it fits.** -/
theorem readsBack_iff {s : Session} (readable : Readable s) {f : StoredFile} (member : f ∈ s.files) :
    ReadsBack f.request s.driver ↔
      Fits f.request (parentTable s.driver.disk f.request.parentClusterNumber) := by
  obtain ⟨-, chain, stored, -⟩ := readable.sound.files f member
  have signed : Signed s.driver.disk := readable.sound.grounded.signed
  constructor
  · intro reads
    -- read into a buffer that differs from the file in every byte
    obtain ⟨-, bytes⟩ := reads (fun j => f.request.buf j + 1) f.request.bufferSize UInt32.le_rfl
    rw [read_stored readable member _ UInt32.le_rfl] at bytes
    have short : f.request.bufferSize.toNat ≤ 512 := by
      by_contra large
      have beyond := bytes 512 (by omega)
      exact succ_ne _ beyond
    refine ⟨short, fun own j inside => ?_⟩
    have byte := bytes j.val inside
    rw [delivered, if_pos j.isLt, if_pos own] at byte
    exact byte.symm.trans (peek_signed signed j)
  · rintro ⟨short, signature⟩ buf size enough
    rw [read_stored readable member buf enough]
    refine ⟨rfl, fun j inside => ?_⟩
    rw [delivered, if_pos (show j < 512 by omega)]
    by_cases own : carries f.request
        (parentTable s.driver.disk f.request.parentClusterNumber 0) = true
    · rw [if_pos own, signature own ⟨j, by omega⟩ inside]
      exact peek_signed signed ⟨j, by omega⟩
    · rw [if_neg own]
      exact stored.head (by omega) inside

/-! ### Runs -/

/-- What later calls keep for a file of the ledger. -/
theorem stays_listed {fuel : Nat} {s t : Session} {call : Call} {reply : Reply}
    (readable : Readable s) (admitted : Admitted s call)
    (taken : sessionStep fuel s call = .ok (reply, t)) {f : StoredFile} (member : f ∈ s.files) :
    f ∈ t.files ∧ parentTable t.driver.disk f.request.parentClusterNumber 0 =
      parentTable s.driver.disk f.request.parentClusterNumber 0 := by
  obtain ⟨extend, advanced⟩ := sessionStep_extends readable.sound.grounded admitted taken
  obtain ⟨p, directory, parent⟩ := (readable.sound.files f member).1.index
  constructor
  · obtain ⟨driver, directories, entries⟩ := t
    simp only at advanced ⊢
    generalize driver.volume = v' at advanced
    cases advanced with
    | same => exact member
    | folder => exact member
    | file => exact List.mem_append_left _ member
  · rw [parentTable, parentTable, parent]
    exact extend.tables p directory 0 (.inl rfl)

theorem Fits.congr {request : FAT32DriverRequest} {table table' : FAT32DirectoryTable}
    (same : table' 0 = table 0) : Fits request table' ↔ Fits request table := by
  rw [Fits, Fits, same]

/-- **Write/read round trip.** In every state an admitted session reaches, a
file whose write returns 0 reads back, at once and after any further admitted
calls, exactly when it fits. -/
theorem roundTrip_iff {fuel : Nat} {disk : Disk} (unformatted : Unformatted disk)
    {calls : List Call} (admitted : Guarded (sessionStep fuel) Admitted (formatted disk) calls)
    {replies : List Reply} {s : Session}
    (done : run (sessionStep fuel) (formatted disk) calls = .ok (replies, s))
    {request : FAT32DriverRequest} (size : request.bufferSize ≠ 0) (live : LiveParent s request)
    (success : (write request s.driver).1 = 0) :
    let t := s.record request 0 (write request s.driver).2
    let parent := parentTable s.driver.disk request.parentClusterNumber
    (RoundTrip fuel request t ↔ Fits request parent) ∧
      (ReadsBack request t.driver ↔ Fits request parent) := by
  intro t parent
  have readable : Readable s := run_guarded
    (fun _ _ _ _ readable allowed taken => readable_step readable allowed taken)
    (readable_formatted unformatted) admitted done
  have allowed : Admitted s (.write request) := fun _ => live
  have taken : sessionStep fuel s (.write request) = .ok (.status 0, t) := by
    simp only [sessionStep, step, success, Session.advance, Reply.status, t]
  have after : Readable t := readable_step readable allowed taken
  let f : StoredFile := ⟨findEmptyEntry parent, findEmptyCluster s.driver.fatTable, request⟩
  have member : f ∈ t.files := by
    simp only [t, Session.record, ne_eq, not_true_eq_false, if_false, size, f, parent]
    exact List.mem_append_right _ (List.mem_singleton_self _)
  obtain ⟨extend, -⟩ := sessionStep_extends readable.sound.grounded allowed taken
  have slot : parentTable t.driver.disk request.parentClusterNumber 0 = parent 0 := by
    obtain ⟨p, directory, index⟩ := live.index
    simp only [parent, parentTable, index]
    exact extend.tables p directory 0 (.inl rfl)
  have atOnce : ReadsBack request t.driver ↔ Fits request parent :=
    (readsBack_iff after member).trans (Fits.congr slot)
  refine ⟨⟨fun always => atOnce.mp (always [] [] t trivial rfl), fun fits => ?_⟩, atOnce⟩
  intro later out u admits ran
  obtain ⟨readableU, memberU, slotU⟩ := run_guarded
    (I := fun u => Readable u ∧ f ∈ u.files ∧
      parentTable u.driver.disk request.parentClusterNumber 0 = parent 0)
    (fun s' call reply t' inv allowed taken => by
      obtain ⟨readable, listed, header⟩ := inv
      obtain ⟨listed', header'⟩ := stays_listed readable allowed taken listed
      exact ⟨readable_step readable allowed taken, listed', header'.trans header⟩)
    ⟨after, member, slot⟩ admits ran
  exact (readsBack_iff readableU memberU).mpr ((Fits.congr slotU).mpr fits)

theorem roundTrip_note :
    let s := formatted blankDisk
    RoundTrip 1 note (s.record note 0 (write note s.driver).2) := by
  intro s
  have written : (write note s.driver).1 = 0 := by
    rw [formatted_driver]
    exact note_written
  have fits : Fits note (parentTable s.driver.disk note.parentClusterNumber) := by
    have two : note.parentClusterNumber.toNat = 2 := rfl
    rw [parentTable, two, formatted_driver, (booted_volume blankDisk_unformatted).2, freshDisk_root]
    exact ⟨by decide, fun own => absurd own (by decide)⟩
  exact (@roundTrip_iff 1 blankDisk blankDisk_unformatted [] trivial [] s rfl note (by decide)
    ⟨2, List.mem_singleton_self _, rfl⟩ written).1.mpr fits

/-! ### A shell that is not loaded whole -/

def shellName : Bytes 8 := ![0x73, 0x68, 0x65, 0x6C, 0x6C, 0, 0, 0]

/-- The inserter storing a shell of one block and one byte. -/
def shell : FAT32DriverRequest :=
  ⟨fun _ => 0x90, shellName, fun _ => 0, rootClusterNumber, 513⟩

/-- `kernel_setup` loading it to address 0, whatever the memory holds. -/
def kernelRequest (memory : Nat → UInt8) : FAT32DriverRequest :=
  ⟨memory, shellName, fun _ => 0, rootClusterNumber, 0x100000⟩

/-- The write returns 0, and the booted kernel does not get the last byte. -/
theorem roundTrip_counterexample :
    (write shell (booted blankDisk)).1 = 0 ∧
      ¬ ReadsBack shell (write shell (booted blankDisk)).2 ∧
      let kernel := booted (write shell (booted blankDisk)).2.disk
      delivered (fun _ => 0) (read (kernelRequest fun _ => 0) kernel).1 512 ≠ shell.buf 512 := by
  refine ⟨booted_write_small blankDisk_unformatted rfl (by decide) (by decide), ?_, ?_⟩
  · intro reads
    obtain ⟨-, bytes⟩ := reads (fun _ => 0) 513 UInt32.le_rfl
    have last := bytes 512 (by decide)
    rw [delivered, if_neg (not_lt_of_ge (read_length _ _))] at last
    exact absurd last (by decide)
  · simp only
    rw [delivered, if_neg (not_lt_of_ge (read_length _ _))]
    decide

end HexOS.Fat32
