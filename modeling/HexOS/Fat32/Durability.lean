import HexOS.Fat32.Ledger

/-!
Durability: a file whose write returned 0 stays intact.

`StoredAt disk f chain` says that the disk holds file `f` along `chain`: its
slot, the links of its chain and its bytes. An admitted call changes none of
these, because they lie in live slots and used clusters; so every file of the
ledger is stored in every later state.
-/

namespace HexOS.Fat32

open LinkTable PartialRuns

/-- Byte `j` of the concatenated clusters of a chain. -/
def contents (disk : Disk) (chain : List (Fin 512)) (j : Nat) : UInt8 :=
  match chain[j / 2048]? with
  | some c => peek (disk c.val) (j % 2048)
  | none => 0

/-- The slot of a stored file, as its parent's table on disk has it. -/
def StoredFile.entry (disk : Disk) (f : StoredFile) : FAT32DirectoryEntry :=
  parentTable disk f.request.parentClusterNumber f.slot

structure StoredAt (disk : Disk) (f : StoredFile) (chain : List (Fin 512)) : Prop where
  live : Live (f.entry disk)
  name : (f.entry disk).name = f.request.name
  ext : (f.entry disk).ext = f.request.ext
  filesize : (f.entry disk).filesize = f.request.bufferSize
  cluster : entryCluster (f.entry disk) = num f.first
  links : Chain (fatLink (fatOf (disk 1))) f.first chain
  length : chain.length = chunksNeeded f.request.bufferSize
  nodup : chain.Nodup
  range : ∀ c ∈ chain, 3 ≤ c.val
  bytes : ∀ j < f.request.bufferSize.toNat, contents disk chain j = f.request.buf j

/-! ### Storing a file -/

theorem entryCluster_writeEntry (request : FAT32DriverRequest) (table : FAT32DirectoryTable)
    (c : Fin 512) (k : Fin 64) : entryCluster (writeEntry request table (num c) k k) = num c := by
  have decode : ∀ c : Fin 512, ((num c >>> 16).toUInt16.toUInt32 <<< 16) |||
      (num c &&& 0xFFFF).toUInt16.toUInt32 = num c := by
    decide +kernel
  rw [writeEntry, Function.update_self]
  split <;> exact decode c

theorem writeEntry_live (request : FAT32DriverRequest) (table : FAT32DirectoryTable)
    (cluster : UInt32) (k : Fin 64) : Live (writeEntry request table cluster k k) := by
  rw [writeEntry, Function.update_self]
  split <;> rfl

theorem writeEntry_name (request : FAT32DriverRequest) (table : FAT32DirectoryTable)
    (cluster : UInt32) (k : Fin 64) : (writeEntry request table cluster k k).name = request.name := by
  rw [writeEntry, Function.update_self]
  split <;> rfl

theorem writeEntry_file {request : FAT32DriverRequest} (size : request.bufferSize ≠ 0)
    (table : FAT32DirectoryTable) (c : Fin 512) (k : Fin 64) :
    let e := writeEntry request table (num c) k k
    Live e ∧ e.name = request.name ∧ e.ext = request.ext ∧ e.filesize = request.bufferSize := by
  simp [writeEntry, size, Live]

theorem contents_of_chunks {disk : Disk} {request : FAT32DriverRequest} {chain : List (Fin 512)}
    (stored : ∀ (i : Nat) (hi : i < chain.length), disk chain[i].val = chunk request i) {j : Nat}
    (inside : j / 2048 < chain.length) : contents disk chain j = request.buf j := by
  have position : j / 2048 * 2048 + j % 2048 = j := by omega
  rw [contents, List.getElem?_eq_getElem inside]
  simp only
  rw [stored _ inside, peek_of_lt _ (Nat.mod_lt _ (by decide)), chunk, position]

/-- The table of a live parent once a file has been stored. -/
theorem makeFile_parent {s : Session} {request : FAT32DriverRequest} {c : Fin 512} {k : Fin 64}
    (grounded : Grounded s.directories s.driver.volume) (live : LiveParent s request)
    (accepts : Accepts s.driver.disk request.parentClusterNumber)
    (first : FirstFree s.driver.fatTable c) :
    parentTable (Volume.makeFile request c 0 request.bufferSize
        (storeEntry request s.driver.disk c k)).2.disk request.parentClusterNumber =
      writeEntry request (parentTable s.driver.disk request.parentClusterNumber) (num c) k := by
  obtain ⟨p, member, parent⟩ := live.index
  have image := makeFile_directory (k := k) grounded accepts first member
  simp only [Driver.volume] at image
  rw [parentTable, parent, image, ← parent, storeEntry_parent]

theorem storedAt_makeFile {s : Session} {request : FAT32DriverRequest} {c : Fin 512} {k : Fin 64}
    (grounded : Grounded s.directories s.driver.volume) (live : LiveParent s request)
    (accepts : Accepts s.driver.disk request.parentClusterNumber)
    (first : FirstFree s.driver.fatTable c) (size : request.bufferSize ≠ 0)
    (success : (Volume.makeFile request c 0 request.bufferSize
      (storeEntry request s.driver.disk c k)).1 = 0) :
    StoredAt (Volume.makeFile request c 0 request.bufferSize
        (storeEntry request s.driver.disk c k)).2.disk ⟨k, c, request⟩
      (fileChain s.driver.fatTable c request.bufferSize) := by
  have lower := first.above_root grounded.root
  have synced : fatOf (s.driver.disk 1) = s.driver.fatTable := grounded.synced.symm
  have table := makeFile_parent (k := k) grounded live accepts first
  obtain ⟨length, links⟩ := makeFile_complete size success
  obtain ⟨flushed, -, -, chunks⟩ := makeFile_spec request (by omega : 2 ≤ c.val) 0
    request.bufferSize (storeEntry request s.driver.disk c k)
  rw [storeEntry_fat accepts, synced] at length links chunks
  obtain ⟨slotLive, name, ext, filesize⟩ := writeEntry_file size
    (parentTable s.driver.disk request.parentClusterNumber) c k
  refine ⟨?_, ?_, ?_, ?_, ?_, flushed ▸ links, length, fileChain_nodup _ _ _, ?_, ?_⟩
  · rwa [StoredFile.entry, table]
  · rwa [StoredFile.entry, table]
  · rwa [StoredFile.entry, table]
  · rwa [StoredFile.entry, table]
  · rw [StoredFile.entry, table]
    exact entryCluster_writeEntry _ _ _ _
  · intro e inChain
    have := Fin.le_def.mp (fileChain_above inChain)
    omega
  · intro j inside
    simp only at inside
    refine contents_of_chunks (fun i hi => by simpa using chunks i hi) ?_
    rw [length, chunksNeeded]
    omega

/-! ### Keeping it -/

theorem StoredAt.kept {directories : List (Fin 512)} {v v' : Volume} {f : StoredFile}
    {chain : List (Fin 512)} (stored : StoredAt v.disk f chain)
    (synced : v.fat = fatOf (v.disk 1)) (extend : Extends directories v v') {p : Fin 512}
    (member : p ∈ directories) (parent : f.request.parentClusterNumber.toNat = p.val)
    (apart : ∀ c ∈ chain, c ∉ directories) : StoredAt v'.disk f chain := by
  have entry : f.entry v'.disk = f.entry v.disk := by
    have live := stored.live
    rw [StoredFile.entry, parentTable, parent] at live
    rw [StoredFile.entry, StoredFile.entry, parentTable, parentTable, parent]
    exact extend.tables p member f.slot (.inr live)
  have used : ∀ c ∈ chain, v.fat c ≠ fatEmptyEntry := by
    intro c inChain free
    rw [synced] at free
    exact chain_used stored.links inChain (fatLink_free_iff.mpr free)
  have data : ∀ c ∈ chain, v'.disk c.val = v.disk c.val := fun c inChain =>
    extend.data c (by have := stored.range c inChain; omega) (used c inChain) (apart c inChain)
  have links : Chain (fatLink (fatOf (v'.disk 1))) f.first chain := by
    refine stored.links.congr fun c inChain => fatLink_congr ?_
    rw [← extend.synced, ← synced]
    exact extend.used c (used c inChain)
  refine ⟨entry ▸ stored.live, entry ▸ stored.name, entry ▸ stored.ext, entry ▸ stored.filesize,
    entry ▸ stored.cluster, links, stored.length, stored.nodup, stored.range, fun j inside => ?_⟩
  rw [← stored.bytes j inside, contents, contents]
  cases position : chain[j / 2048]? with
  | none => rfl
  | some c => simp only [data c (List.mem_of_getElem? position)]

/-! ### The ledger stays sound -/

structure Sound (s : Session) : Prop where
  grounded : Grounded s.directories s.driver.volume
  files : ∀ f ∈ s.files, LiveParent s f.request ∧
    ∃ chain, StoredAt s.driver.disk f chain ∧ ∀ c ∈ chain, c ∉ s.directories
  apart : s.files.Pairwise fun f g => ∀ a b,
    StoredAt s.driver.disk f a → StoredAt s.driver.disk g b → a.Disjoint b

theorem sound_formatted {disk : Disk} (unformatted : Unformatted disk) : Sound (formatted disk) := by
  refine ⟨?_, by simp [formatted], by simp [formatted]⟩
  rw [formatted_driver, volume_booted unformatted]
  exact grounded_fresh disk

theorem storedAt_unique {disk : Disk} {f : StoredFile} {a b : List (Fin 512)}
    (left : StoredAt disk f a) (right : StoredAt disk f b) : a = b :=
  chain_unique left.links right.links

section

variable {s : Session} {d : Driver} {request : FAT32DriverRequest} {c : Fin 512} {k : Fin 64}

/-- What is stored stays stored. -/
theorem Sound.kept (sound : Sound s) (extend : Extends s.directories s.driver.volume d.volume) :
    ∀ f ∈ s.files, ∃ chain, StoredAt s.driver.disk f chain ∧ StoredAt d.disk f chain ∧
      ∀ c ∈ chain, c ∉ s.directories := by
  intro f member
  obtain ⟨live, chain, stored, outside⟩ := sound.files f member
  obtain ⟨p, directory, parent⟩ := live.index
  exact ⟨chain, stored, stored.kept sound.grounded.synced extend directory parent outside, outside⟩

theorem Sound.keptApart (sound : Sound s)
    (extend : Extends s.directories s.driver.volume d.volume) :
    s.files.Pairwise fun f g => ∀ a b,
      StoredAt d.disk f a → StoredAt d.disk g b → a.Disjoint b := by
  refine sound.apart.imp_of_mem fun {f g} hf hg disjoint a b storedF storedG => ?_
  obtain ⟨a', old, new, -⟩ := sound.kept extend f hf
  obtain ⟨b', old', new', -⟩ := sound.kept extend g hg
  rw [storedAt_unique storedF new, storedAt_unique storedG new']
  exact disjoint a' b' old old'

/-- A free cluster belongs to no stored file. -/
theorem Sound.outside_of_free (sound : Sound s) {f : StoredFile} {chain : List (Fin 512)}
    (stored : StoredAt s.driver.disk f chain) (free : s.driver.fatTable c = fatEmptyEntry) :
    c ∉ chain := by
  intro inChain
  have synced : fatOf (s.driver.disk 1) = s.driver.fatTable := sound.grounded.synced.symm
  refine chain_used stored.links inChain (fatLink_free_iff.mpr ?_)
  rw [synced]
  exact free

theorem Sound.same (sound : Sound s) (extend : Extends s.directories s.driver.volume d.volume) :
    Sound ⟨d, s.directories, s.files⟩ := by
  refine ⟨extend.grounded sound.grounded, fun f member => ?_, sound.keptApart extend⟩
  obtain ⟨chain, -, stored, outside⟩ := sound.kept extend f member
  exact ⟨(sound.files f member).1, chain, stored, outside⟩

theorem Sound.addFolder (sound : Sound s)
    (extend : Extends s.directories s.driver.volume d.volume) (above : 2 ≤ c.val)
    (free : s.driver.fatTable c = fatEmptyEntry) (marked : d.fatTable c = fatEndOfFile) :
    Sound ⟨d, s.directories ++ [c], s.files⟩ := by
  have used : d.volume.fat c ≠ fatEmptyEntry := by
    simp only [Driver.volume, marked]
    decide
  refine ⟨(extend.grounded sound.grounded).append above used, fun f member => ?_,
    sound.keptApart extend⟩
  obtain ⟨chain, before, stored, outside⟩ := sound.kept extend f member
  obtain ⟨p, directory, parent⟩ := (sound.files f member).1
  refine ⟨⟨p, List.mem_append_left _ directory, parent⟩, chain, stored, fun e inChain joined => ?_⟩
  rcases List.mem_append.mp joined with old | new
  · exact outside e inChain old
  · rw [List.mem_singleton.mp new] at inChain
    exact sound.outside_of_free before free inChain

theorem Sound.addFile (sound : Sound s)
    (extend : Extends s.directories s.driver.volume d.volume) (live : LiveParent s request)
    {chain : List (Fin 512)} (stored : StoredAt d.disk ⟨k, c, request⟩ chain)
    (fresh : ∀ e ∈ chain, s.driver.fatTable e = fatEmptyEntry) :
    Sound ⟨d, s.directories, s.files ++ [⟨k, c, request⟩]⟩ := by
  obtain ⟨ground, files, apart⟩ := sound.same extend
  refine ⟨ground, fun f member => ?_,
    List.pairwise_append.mpr ⟨apart, List.pairwise_singleton _ _, ?_⟩⟩
  · rcases List.mem_append.mp member with old | entered
    · exact files f old
    · rw [List.mem_singleton.mp entered]
      exact ⟨live, chain, stored, fun e inChain directory =>
        (sound.grounded.used e directory).2 (fresh e inChain)⟩
  · intro f old g entered a b storedF storedG e inA inB
    rw [List.mem_singleton.mp entered] at storedG
    obtain ⟨chainF, before, after, -⟩ := sound.kept extend f old
    rw [storedAt_unique storedF after] at inA
    rw [storedAt_unique storedG stored] at inB
    exact sound.outside_of_free before (fresh e inB) inA

/-- One admitted call keeps every stored file and enters only stored ones. -/
theorem sound_step {fuel : Nat} {t : Session} {call : Call} {reply : Reply} (sound : Sound s)
    (admitted : Admitted s call) (taken : sessionStep fuel s call = .ok (reply, t)) : Sound t := by
  obtain ⟨extend, advanced⟩ := sessionStep_extends sound.grounded admitted taken
  obtain ⟨driver, directories, entries⟩ := t
  simp only at advanced extend ⊢
  have image : driver.disk = driver.volume.disk := rfl
  have ram : driver.fatTable = driver.volume.fat := rfl
  generalize volume : driver.volume = v' at advanced
  cases advanced with
  | same => exact sound.same extend
  | @folder request c k _ _ _ first _ _ result =>
      have above := first.above_root sound.grounded.root
      refine sound.addFolder extend (by omega) first.spec.2.1 ?_
      rw [ram, volume, result, makeFolder_marked]
  | @file request c k live accepts _ first slot size success result =>
      have stored : StoredAt driver.disk ⟨k, c, request⟩
          (fileChain s.driver.fatTable c request.bufferSize) := by
        rw [image, volume, result]
        exact storedAt_makeFile sound.grounded live accepts first size success
      exact sound.addFile extend live stored fun e inChain => fileChain_free first.spec.2.1 inChain

end

/-- **Durability of successful writes.** In every state an admitted session
reaches, every file whose write returned 0 is stored intact, and no two of them
share a cluster. -/
theorem files_stay_intact {fuel : Nat} {disk : Disk} (unformatted : Unformatted disk)
    {calls : List Call} (admitted : Guarded (sessionStep fuel) Admitted (formatted disk) calls)
    {replies : List Reply} {s : Session}
    (done : run (sessionStep fuel) (formatted disk) calls = .ok (replies, s)) :
    (∀ f ∈ s.files, ∃ chain, StoredAt s.driver.disk f chain) ∧
      s.files.Pairwise fun f g => ∀ a b,
        StoredAt s.driver.disk f a → StoredAt s.driver.disk g b → a.Disjoint b := by
  have sound : Sound s := run_guarded
    (fun _ _ _ _ sound allowed taken => sound_step sound allowed taken)
    (sound_formatted unformatted) admitted done
  exact ⟨fun f member => (sound.files f member).2.imp fun _ stored => stored.1, sound.apart⟩

/-- A file `note` of five bytes in the root directory. -/
def note : FAT32DriverRequest :=
  ⟨fun _ => 0x61, ![0x6E, 0x6F, 0x74, 0x65, 0, 0, 0, 0], fun _ => 0, rootClusterNumber, 5⟩

theorem note_written : (write note (booted blankDisk)).1 = 0 :=
  booted_write_small blankDisk_unformatted rfl (by decide) (by decide)

theorem note_admitted (fuel : Nat) :
    Guarded (sessionStep fuel) Admitted (formatted blankDisk) [.write note] :=
  fun _ _ _ => ⟨fun _ => ⟨2, List.mem_singleton_self _, rfl⟩, trivial⟩

/-- A file `big` of 2 MiB in the root directory. -/
def big : FAT32DriverRequest :=
  ⟨fun _ => 0x62, ![0x62, 0x69, 0x67, 0, 0, 0, 0, 0], fun _ => 0, rootClusterNumber, 0x200000⟩

/-- A file of more clusters than there are does not get stored. -/
theorem write_huge {request : FAT32DriverRequest} (huge : 513 < chunksNeeded request.bufferSize)
    (d : Driver) : (write request d).1 ≠ 0 := by
  have short : ∀ fat c, fileFits fat c request.bufferSize = false := fun fat c => by
    have few : (freeClusters fat (c.val + 1)).length ≤ 512 :=
      le_trans (List.length_filter_le _ _) (by simp)
    exact decide_eq_false (by omega)
  have outcome := write_outcome request d
  generalize (write request d).1 = code, (write request d).2.volume = v at outcome
  cases outcome with
  | invalidParent => decide
  | taken => decide
  | full => decide
  | folder _ _ _ _ size =>
      rw [size] at huge
      exact absurd huge (by decide)
  | file =>
      simp only [Volume.makeFile, short, Bool.false_eq_true, if_false]
      decide

theorem sessionStep_failed {fuel : Nat} {s : Session} {request : FAT32DriverRequest}
    (failed : (write request s.driver).1 ≠ 0) :
    sessionStep fuel s (.write request) = .ok (.status (write request s.driver).1,
      { s with driver := (write request s.driver).2 }) := by
  simp only [sessionStep, step, Session.advance, Reply.status, record_failed failed]

/-- The session behind the write of a small file on the blank disk. -/
def recorded (request : FAT32DriverRequest) : Session :=
  ⟨(write request (booted blankDisk)).2, [2],
    [⟨findEmptyEntry (parentTable (booted blankDisk).disk request.parentClusterNumber),
      findEmptyCluster (booted blankDisk).fatTable, request⟩]⟩

theorem recorded_driver (request : FAT32DriverRequest) :
    (recorded request).driver = (write request (booted blankDisk)).2 := rfl

theorem note_recorded :
    sessionStep 1 (formatted blankDisk) (.write note) = .ok (.status 0, recorded note) := by
  have size : note.bufferSize ≠ 0 := by decide
  simp only [sessionStep, step, formatted, note_written, Session.advance, Reply.status, recorded,
    Session.record, ne_eq, not_true_eq_false, if_false, if_neg size, List.nil_append]

/-- The write of `note`, and one that fails with most of its clusters stored. -/
theorem files_stay_intact_note : ∃ (code : Int) (s : Session), code ≠ 0 ∧
    run (sessionStep 1) (formatted blankDisk) [.write note, .write big] =
      .ok ([.status 0, .status code], s) ∧
    s.files.map StoredFile.request = [note] ∧
    (∀ f ∈ s.files, ∃ chain, StoredAt s.driver.disk f chain) ∧
    s.files.Pairwise fun f g => ∀ a b,
      StoredAt s.driver.disk f a → StoredAt s.driver.disk g b → a.Disjoint b := by
  have failed := @write_huge big (by decide) (recorded note).driver
  have first := note_recorded
  have second := @sessionStep_failed 1 _ _ failed
  have done : run (sessionStep 1) (formatted blankDisk) [.write note, .write big] =
      .ok ([.status 0, .status (write big (recorded note).driver).1],
        { recorded note with driver := (write big (recorded note).driver).2 }) := by
    simp only [run, first, second]
  have admitted : Guarded (sessionStep 1) Admitted (formatted blankDisk)
      [.write note, .write big] := by
    refine fun reply u taken =>
      ⟨fun _ => ⟨2, List.mem_singleton_self _, rfl⟩, fun _ _ _ => ⟨?_, trivial⟩⟩
    rw [first] at taken
    obtain ⟨-, rfl⟩ := Prod.mk.inj (Except.ok.inj taken)
    exact fun _ => ⟨2, List.mem_singleton_self _, rfl⟩
  exact ⟨_, _, failed, done, rfl, files_stay_intact blankDisk_unformatted admitted done⟩

end HexOS.Fat32
