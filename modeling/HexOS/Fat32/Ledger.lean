import HexOS.Fat32.Reserved

/-!
Sessions: the driver with a ledger of what was stored through it.

The ledger lists the directories and the files whose creating write returned 0.
A session is admitted when every parent a write accepts is one of its
directories and nothing is deleted. `Extends` says what such a call leaves
alone: used FAT entries, the data of used clusters, and in every directory slot
0 and the live slots. `call_extends` proves it of every admitted call, failed
writes included.
-/

namespace HexOS.Fat32

open BoundedScan LinkTable PartialRuns

/-! ### Sessions -/

structure StoredFile where
  slot : Fin 64
  first : Fin 512
  request : FAT32DriverRequest

structure Session where
  driver : Driver
  directories : List (Fin 512)
  files : List StoredFile

/-- Enter a write that returned `code` and left driver `d`. -/
def Session.record (s : Session) (request : FAT32DriverRequest) (code : Int) (d : Driver) : Session :=
  let c := findEmptyCluster s.driver.fatTable
  let k := findEmptyEntry (parentTable s.driver.disk request.parentClusterNumber)
  if code ≠ 0 then { s with driver := d }
  else if request.bufferSize = 0 then ⟨d, s.directories ++ [c], s.files⟩
  else ⟨d, s.directories, s.files ++ [⟨k, c, request⟩]⟩

def Session.advance (s : Session) (call : Call) (code : Int) (d : Driver) : Session :=
  match call with
  | .write request => s.record request code d
  | _ => { s with driver := d }

def sessionStep (fuel : Nat) (s : Session) (call : Call) : Except Fault (Reply × Session) :=
  match step fuel s.driver call with
  | .error fault => .error fault
  | .ok (reply, d) => .ok (reply, s.advance call reply.code d)

/-- The session that starts when an unformatted disk has been formatted. -/
def formatted (disk : Disk) : Session := ⟨booted disk, [2], []⟩

@[simp] theorem formatted_driver (disk : Disk) : (formatted disk).driver = booted disk := by
  rw [formatted]

/-- The parent is the root or a directory whose creating write returned 0. -/
def LiveParent (s : Session) (request : FAT32DriverRequest) : Prop :=
  ∃ p ∈ s.directories, request.parentClusterNumber = num p

def Admitted (s : Session) : Call → Prop
  | .write request => Accepts s.driver.disk request.parentClusterNumber → LiveParent s request
  | .delete _ _ => False
  | _ => True

theorem sessionStep_ok {fuel : Nat} {s t : Session} {call : Call} {reply : Reply}
    (taken : sessionStep fuel s call = .ok (reply, t)) :
    ∃ d, step fuel s.driver call = .ok (reply, d) ∧ t = s.advance call reply.code d := by
  unfold sessionStep at taken
  split at taken
  · cases taken
  · rename_i reply' d result
    simp only [Except.ok.injEq, Prod.mk.injEq] at taken
    obtain ⟨rfl, rfl⟩ := taken
    exact ⟨d, result, rfl⟩

/-! ### What an admitted call leaves alone -/

structure Extends (directories : List (Fin 512)) (v v' : Volume) : Prop where
  synced : v'.fat = fatOf (v'.disk 1)
  boot : v'.disk 0 = v.disk 0
  used : ∀ e, v.fat e ≠ fatEmptyEntry → v'.fat e = v.fat e
  data : ∀ e : Fin 512, 2 ≤ e.val → v.fat e ≠ fatEmptyEntry → e ∉ directories →
    v'.disk e.val = v.disk e.val
  tables : ∀ p ∈ directories, ∀ i, i = 0 ∨ Live (tableOf (v.disk p.val) i) →
    tableOf (v'.disk p.val) i = tableOf (v.disk p.val) i

/-- The state a session starts from and every admitted call keeps. -/
structure Grounded (directories : List (Fin 512)) (v : Volume) : Prop where
  signed : Signed v.disk
  synced : v.fat = fatOf (v.disk 1)
  root : v.fat 2 = fatEndOfFile
  used : ∀ p ∈ directories, 2 ≤ p.val ∧ v.fat p ≠ fatEmptyEntry

theorem grounded_fresh (disk : Disk) : Grounded [2] ⟨freshFat, freshDisk disk⟩ := by
  have reserved : Reserved freshFat := reserved_formatFat _
  refine ⟨freshDisk_signed disk, (freshDisk_fat disk).symm, reserved.root, fun p member => ?_⟩
  rw [List.mem_singleton.mp member]
  exact ⟨le_rfl, root_used reserved.root⟩

/-- A used cluster may join the directories. -/
theorem Grounded.append {directories : List (Fin 512)} {v : Volume}
    (grounded : Grounded directories v) {c : Fin 512} (above : 2 ≤ c.val)
    (used : v.fat c ≠ fatEmptyEntry) : Grounded (directories ++ [c]) v := by
  refine ⟨grounded.signed, grounded.synced, grounded.root, fun p member => ?_⟩
  rcases List.mem_append.mp member with old | new
  · exact grounded.used p old
  · rw [List.mem_singleton.mp new]
    exact ⟨above, used⟩

theorem Extends.refl {directories : List (Fin 512)} {v : Volume} (synced : v.fat = fatOf (v.disk 1)) :
    Extends directories v v :=
  ⟨synced, rfl, fun _ _ => rfl, fun _ _ _ _ => rfl, fun _ _ _ _ => rfl⟩

theorem Extends.grounded {directories : List (Fin 512)} {v v' : Volume}
    (grounded : Grounded directories v) (extend : Extends directories v v') :
    Grounded directories v' := by
  refine ⟨signed_congr extend.boot grounded.signed, extend.synced, ?_, fun p member => ?_⟩
  · exact (extend.used 2 (root_used grounded.root)).trans grounded.root
  · obtain ⟨above, used⟩ := grounded.used p member
    exact ⟨above, by rwa [extend.used p used]⟩

theorem writeEntry_of_ne {request : FAT32DriverRequest} {table : FAT32DirectoryTable}
    {cluster : UInt32} {i k : Fin 64} (other : i ≠ k) :
    writeEntry request table cluster k i = table i :=
  Function.update_of_ne other _ _

/-- The new entry goes to a slot that is neither slot 0 nor live. -/
theorem storeEntry_keeps {request : FAT32DriverRequest} {disk : Disk} {c : Fin 512} {k : Fin 64}
    {p : Fin 512} (slot : FirstSlot (parentTable disk request.parentClusterNumber) k) {i : Fin 64}
    (kept : i = 0 ∨ Live (tableOf (disk p.val) i)) :
    tableOf (storeEntry request disk c k p.val) i = tableOf (disk p.val) i := by
  by_cases same : p.val = request.parentClusterNumber.toNat
  · obtain ⟨above, free, -⟩ := slot.spec
    have other : i ≠ k := by
      rintro rfl
      rcases kept with rfl | live
      · simp at above
      · rw [same] at live
        exact free live
    rw [same, storeEntry_parent, writeEntry_of_ne other]
  · rw [storeEntry_of_ne same]

theorem LiveParent.index {s : Session} {request : FAT32DriverRequest} (live : LiveParent s request) :
    ∃ p ∈ s.directories, request.parentClusterNumber.toNat = p.val := by
  obtain ⟨p, member, parent⟩ := live
  exact ⟨p, member, by rw [parent, toNat_num]⟩

/-- A new folder leaves every directory as the new entry has it. -/
theorem makeFolder_directory {request : FAT32DriverRequest} {directories : List (Fin 512)}
    {v : Volume} {c : Fin 512} {k : Fin 64} (grounded : Grounded directories v)
    (first : FirstFree v.fat c) {q : Fin 512} (directory : q ∈ directories) :
    (Volume.makeFolder request c ⟨v.fat, storeEntry request v.disk c k⟩).disk q.val =
      storeEntry request v.disk c k q.val := by
  obtain ⟨low, used⟩ := grounded.used q directory
  have other : q.val ≠ c.val := Fin.val_ne_of_ne fun same => used (same ▸ first.spec.2.1)
  simp only [Volume.makeFolder]
  rw [Function.update_of_ne (by omega), Function.update_of_ne other]

theorem extends_makeFolder {request : FAT32DriverRequest} {directories : List (Fin 512)} {v : Volume}
    {c : Fin 512} {k : Fin 64} (grounded : Grounded directories v) {p : Fin 512}
    (member : p ∈ directories) (parent : request.parentClusterNumber.toNat = p.val)
    (first : FirstFree v.fat c)
    (slot : FirstSlot (parentTable v.disk request.parentClusterNumber) k) :
    Extends directories v (Volume.makeFolder request c ⟨v.fat, storeEntry request v.disk c k⟩) := by
  have above := first.above_root grounded.root
  have free := first.spec.2.1
  have pAbove := (grounded.used p member).1
  have differ : ∀ e, v.fat e ≠ fatEmptyEntry → e ≠ c := fun e used same => used (same ▸ free)
  refine ⟨?_, ?_, fun e used => ?_, fun e low used outside => ?_, fun q directory i kept => ?_⟩
  · simp [Volume.makeFolder]
  · simp only [Volume.makeFolder]
    rw [Function.update_of_ne (by omega), Function.update_of_ne (by omega),
      storeEntry_of_ne (by omega)]
  · exact Function.update_of_ne (differ e used) _ _
  · have other : e.val ≠ c.val := Fin.val_ne_of_ne (differ e used)
    have notParent : e.val ≠ p.val := Fin.val_ne_of_ne fun same => outside (same ▸ member)
    simp only [Volume.makeFolder]
    rw [Function.update_of_ne (by omega), Function.update_of_ne other,
      storeEntry_of_ne (by omega)]
  · rw [makeFolder_directory grounded first directory]
    exact storeEntry_keeps slot kept

/-- The clusters a new file takes are free ones behind the root's. -/
theorem fileChain_fresh {fat : FAT32FileAllocationTable} {c : Fin 512} (root : fat 2 = fatEndOfFile)
    (first : FirstFree fat c) {size : UInt32} {e : Fin 512} (member : e ∈ fileChain fat c size) :
    3 ≤ e.val ∧ fat e = fatEmptyEntry := by
  have above := first.above_root root
  have := Fin.le_def.mp (fileChain_above member)
  exact ⟨by omega, fileChain_free first.spec.2.1 member⟩

/-- A file leaves every cluster outside its chain as the new entry has it. -/
theorem makeFile_untouched {request : FAT32DriverRequest} {directories : List (Fin 512)} {v : Volume}
    {c : Fin 512} {k : Fin 64} (grounded : Grounded directories v)
    (accepts : Accepts v.disk request.parentClusterNumber) (first : FirstFree v.fat c) {x : Nat}
    (other : x ≠ 1) (outside : ∀ e ∈ fileChain v.fat c request.bufferSize, e.val ≠ x) :
    (Volume.makeFile request c 0 request.bufferSize (storeEntry request v.disk c k)).2.disk x =
      storeEntry request v.disk c k x := by
  have above := first.above_root grounded.root
  obtain ⟨-, -, untouched, -⟩ := makeFile_spec request (by omega : 2 ≤ c.val) 0
    request.bufferSize (storeEntry request v.disk c k)
  rw [storeEntry_fat accepts, ← grounded.synced] at untouched
  exact untouched x other outside

theorem makeFile_directory {request : FAT32DriverRequest} {directories : List (Fin 512)}
    {v : Volume} {c : Fin 512} {k : Fin 64} (grounded : Grounded directories v)
    (accepts : Accepts v.disk request.parentClusterNumber) (first : FirstFree v.fat c) {q : Fin 512}
    (directory : q ∈ directories) :
    (Volume.makeFile request c 0 request.bufferSize (storeEntry request v.disk c k)).2.disk q.val =
      storeEntry request v.disk c k q.val := by
  obtain ⟨low, used⟩ := grounded.used q directory
  refine makeFile_untouched grounded accepts first (by omega) fun e member same => ?_
  exact used (Fin.ext same ▸ (fileChain_fresh grounded.root first member).2)

theorem extends_makeFile {request : FAT32DriverRequest} {directories : List (Fin 512)} {v : Volume}
    {c : Fin 512} {k : Fin 64} (grounded : Grounded directories v)
    (accepts : Accepts v.disk request.parentClusterNumber) {p : Fin 512}
    (member : p ∈ directories) (parent : request.parentClusterNumber.toNat = p.val)
    (first : FirstFree v.fat c)
    (slot : FirstSlot (parentTable v.disk request.parentClusterNumber) k) :
    Extends directories v (Volume.makeFile request c 0 request.bufferSize
      (storeEntry request v.disk c k)).2 := by
  have above := first.above_root grounded.root
  have pAbove := (grounded.used p member).1
  have fresh := fun e => @fileChain_fresh _ _ grounded.root first request.bufferSize e
  obtain ⟨synced, others, -, -⟩ := makeFile_spec request (by omega : 2 ≤ c.val) 0
    request.bufferSize (storeEntry request v.disk c k)
  rw [storeEntry_fat accepts, ← grounded.synced] at others
  refine ⟨synced, ?_, fun e used => ?_, fun e low used outside => ?_, fun q directory i kept => ?_⟩
  · rw [makeFile_untouched grounded accepts first (by omega) fun e inChain => by
      have := (fresh e inChain).1
      omega, storeEntry_of_ne (by omega)]
  · exact others e fun inChain => used (fresh e inChain).2
  · have notParent : e.val ≠ p.val := Fin.val_ne_of_ne fun same => outside (same ▸ member)
    have apart : ∀ x ∈ fileChain v.fat c request.bufferSize, x.val ≠ e.val := by
      intro x inChain same
      obtain rfl : x = e := Fin.ext same
      exact used (fresh x inChain).2
    rw [makeFile_untouched grounded accepts first (by omega) apart, storeEntry_of_ne (by omega)]
  · rw [makeFile_directory grounded accepts first directory]
    exact storeEntry_keeps slot kept

theorem extends_write {s : Session} {request : FAT32DriverRequest} {v' : Volume} {code : Int}
    (grounded : Grounded s.directories s.driver.volume) (admitted : Admitted s (.write request))
    (outcome : WriteOutcome request s.driver.volume code v') :
    Extends s.directories s.driver.volume v' := by
  cases outcome with
  | invalidParent => exact .refl grounded.synced
  | taken => exact .refl grounded.synced
  | full => exact .refl grounded.synced
  | folder accepts _ first slot =>
      obtain ⟨p, member, parent⟩ := (admitted accepts).index
      exact extends_makeFolder grounded member parent first slot
  | file accepts _ first slot =>
      obtain ⟨p, member, parent⟩ := (admitted accepts).index
      exact extends_makeFile grounded accepts member parent first slot

/-- **Every admitted call only adds**, however it returns. -/
theorem call_extends {s : Session} {call : Call} {v' : Volume} {code : Int}
    (grounded : Grounded s.directories s.driver.volume) (admitted : Admitted s call)
    (outcome : StepOutcome s.driver.volume call code v') :
    Extends s.directories s.driver.volume v' := by
  cases outcome with
  | load =>
      rw [← grounded.synced]
      exact .refl grounded.synced
  | format _ _ unsigned => exact absurd grounded.signed unsigned
  | read => exact .refl grounded.synced
  | readDirectory => exact .refl grounded.synced
  | write outcome => exact extends_write grounded admitted outcome
  | delete => exact absurd admitted not_false

/-! ### What the ledger gains -/

/-- What is entered after a call that left volume `v'`: nothing, the folder or
the file it stored. -/
inductive Advanced (s : Session) (v' : Volume) : List (Fin 512) → List StoredFile → Prop where
  | same : Advanced s v' s.directories s.files
  | folder {request : FAT32DriverRequest} {c : Fin 512} {k : Fin 64} : LiveParent s request →
      Accepts s.driver.disk request.parentClusterNumber →
      isExist request (parentTable s.driver.disk request.parentClusterNumber) = 0 →
      FirstFree s.driver.fatTable c →
      FirstSlot (parentTable s.driver.disk request.parentClusterNumber) k →
      request.bufferSize = 0 →
      v' = Volume.makeFolder request c
        ⟨s.driver.fatTable, storeEntry request s.driver.disk c k⟩ →
      Advanced s v' (s.directories ++ [c]) s.files
  | file {request : FAT32DriverRequest} {c : Fin 512} {k : Fin 64} : LiveParent s request →
      Accepts s.driver.disk request.parentClusterNumber →
      isExist request (parentTable s.driver.disk request.parentClusterNumber) = 0 →
      FirstFree s.driver.fatTable c →
      FirstSlot (parentTable s.driver.disk request.parentClusterNumber) k →
      request.bufferSize ≠ 0 →
      (Volume.makeFile request c 0 request.bufferSize (storeEntry request s.driver.disk c k)).1 = 0 →
      v' = (Volume.makeFile request c 0 request.bufferSize
        (storeEntry request s.driver.disk c k)).2 →
      Advanced s v' s.directories (s.files ++ [⟨k, c, request⟩])

theorem record_driver (s : Session) (request : FAT32DriverRequest) (code : Int) (d : Driver) :
    (s.record request code d).driver = d := by
  simp only [Session.record]
  split
  · rfl
  · split <;> rfl

theorem record_directories (s : Session) (request : FAT32DriverRequest) (code : Int) (d : Driver) :
    (s.record request code d).directories =
      if code = 0 ∧ request.bufferSize = 0 then
        s.directories ++ [findEmptyCluster s.driver.fatTable]
      else s.directories := by
  by_cases success : code = 0
  · by_cases folder : request.bufferSize = 0 <;> simp [Session.record, success, folder]
  · simp [Session.record, success]

/-- Directories stay in the ledger. -/
theorem mem_record {s : Session} {request : FAT32DriverRequest} {code : Int} {d : Driver}
    {p : Fin 512} (directory : p ∈ s.directories) : p ∈ (s.record request code d).directories := by
  rw [record_directories]
  split
  · exact List.mem_append_left _ directory
  · exact directory

theorem record_failed {s : Session} {request : FAT32DriverRequest} {code : Int} {d : Driver}
    (failed : code ≠ 0) : s.record request code d = { s with driver := d } := by
  simp only [Session.record, ne_eq, failed, not_false_eq_true, if_true]

theorem record_advanced {s : Session} {request : FAT32DriverRequest} {code : Int} {d : Driver}
    (admitted : Admitted s (.write request))
    (outcome : WriteOutcome request s.driver.volume code d.volume) :
    Advanced s d.volume (s.record request code d).directories (s.record request code d).files := by
  by_cases failed : code ≠ 0
  · rw [record_failed failed]
    exact .same
  · have success : code = 0 := not_not.mp failed
    generalize volume : d.volume = v' at outcome
    cases outcome with
    | invalidParent => exact absurd success (by decide)
    | taken => exact absurd success (by decide)
    | full => exact absurd success (by decide)
    | @folder c k accepts absent first slot size =>
        have cluster : findEmptyCluster s.driver.fatTable = c := first.find
        have entered : (s.record request 0 d) =
            ⟨d, s.directories ++ [findEmptyCluster s.driver.fatTable], s.files⟩ := by
          simp only [Session.record, ne_eq, not_true_eq_false, if_false, size, if_true]
        rw [entered, cluster]
        exact .folder (admitted accepts) accepts absent first slot size rfl
    | @file c k accepts absent first slot size =>
        have cluster : findEmptyCluster s.driver.fatTable = c := first.find
        have entry : findEmptyEntry (parentTable s.driver.disk request.parentClusterNumber) = k :=
          slot.find
        have entered : (s.record request (Volume.makeFile request c 0 request.bufferSize
            (storeEntry request s.driver.volume.disk c k)).1 d) = ⟨d, s.directories, s.files ++
              [⟨findEmptyEntry (parentTable s.driver.disk request.parentClusterNumber),
                findEmptyCluster s.driver.fatTable, request⟩]⟩ := by
          rw [success]
          simp only [Session.record, ne_eq, not_true_eq_false, if_false, size]
        rw [entered, cluster, entry]
        exact .file (admitted accepts) accepts absent first slot size success rfl

/-- One admitted call of a session: the volume only gains, and so does the ledger. -/
theorem sessionStep_extends {fuel : Nat} {s t : Session} {call : Call} {reply : Reply}
    (grounded : Grounded s.directories s.driver.volume) (admitted : Admitted s call)
    (taken : sessionStep fuel s call = .ok (reply, t)) :
    Extends s.directories s.driver.volume t.driver.volume ∧
      Advanced s t.driver.volume t.directories t.files := by
  obtain ⟨d, stepped, rfl⟩ := sessionStep_ok taken
  have outcome := step_outcome stepped
  have driver : (s.advance call reply.code d).driver = d := by
    cases call <;> simp only [Session.advance, record_driver]
  rw [driver]
  refine ⟨call_extends grounded admitted outcome, ?_⟩
  cases call with
  | write request =>
      cases outcome with
      | write outcome => exact record_advanced admitted outcome
  | initializeFilesystem => exact .same
  | read => exact .same
  | readDirectory => exact .same
  | delete => exact absurd admitted not_false

end HexOS.Fat32
