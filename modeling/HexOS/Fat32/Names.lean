import HexOS.Fat32.RoundTrip

/-!
Names within one directory.

A write refuses a name that a live slot carries, but it asks `isExist`, which
gives 0 both when no slot matches and when slot 0 does: below a directory's own
name duplicates get in. A folder also keeps whatever the cluster it takes held
in the slots behind its own. `Distinguishes` excludes these two cases, and the
names of a session stay distinct exactly when all its writes meet it.
-/

namespace HexOS.Fat32

open BoundedScan PartialRuns

/-- No two live slots behind slot 0 share name and ext. -/
def UniqueNames (table : FAT32DirectoryTable) : Prop :=
  ∀ i j : Fin 64, 1 ≤ i.val → 1 ≤ j.val → i ≠ j → Live (table i) → Live (table j) →
    ¬ ((table i).name = (table j).name ∧ (table i).ext = (table j).ext)

/-- A live slot behind slot 0 has the requested name: for a folder the name
alone, for a file name and ext. -/
def NameTaken (request : FAT32DriverRequest) (table : FAT32DirectoryTable) : Prop :=
  ∃ i : Fin 64, 1 ≤ i.val ∧ Live (table i) ∧ existMatch request (table i) = true

def UniqueDirectories (s : Session) : Prop :=
  ∀ p ∈ s.directories, UniqueNames (tableOf (s.driver.disk p.val))

/-- What one call should keep: all directories have distinct names, and a write
of a name that is taken returns 1 and changes nothing. -/
structure NamesKept (s : Session) (call : Call) (reply : Reply) (t : Session) : Prop where
  unique : UniqueDirectories t
  refused : ∀ request, call = .write request → LiveParent s request →
    NameTaken request (parentTable s.driver.disk request.parentClusterNumber) →
    reply.code = 1 ∧ t.driver.volume = s.driver.volume

/-- A name that slot 0 carries is not taken behind it, and a new folder gets a
cluster whose leftover slots have distinct names. -/
def Distinguishes (s : Session) : Call → Prop
  | .write request => LiveParent s request →
      let table := parentTable s.driver.disk request.parentClusterNumber
      (existMatch request (table 0) = true → ¬ NameTaken request table) ∧
        (request.bufferSize = 0 → isExist request table = 0 → (∃ k, FirstSlot table k) →
          ∀ c, FirstFree s.driver.fatTable c → UniqueNames (tableOf (s.driver.disk c.val)))
  | _ => True

/-! ### One entry -/

theorem existMatch_iff {request : FAT32DriverRequest} {entry : FAT32DirectoryEntry} :
    existMatch request entry = true ↔
      entry.name = request.name ∧ (request.bufferSize ≠ 0 → entry.ext = request.ext) := by
  unfold existMatch
  split
  · rename_i folder
    simp [folder]
  · rename_i file
    simp [file]

/-- A new entry whose name is not taken keeps names distinct. -/
theorem uniqueNames_writeEntry {request : FAT32DriverRequest} {table : FAT32DirectoryTable}
    (unique : UniqueNames table) (fresh : ¬ NameTaken request table) (cluster : UInt32)
    {k : Fin 64} : UniqueNames (writeEntry request table cluster k) := by
  -- what the new entry shares with a live slot, `existMatch` compares
  have clash : ∀ j : Fin 64, 1 ≤ j.val → j ≠ k → Live (table j) →
      ¬ ((writeEntry request table cluster k k).name = (table j).name ∧
        (writeEntry request table cluster k k).ext = (table j).ext) := by
    rintro j behind - live ⟨name, ext⟩
    refine fresh ⟨j, behind, live, existMatch_iff.mpr ⟨?_, fun file => ?_⟩⟩
    · rw [← name, writeEntry, Function.update_self]
      split <;> rfl
    · rw [← ext, writeEntry, Function.update_self, if_neg file]
  intro i j hi hj differ liveI liveJ
  by_cases here : i = k
  · subst here
    have other : j ≠ i := fun same => differ same.symm
    rw [writeEntry_of_ne other] at liveJ ⊢
    exact clash j hj other liveJ
  · rw [writeEntry_of_ne here] at liveI ⊢
    by_cases there : j = k
    · subst there
      rintro ⟨name, ext⟩
      exact clash i hi here liveI ⟨name.symm, ext.symm⟩
    · rw [writeEntry_of_ne there] at liveJ ⊢
      exact unique i j hi hj differ liveI liveJ

theorem uniqueNames_congr {table table' : FAT32DirectoryTable}
    (same : ∀ i : Fin 64, 1 ≤ i.val → table' i = table i) :
    UniqueNames table' ↔ UniqueNames table := by
  constructor
  · intro unique i j hi hj
    rw [← same i hi, ← same j hj]
    exact unique i j hi hj
  · intro unique i j hi hj
    rw [same i hi, same j hj]
    exact unique i j hi hj

theorem uniqueNames_of_empty {table : FAT32DirectoryTable} (empty : ∀ i ≠ 0, table i = .empty) :
    UniqueNames table := by
  intro i j hi _ _ live
  rw [empty i (ne_zero_of_one_le hi)] at live
  exact absurd live (by decide)

/-! ### One write -/

theorem isExist_ne_zero {request : FAT32DriverRequest} {table : FAT32DirectoryTable}
    (own : existMatch request (table 0) ≠ true) (taken : NameTaken request table) :
    isExist request table ≠ 0 := by
  obtain ⟨i, -, -, matched⟩ := taken
  intro absent
  rcases isExist_eq_zero_iff.mp absent with header | none
  · exact own header
  · rw [none i] at matched
    cases matched

/-- A write that goes through meets a name that is not taken. -/
theorem fresh_of_absent {request : FAT32DriverRequest} {table : FAT32DirectoryTable}
    (own : existMatch request (table 0) = true → ¬ NameTaken request table)
    (absent : isExist request table = 0) : ¬ NameTaken request table := by
  intro taken
  by_cases header : existMatch request (table 0) = true
  · exact own header taken
  · exact isExist_ne_zero header taken absent

theorem storeEntry_unique {s : Session} {request : FAT32DriverRequest} {c : Fin 512} {k : Fin 64}
    (unique : UniqueDirectories s)
    (fresh : ¬ NameTaken request (parentTable s.driver.disk request.parentClusterNumber))
    {q : Fin 512} (directory : q ∈ s.directories) :
    UniqueNames (tableOf (storeEntry request s.driver.disk c k q.val)) := by
  by_cases here : q.val = request.parentClusterNumber.toNat
  · rw [here, storeEntry_parent]
    refine uniqueNames_writeEntry ?_ fresh _
    rw [parentTable, ← here]
    exact unique q directory
  · rw [storeEntry_of_ne here]
    exact unique q directory

/-- The table of a new folder: its header, and what its cluster held. -/
theorem makeFolder_table {s : Session} {request : FAT32DriverRequest} {c : Fin 512} {k : Fin 64}
    (grounded : Grounded s.directories s.driver.volume) (live : LiveParent s request)
    (first : FirstFree s.driver.fatTable c) :
    tableOf ((Volume.makeFolder request c
        ⟨s.driver.fatTable, storeEntry request s.driver.disk c k⟩).disk c.val) =
      initDirectoryTable (tableOf (s.driver.disk c.val)) request.name
        request.parentClusterNumber := by
  obtain ⟨p, member, parent⟩ := live.index
  have lower := first.above_root grounded.root
  have apart : c.val ≠ request.parentClusterNumber.toNat := by
    intro same
    obtain rfl : c = p := Fin.ext (same.trans parent)
    exact (grounded.used c member).2 first.spec.2.1
  rw [makeFolder_own request (by omega)]
  simp only [storeEntry_of_ne apart]

theorem makeFolder_unique_iff {s : Session} {request : FAT32DriverRequest} {c : Fin 512} {k : Fin 64}
    (grounded : Grounded s.directories s.driver.volume) (live : LiveParent s request)
    (first : FirstFree s.driver.fatTable c) :
    UniqueNames (tableOf ((Volume.makeFolder request c
        ⟨s.driver.fatTable, storeEntry request s.driver.disk c k⟩).disk c.val)) ↔
      UniqueNames (tableOf (s.driver.disk c.val)) := by
  rw [makeFolder_table grounded live first]
  refine uniqueNames_congr fun i behind => ?_
  rw [initDirectoryTable_of_ne (ne_zero_of_one_le behind)]

theorem makeFile_code (request : FAT32DriverRequest) (c : Fin 512) (n : Nat) (size : UInt32)
    (disk : Disk) : (Volume.makeFile request c n size disk).1 = 0 ∨
      (Volume.makeFile request c n size disk).1 = -1 := by
  unfold Volume.makeFile
  simp only
  split
  · exact .inl rfl
  · exact .inr rfl

section

variable {s : Session} {request : FAT32DriverRequest} {code : Int} {d : Driver}

/-- A write below slot 0's name that is taken behind it is not refused. -/
theorem not_refused (accepts : Accepts s.driver.disk request.parentClusterNumber)
    (absent : isExist request (parentTable s.driver.disk request.parentClusterNumber) = 0)
    (outcome : WriteOutcome request s.driver.volume code d.volume) : code ≠ 1 := by
  generalize d.volume = v' at outcome
  cases outcome with
  | invalidParent rejected => exact absurd accepts rejected
  | taken _ exist => exact absurd absent exist
  | full => decide
  | folder => decide
  | file =>
      rcases makeFile_code request _ 0 request.bufferSize _ with zero | minus
      · rw [zero]
        decide
      · rw [minus]
        decide

theorem refused_of_taken (accepts : Accepts s.driver.disk request.parentClusterNumber)
    (exist : isExist request (parentTable s.driver.disk request.parentClusterNumber) ≠ 0)
    (outcome : WriteOutcome request s.driver.volume code d.volume) :
    code = 1 ∧ d.volume = s.driver.volume := by
  generalize d.volume = v' at outcome ⊢
  cases outcome with
  | invalidParent rejected => exact absurd accepts rejected
  | taken => exact ⟨rfl, rfl⟩
  | full _ absent => exact absurd absent exist
  | folder _ absent => exact absurd absent exist
  | file _ absent => exact absurd absent exist

theorem FirstFree.unique {fat : FAT32FileAllocationTable} {c c' : Fin 512} (first : FirstFree fat c)
    (first' : FirstFree fat c') : c = c' :=
  Option.some.inj (Eq.trans (Eq.symm first) first')

/-- Distinct names after the write mean distinct names in what a new folder took. -/
theorem leftover_unique (readable : Readable s) (live : LiveParent s request)
    (outcome : WriteOutcome request s.driver.volume code d.volume)
    (unique : UniqueDirectories (s.record request code d)) (folder : request.bufferSize = 0)
    (absent : isExist request (parentTable s.driver.disk request.parentClusterNumber) = 0)
    (slot : ∃ k, FirstSlot (parentTable s.driver.disk request.parentClusterNumber) k) {c : Fin 512}
    (first : FirstFree s.driver.fatTable c) : UniqueNames (tableOf (s.driver.disk c.val)) := by
  have accepts := readable.accepts live
  simp only [UniqueDirectories, record_driver, record_directories] at unique
  have image : d.disk = d.volume.disk := rfl
  rw [image] at unique
  generalize d.volume = v' at outcome unique
  cases outcome with
  | invalidParent rejected => exact absurd accepts rejected
  | taken _ exist => exact absurd absent exist
  | full _ _ none => exact absurd none (not_or.mpr ⟨not_not.mpr ⟨c, first⟩, not_not.mpr slot⟩)
  | file _ _ _ _ size => exact absurd folder size
  | @folder c' k _ _ first' =>
      obtain rfl : c = c' := first.unique first'
      have found : findEmptyCluster s.driver.fatTable = c := first.find
      refine (makeFolder_unique_iff readable.sound.grounded live first).mp (unique c ?_)
      simp [folder, found]

theorem unique_record (readable : Readable s) (unique : UniqueDirectories s)
    (admitted : Admitted s (.write request)) (distinguishes : Distinguishes s (.write request))
    (outcome : WriteOutcome request s.driver.volume code d.volume) :
    UniqueDirectories (s.record request code d) := by
  have grounded := readable.sound.grounded
  simp only [UniqueDirectories, record_driver, record_directories]
  have image : d.disk = d.volume.disk := rfl
  rw [image]
  have before : ∀ p ∈ s.directories, UniqueNames (tableOf (s.driver.volume.disk p.val)) := unique
  generalize d.volume = v' at outcome
  cases outcome with
  | invalidParent => simpa using before
  | taken => simpa using before
  | full => simpa using before
  | @folder c k accepts absent first slot size =>
      have live := admitted accepts
      obtain ⟨own, leftover⟩ := distinguishes live
      have found : findEmptyCluster s.driver.fatTable = c := first.find
      simp only [size, and_self, if_true, found]
      intro q directory
      rcases List.mem_append.mp directory with old | new
      · rw [makeFolder_directory grounded first old]
        exact storeEntry_unique unique (fresh_of_absent own absent) old
      · rw [List.mem_singleton.mp new]
        exact (makeFolder_unique_iff grounded live first).mpr
          (leftover size absent ⟨k, slot⟩ c first)
  | @file c k accepts absent first slot size =>
      obtain ⟨own, -⟩ := distinguishes (admitted accepts)
      simp only [size, and_false, if_false]
      intro q directory
      rw [makeFile_directory grounded accepts first directory]
      exact storeEntry_unique unique (fresh_of_absent own absent) directory

end

/-! ### Runs -/

/-- **One admitted call keeps names distinct, and refuses those taken, exactly
when it distinguishes them.** -/
theorem namesKept_iff {fuel : Nat} {s t : Session} {call : Call} {reply : Reply}
    (readable : Readable s) (unique : UniqueDirectories s) (admitted : Admitted s call)
    (taken : sessionStep fuel s call = .ok (reply, t)) :
    NamesKept s call reply t ↔ Distinguishes s call := by
  obtain ⟨d, stepped, rfl⟩ := sessionStep_ok taken
  have outcome := step_outcome stepped
  have unchanged : d.volume = s.driver.volume → (∀ request, call ≠ .write request) →
      NamesKept s call reply { s with driver := d } := by
    intro volume notWrite
    have image : d.disk = s.driver.disk := congrArg Volume.disk volume
    refine ⟨fun p member => ?_, fun request same => absurd same (notWrite request)⟩
    simp only [image]
    exact unique p member
  cases call with
  | write request =>
      cases outcome with
      | write outcome =>
          constructor
          · intro kept live
            have accepts := readable.accepts live
            refine ⟨fun own clash => ?_, fun folder absent slot c first =>
              leftover_unique readable live outcome kept.unique folder absent slot first⟩
            have absent := isExist_eq_zero_iff.mpr (.inl own)
            exact not_refused accepts absent outcome (kept.refused request rfl live clash).1
          · intro distinguishes
            refine ⟨unique_record readable unique admitted distinguishes outcome, ?_⟩
            rintro _ ⟨⟩ live clash
            have own : existMatch request
                (parentTable s.driver.disk request.parentClusterNumber 0) ≠ true :=
              fun header => (distinguishes live).1 header clash
            simp only [Session.advance, record_driver]
            exact refused_of_taken (readable.accepts live) (isExist_ne_zero own clash) outcome
  | delete => exact absurd admitted not_false
  | _ =>
      have ground := readable.sound.grounded
      exact ⟨fun _ => trivial, fun _ => unchanged (outcome.unchanged ground.signed ground.synced
        (fun _ => Call.noConfusion) fun _ _ => Call.noConfusion) fun _ => Call.noConfusion⟩

theorem uniqueDirectories_formatted {disk : Disk} (unformatted : Unformatted disk) :
    UniqueDirectories (formatted disk) := by
  intro p member
  obtain ⟨-, image⟩ := booted_volume unformatted
  have two : (2 : Fin 512).val = 2 := rfl
  simp only [formatted, List.mem_singleton] at member
  rw [member, two, formatted_driver, image, freshDisk_root]
  exact uniqueNames_of_empty fun _ => rootTable_of_ne

/-- **No duplicate names.** From a freshly formatted disk, an admitted session
has distinct names in every state, and refuses every name that is taken, exactly
when all its writes distinguish them. -/
theorem namesKept_iff_distinguishes {fuel : Nat} {disk : Disk} (unformatted : Unformatted disk)
    {calls : List Call} (admitted : Guarded (sessionStep fuel) Admitted (formatted disk) calls) :
    UniqueDirectories (formatted disk) ∧
      (Along (sessionStep fuel) NamesKept (formatted disk) calls ↔
        Guarded (sessionStep fuel) Distinguishes (formatted disk) calls) := by
  refine ⟨uniqueDirectories_formatted unformatted, ?_⟩
  refine along_iff_guarded_of (I := fun s => Readable s ∧ UniqueDirectories s)
    ?_ ?_ ⟨readable_formatted unformatted, uniqueDirectories_formatted unformatted⟩ admitted
  · rintro s call reply t ⟨readable, unique⟩ allowed taken
    exact namesKept_iff readable unique allowed taken
  · rintro s call reply t ⟨readable, unique⟩ allowed distinguishes taken
    exact ⟨readable_step readable allowed taken,
      ((namesKept_iff readable unique allowed taken).mpr distinguishes).unique⟩

theorem namesKept_iff_distinguishes_note :
    UniqueDirectories (formatted blankDisk) ∧
      (Along (sessionStep 1) NamesKept (formatted blankDisk) [.write note] ↔
        Guarded (sessionStep 1) Distinguishes (formatted blankDisk) [.write note]) :=
  namesKept_iff_distinguishes blankDisk_unformatted (note_admitted 1)

/-! ### A name stored twice -/

/-- A file of five bytes that bears the root directory's own name. -/
def rootFile : FAT32DriverRequest := ⟨fun _ => 0x61, rootName, fun _ => 0, rootClusterNumber, 5⟩

/-- A second file below slot 0's name stands beside the first one. -/
theorem doubled {s : Session} {request : FAT32DriverRequest} (readable : Readable s)
    (live : LiveParent s request) (size : request.bufferSize ≠ 0)
    (own : existMatch request (parentTable s.driver.disk request.parentClusterNumber 0) = true)
    (clash : NameTaken request (parentTable s.driver.disk request.parentClusterNumber))
    (space : ∃ c, FirstFree s.driver.fatTable c)
    (room : ∃ k, FirstSlot (parentTable s.driver.disk request.parentClusterNumber) k) :
    ¬ UniqueNames (parentTable (write request s.driver).2.disk request.parentClusterNumber) := by
  have accepts := readable.accepts live
  have outcome := write_outcome request s.driver
  have image : (write request s.driver).2.disk = (write request s.driver).2.volume.disk := rfl
  rw [image]
  generalize (write request s.driver).2.volume = v' at outcome
  generalize (write request s.driver).1 = code at outcome
  cases outcome with
  | invalidParent rejected => exact absurd accepts rejected
  | taken _ exist => exact absurd (isExist_eq_zero_iff.mpr (.inl own)) exist
  | full _ _ none => exact absurd none (not_or.mpr ⟨not_not.mpr space, not_not.mpr room⟩)
  | folder _ _ _ _ folder => exact absurd folder size
  | @file c k _ _ first slot =>
      have table := makeFile_parent (k := k) readable.sound.grounded live accepts first
      simp only [Driver.volume] at slot ⊢
      rw [table]
      obtain ⟨i, behind, liveI, matched⟩ := clash
      obtain ⟨above, free, -⟩ := slot.spec
      have other : i ≠ k := fun same => free (same ▸ liveI)
      obtain ⟨name, ext⟩ := existMatch_iff.mp matched
      obtain ⟨newLive, newName, newExt, -⟩ := writeEntry_file size
        (parentTable s.driver.disk request.parentClusterNumber) c k
      intro unique
      refine unique i k behind above other ?_ newLive ?_
      · rwa [writeEntry_of_ne other]
      · rw [writeEntry_of_ne other, newName, newExt]
        exact ⟨name, ext size⟩

/-- Storing that file twice in a fresh root gives two live slots with its name. -/
theorem namesKept_counterexample :
    ∃ replies s, run (sessionStep 1) (formatted blankDisk) [.write rootFile, .write rootFile] =
        .ok (replies, s) ∧
      Guarded (sessionStep 1) Admitted (formatted blankDisk) [.write rootFile, .write rootFile] ∧
      2 ∈ s.directories ∧ ¬ UniqueNames (tableOf (s.driver.disk 2)) := by
  have two : rootFile.parentClusterNumber.toNat = 2 := rfl
  have root : rootFile.parentClusterNumber = rootClusterNumber := rfl
  have nonempty : rootFile.name ≠ fun _ => 0 := by decide
  have written : (write rootFile (booted blankDisk)).1 = 0 :=
    booted_write_small blankDisk_unformatted root nonempty (by decide)
  have table := booted_write_table blankDisk_unformatted root nonempty
  -- the first file leaves cluster 4 free
  have space : (write rootFile (booted blankDisk)).2.fatTable 4 = fatEmptyEntry :=
    (booted_write_fat blankDisk_unformatted root nonempty (by decide) (by decide)).trans
      (freshFat_of_above (by decide))
  generalize stored : write rootFile (booted blankDisk) = r at written table space
  have admittedFirst : Admitted (formatted blankDisk) (.write rootFile) :=
    fun _ => ⟨2, List.mem_singleton_self _, rfl⟩
  have first : sessionStep 1 (formatted blankDisk) (.write rootFile) =
      .ok (.status 0, (formatted blankDisk).record rootFile 0 r.2) := by
    simp only [sessionStep, step, formatted_driver, stored, written, Session.advance, Reply.status]
  have readable := readable_step (readable_formatted blankDisk_unformatted) admittedFirst first
  have driver : ((formatted blankDisk).record rootFile 0 r.2).driver = r.2 := record_driver _ _ _ _
  have directory : 2 ∈ ((formatted blankDisk).record rootFile 0 r.2).directories :=
    mem_record (List.mem_singleton_self _)
  generalize (formatted blankDisk).record rootFile 0 r.2 = s at first readable driver directory
  have live : LiveParent s rootFile := ⟨2, directory, rfl⟩
  have entered : parentTable s.driver.disk rootFile.parentClusterNumber =
      writeEntry rootFile rootTable (num 3) 1 := by
    rw [parentTable, two, driver, table]
  have twice : ¬ UniqueNames
      (parentTable (write rootFile s.driver).2.disk rootFile.parentClusterNumber) := by
    refine doubled readable live (by decide) ?_ ?_ (exists_firstFree (c := 4) (by decide) ?_)
      (exists_firstSlot (k := 2) (by decide) ?_)
    · rw [entered]
      decide
    · rw [entered]
      exact ⟨1, le_rfl, by decide, by decide⟩
    · rw [driver, space]
    · rw [entered]
      decide
  refine ⟨[.status 0, .status (write rootFile s.driver).1],
    s.record rootFile (write rootFile s.driver).1 (write rootFile s.driver).2, ?_, ?_,
    mem_record directory, ?_⟩
  · rw [run, first]
    rfl
  · intro reply t taken
    rw [first] at taken
    cases taken
    exact ⟨admittedFirst, fun _ _ _ => ⟨fun _ => live, trivial⟩⟩
  · rw [record_driver, ← two]
    exact twice

end HexOS.Fat32
