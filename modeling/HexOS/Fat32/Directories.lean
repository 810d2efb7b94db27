import HexOS.Fat32.Lookup

/-!
Reading a directory.

`read_directory` compares the names of all 64 slots, slot 0 and the unused ones
included, and copies as many bytes as the slot it finds records. `write` records
0 for a directory, so nothing is copied. The codes are those of `read`, not the
ones its header lists. `deliversDirectory_iff` says in which states and for which
names the promise of the header is kept all the same.
-/

namespace HexOS.Fat32

open BoundedScan

/-! ### How the call ends -/

section

variable {request : FAT32DriverRequest} {d : Driver} {beyond : Nat → UInt8}

/-- What the codes other than -1 and 3 say about the slot that was found. -/
theorem readDirectory_found {code : Int} (result : (readDirectory request beyond d).1.code = code)
    (inside : code ≠ -1) (found : code ≠ 3) :
    Accepts d.disk request.parentClusterNumber ∧
      ∃ i, directoryHit request (parentTable d.disk request.parentClusterNumber) = some i ∧
        (request.bufferSize < (parentTable d.disk request.parentClusterNumber i).filesize ↔
          code = 2) := by
  by_cases accepts : Accepts d.disk request.parentClusterNumber
  · refine ⟨accepts, ?_⟩
    cases hit : directoryHit request (parentTable d.disk request.parentClusterNumber) with
    | none =>
        rw [readDirectory_missed accepts hit] at result
        exact absurd result.symm found
    | some i =>
        refine ⟨i, rfl, ?_⟩
        rw [readDirectory_hit accepts hit] at result
        split at result
        · rename_i large
          exact iff_of_true large result.symm
        · rename_i small
          exact iff_of_false small fun two => absurd (result.trans two) (by simp)
  · rw [readDirectory_rejected accepts] at result
    exact absurd result.symm inside

/-- The code the header gives for a file is never returned. -/
theorem readDirectory_code_ne_one : (readDirectory request beyond d).1.code ≠ 1 := by
  intro one
  obtain ⟨accepts, i, hit, sizes⟩ := readDirectory_found one (by decide) (by decide)
  rw [readDirectory_hit accepts hit, if_neg (mt sizes.mp (by decide))] at one
  exact absurd one (by simp)

end

/-! ### The documented behaviour -/

/-- A live slot behind slot 0 has the requested name. -/
structure NamedSlot (request : FAT32DriverRequest) (table : FAT32DirectoryTable) (m : Fin 64) :
    Prop where
  behind : 1 ≤ m.val
  live : Live (table m)
  name : (table m).name = request.name

/-- The caller gets the cluster of the subdirectory it names, or the code for
what the name stands for instead. -/
structure DeliversDirectory (request : FAT32DriverRequest) (d : Driver) : Prop where
  directory : ∀ m, NamedSlot request (parentTable d.disk request.parentClusterNumber) m →
    (parentTable d.disk request.parentClusterNumber m).attribute = attrSubdirectory →
    ∀ beyond, (readDirectory request beyond d).1.code = 0 ∧
      (readDirectory request beyond d).1.length = 2048 ∧
      ∀ j : Fin 2048, (readDirectory request beyond d).1.byte j.val = readClusters d.disk
        (entryCluster (parentTable d.disk request.parentClusterNumber m)) j
  file : (∃ m, NamedSlot request (parentTable d.disk request.parentClusterNumber) m) →
    (∀ m, NamedSlot request (parentTable d.disk request.parentClusterNumber) m →
      (parentTable d.disk request.parentClusterNumber m).attribute ≠ attrSubdirectory) →
    ∀ beyond, (readDirectory request beyond d).1.code = 1
  missing : (∀ m, ¬ NamedSlot request (parentTable d.disk request.parentClusterNumber) m) →
    ∀ beyond, (readDirectory request beyond d).1.code = 2

/-- What has to be in the table for that. -/
structure RecordsDirectory (request : FAT32DriverRequest) (disk : Disk) : Prop where
  directory : ∀ m, NamedSlot request (parentTable disk request.parentClusterNumber) m →
    (parentTable disk request.parentClusterNumber m).attribute = attrSubdirectory →
    Accepts disk request.parentClusterNumber ∧
      ∃ i, directoryHit request (parentTable disk request.parentClusterNumber) = some i ∧
        (parentTable disk request.parentClusterNumber i).filesize = 2048 ∧
        2048 ≤ request.bufferSize ∧
        readClusters disk (parentTable disk request.parentClusterNumber i).clusterLow.toUInt32 =
          readClusters disk (entryCluster (parentTable disk request.parentClusterNumber m))
  noFile : (∃ m, NamedSlot request (parentTable disk request.parentClusterNumber) m) →
    ∃ m, NamedSlot request (parentTable disk request.parentClusterNumber) m ∧
      (parentTable disk request.parentClusterNumber m).attribute = attrSubdirectory
  missing : (∀ m, ¬ NamedSlot request (parentTable disk request.parentClusterNumber) m) →
    Accepts disk request.parentClusterNumber ∧
      ∃ i, directoryHit request (parentTable disk request.parentClusterNumber) = some i ∧
        request.bufferSize < (parentTable disk request.parentClusterNumber i).filesize

/-- **A directory is delivered exactly when** the first slot of its name records
2048 bytes and the directory's cluster. -/
theorem deliversDirectory_iff (request : FAT32DriverRequest) (d : Driver) :
    DeliversDirectory request d ↔ RecordsDirectory request d.disk := by
  constructor
  · intro delivers
    refine ⟨fun m named kind => ?_, fun named => ?_, fun missing => ?_⟩
    · obtain ⟨code, length, bytes⟩ := delivers.directory m named kind fun _ => 0
      obtain ⟨accepts, i, hit, sizes⟩ := readDirectory_found code (by decide) (by decide)
      have small := mt sizes.mp (by decide)
      rw [readDirectory_hit accepts hit, if_neg small] at length bytes
      have filesize : (parentTable d.disk request.parentClusterNumber i).filesize = 2048 :=
        UInt32.toNat_inj.mp length
      refine ⟨accepts, i, hit, filesize, ?_, ?_⟩
      · rw [← filesize]
        exact UInt32.not_lt.mp small
      · funext j
        have byte := bytes j
        simp only [fromClusterBuf_fin] at byte
        exact byte
    · by_contra noDirectory
      have file := delivers.file named (fun m slot kind => noDirectory ⟨m, slot, kind⟩) fun _ => 0
      exact readDirectory_code_ne_one file
    · obtain ⟨accepts, i, hit, sizes⟩ := readDirectory_found
        (delivers.missing missing fun _ => 0) (by decide) (by decide)
      exact ⟨accepts, i, hit, sizes.mpr rfl⟩
  · intro records
    refine ⟨fun m named kind beyond => ?_, fun named noDirectory => ?_, fun missing beyond => ?_⟩
    · obtain ⟨accepts, i, hit, filesize, size, cluster⟩ := records.directory m named kind
      have small : ¬ request.bufferSize <
          (parentTable d.disk request.parentClusterNumber i).filesize := by
        rw [filesize]
        exact UInt32.not_lt.mpr size
      rw [readDirectory_hit accepts hit, if_neg small]
      refine ⟨rfl, by rw [filesize]; rfl, fun j => ?_⟩
      rw [← cluster]
      exact fromClusterBuf_fin _ _ j
    · obtain ⟨m, slot, kind⟩ := records.noFile named
      exact absurd kind (noDirectory m slot)
    · obtain ⟨accepts, i, hit, large⟩ := records.missing missing
      rw [readDirectory_hit accepts hit, if_pos large]
      rfl

/-! ### A directory that is not delivered -/

/-- The directory `docs` asked for with a buffer of one cluster. -/
def docsTable : FAT32DriverRequest := { docs with bufferSize := 2048 }

/-- The folder `docs`, read as the directory it is: 0 is returned and nothing
copied. -/
theorem deliversDirectory_counterexample :
    LiveDirectory (write docs (booted blankDisk)).2.disk docsTable.parentClusterNumber ∧
      (∀ beyond, (readDirectory docsTable beyond (write docs (booted blankDisk)).2).1.code = 0 ∧
        (readDirectory docsTable beyond (write docs (booted blankDisk)).2).1.length = 0) ∧
      ¬ DeliversDirectory docsTable (write docs (booted blankDisk)).2 := by
  have table := @booted_write_table blankDisk blankDisk_unformatted docs rfl (by decide)
  generalize (write docs (booted blankDisk)).2 = d at table ⊢
  obtain ⟨accepts, entered⟩ := @root_of_written d.disk docs docsTable rfl table
  have hit : directoryHit docsTable (parentTable d.disk docsTable.parentClusterNumber) = some 1 := by
    rw [entered]
    exact (firstFrom_skip (i := (0 : Fin 64)) (by decide)).trans
      (firstFrom_here (i := (1 : Fin 64)) (by decide))
  have empty : ∀ beyond, (readDirectory docsTable beyond d).1.code = 0 ∧
      (readDirectory docsTable beyond d).1.length = 0 := by
    intro beyond
    rw [readDirectory_hit accepts hit, entered, if_neg (by decide)]
    exact ⟨rfl, rfl⟩
  refine ⟨.root, empty, fun delivers => ?_⟩
  have slot : NamedSlot docsTable (parentTable d.disk docsTable.parentClusterNumber) 1 := by
    rw [entered]
    exact ⟨by decide, by decide, by decide⟩
  obtain ⟨-, length, -⟩ := delivers.directory 1 slot (by rw [entered]; decide) fun _ => 0
  exact absurd (length.symm.trans (empty _).2) (by decide)

end HexOS.Fat32
