import HexOS.Fat32.Parents

/-!
The return codes of a read.

The loop of `read` compares all 64 slots, slot 0 and the unused ones included,
and looks at nothing but name and ext. `ReadOutcome` lists how a read ends. The
codes are those the header lists exactly when the slot it finds stands for the
live one that was asked for, and that one is a file (`classifies_iff`).
-/

namespace HexOS.Fat32

open BoundedScan

/-! ### How a read ends -/

/-- The slot the loop of `read` breaks at. -/
def readHit (request : FAT32DriverRequest) (table : FAT32DirectoryTable) : Option (Fin 64) :=
  firstFrom 0 fun i => carries request (table i)

inductive ReadOutcome (request : FAT32DriverRequest) (disk : Disk) : Reply → Prop where
  | invalidParent : ¬ Accepts disk request.parentClusterNumber →
      ReadOutcome request disk (.status (-1))
  | notFound : Accepts disk request.parentClusterNumber →
      readHit request (parentTable disk request.parentClusterNumber) = none →
      ReadOutcome request disk (.status 3)
  | tooLarge {i : Fin 64} : Accepts disk request.parentClusterNumber →
      readHit request (parentTable disk request.parentClusterNumber) = some i →
      request.bufferSize < (parentTable disk request.parentClusterNumber i).filesize →
      ReadOutcome request disk (.status 2)
  | delivered {i : Fin 64} : Accepts disk request.parentClusterNumber →
      readHit request (parentTable disk request.parentClusterNumber) = some i →
      ¬ request.bufferSize < (parentTable disk request.parentClusterNumber i).filesize →
      ReadOutcome request disk ⟨0, 512, peek (readClusters disk
        (parentTable disk request.parentClusterNumber i).clusterLow.toUInt32)⟩

theorem read_outcome (request : FAT32DriverRequest) (d : Driver) :
    ReadOutcome request d.disk (read request d).1 := by
  by_cases accepts : Accepts d.disk request.parentClusterNumber
  · have admitted := accepts.admitted
    rw [accepts.readClusters] at admitted
    cases hit : readHit request (parentTable d.disk request.parentClusterNumber) with
    | none =>
        have result : (read request d).1 = .status 3 := by
          simp only [readHit, carries] at hit
          simp only [read, accepts.readClusters, if_neg admitted, hit]
        rw [result]
        exact .notFound accepts hit
    | some i =>
        by_cases large :
            request.bufferSize < (parentTable d.disk request.parentClusterNumber i).filesize
        · have result : (read request d).1 = .status 2 := by
            have found := hit
            simp only [readHit, carries] at found
            simp only [read, accepts.readClusters, if_neg admitted, found, if_pos large]
          rw [result]
          exact .tooLarge accepts hit large
        · rw [read_hit accepts hit (UInt32.not_lt.mp large)]
          exact .delivered accepts hit large
  · have result : (read request d).1 = .status (-1) := by
      simp only [read, if_pos ((parent_rejected_iff d.disk request.parentClusterNumber).mpr accepts)]
    rw [result]
    exact .invalidParent accepts

section

variable {request : FAT32DriverRequest} {disk : Disk} {reply : Reply}

theorem ReadOutcome.invalid_iff (outcome : ReadOutcome request disk reply) :
    reply.code = -1 ↔ ¬ Accepts disk request.parentClusterNumber := by
  cases outcome with
  | invalidParent rejected => exact ⟨fun _ => rejected, fun _ => rfl⟩
  | notFound accepts => exact ⟨fun code => absurd code (by decide), fun no => absurd accepts no⟩
  | tooLarge accepts => exact ⟨fun code => absurd code (by decide), fun no => absurd accepts no⟩
  | delivered accepts => exact ⟨fun code => absurd code (by simp), fun no => absurd accepts no⟩

theorem ReadOutcome.notFound_iff (outcome : ReadOutcome request disk reply)
    (accepts : Accepts disk request.parentClusterNumber) :
    reply.code = 3 ↔ readHit request (parentTable disk request.parentClusterNumber) = none := by
  cases outcome with
  | invalidParent rejected => exact absurd accepts rejected
  | notFound _ none => exact ⟨fun _ => none, fun _ => rfl⟩
  | tooLarge _ hit =>
      rw [hit]
      exact ⟨fun code => absurd code (by decide), fun no => absurd no (Option.some_ne_none _)⟩
  | delivered _ hit =>
      rw [hit]
      exact ⟨fun code => absurd code (by simp), fun no => absurd no (Option.some_ne_none _)⟩

theorem ReadOutcome.hit_code (outcome : ReadOutcome request disk reply)
    (accepts : Accepts disk request.parentClusterNumber) {i : Fin 64}
    (hit : readHit request (parentTable disk request.parentClusterNumber) = some i) :
    reply.code =
      if request.bufferSize < (parentTable disk request.parentClusterNumber i).filesize then 2
      else 0 := by
  cases outcome with
  | invalidParent rejected => exact absurd accepts rejected
  | notFound _ none => exact absurd (hit.symm.trans none) (Option.some_ne_none i)
  | tooLarge _ found large =>
      obtain rfl := Option.some.inj (hit.symm.trans found)
      rw [if_pos large]
      rfl
  | delivered _ found small =>
      obtain rfl := Option.some.inj (hit.symm.trans found)
      rw [if_neg small]

/-- The code the header gives for a directory is never returned. -/
theorem ReadOutcome.code_ne_one (outcome : ReadOutcome request disk reply) : reply.code ≠ 1 := by
  cases outcome with
  | invalidParent => decide
  | notFound => decide
  | tooLarge => decide
  | delivered => simp

theorem ReadOutcome.buffer (outcome : ReadOutcome request disk reply) (failed : reply.code ≠ 0) :
    reply.length = 0 := by
  cases outcome with
  | invalidParent => rfl
  | notFound => rfl
  | tooLarge => rfl
  | delivered => exact absurd rfl failed

end

/-! ### The documented codes -/

/-- The first live slot behind slot 0 that carries the name and the ext. -/
def askedFor (request : FAT32DriverRequest) (table : FAT32DirectoryTable) : Option (Fin 64) :=
  firstFrom 1 fun i => decide (Live (table i)) && carries request (table i)

/-- The code says what became of the request, the caller's buffer is left alone
unless it is 0, and the volume always. -/
structure Classifies (request : FAT32DriverRequest) (d : Driver) : Prop where
  invalid : (read request d).1.code = -1 ↔ ¬ LiveDirectory d.disk request.parentClusterNumber
  absent : LiveDirectory d.disk request.parentClusterNumber → ((read request d).1.code = 3 ↔
    askedFor request (parentTable d.disk request.parentClusterNumber) = none)
  directory : LiveDirectory d.disk request.parentClusterNumber → ∀ m,
    askedFor request (parentTable d.disk request.parentClusterNumber) = some m →
    ((read request d).1.code = 1 ↔
      (parentTable d.disk request.parentClusterNumber m).attribute = attrSubdirectory)
  file : LiveDirectory d.disk request.parentClusterNumber → ∀ m,
    askedFor request (parentTable d.disk request.parentClusterNumber) = some m →
    (parentTable d.disk request.parentClusterNumber m).attribute ≠ attrSubdirectory →
    (read request d).1.code =
      if request.bufferSize < (parentTable d.disk request.parentClusterNumber m).filesize then 2
      else 0
  buffer : (read request d).1.code ≠ 0 → (read request d).1.length = 0
  volume : (read request d).2.volume = d.volume

/-- The slot that is found stands for the one asked for: there is none without
the other, and the one asked for is a file whose size compares alike. -/
def FindsAskedFor (request : FAT32DriverRequest) (table : FAT32DirectoryTable) : Prop :=
  (askedFor request table = none → readHit request table = none) ∧
    ∀ m i, askedFor request table = some m → readHit request table = some i →
      (table m).attribute ≠ attrSubdirectory ∧
        (request.bufferSize < (table i).filesize ↔ request.bufferSize < (table m).filesize)

theorem exists_readHit {request : FAT32DriverRequest} {table : FAT32DirectoryTable} {m : Fin 64}
    (asked : askedFor request table = some m) : ∃ i, readHit request table = some i := by
  obtain ⟨-, hit, -⟩ := firstFrom_eq_some_iff.mp asked
  rw [Bool.and_eq_true] at hit
  cases found : readHit request table with
  | none =>
      have miss := firstFrom_eq_none_iff.mp found m (Nat.zero_le _)
      exact absurd (miss.symm.trans hit.2) (by decide)
  | some i => exact ⟨i, rfl⟩

/-- **The codes of a read are the documented ones exactly when the parent check
and the loop find what was asked for.** -/
theorem classifies_iff (request : FAT32DriverRequest) (d : Driver) :
    Classifies request d ↔
      (Accepts d.disk request.parentClusterNumber ↔
        LiveDirectory d.disk request.parentClusterNumber) ∧
      (LiveDirectory d.disk request.parentClusterNumber →
        FindsAskedFor request (parentTable d.disk request.parentClusterNumber)) := by
  have outcome := read_outcome request d
  constructor
  · intro classifies
    have parents : Accepts d.disk request.parentClusterNumber ↔
        LiveDirectory d.disk request.parentClusterNumber :=
      not_iff_not.mp (outcome.invalid_iff.symm.trans classifies.invalid)
    refine ⟨parents, fun live => ⟨fun absent => ?_, fun m i asked hit => ?_⟩⟩
    · exact (outcome.notFound_iff (parents.mpr live)).mp ((classifies.absent live).mpr absent)
    · have file : (parentTable d.disk request.parentClusterNumber m).attribute ≠ attrSubdirectory :=
        fun directory => outcome.code_ne_one ((classifies.directory live m asked).mpr directory)
      have code := classifies.file live m asked file
      rw [outcome.hit_code (parents.mpr live) hit] at code
      refine ⟨file, ?_⟩
      split at code
      · rename_i large
        split at code
        · rename_i large'
          exact ⟨fun _ => large', fun _ => large⟩
        · exact absurd code (by decide)
      · rename_i small
        split at code
        · exact absurd code (by decide)
        · rename_i small'
          exact ⟨fun large => absurd large small, fun large => absurd large small'⟩
  · rintro ⟨parents, finds⟩
    refine ⟨outcome.invalid_iff.trans (not_congr parents), fun live => ?_, fun live m asked => ?_,
      fun live m asked file => ?_, outcome.buffer, read_volume request d⟩
    · refine (outcome.notFound_iff (parents.mpr live)).trans ⟨fun none => ?_, (finds live).1⟩
      cases asked : askedFor request (parentTable d.disk request.parentClusterNumber) with
      | none => rfl
      | some m =>
          obtain ⟨i, hit⟩ := exists_readHit asked
          exact absurd (hit.symm.trans none) (Option.some_ne_none i)
    · obtain ⟨i, hit⟩ := exists_readHit asked
      have file := ((finds live).2 m i asked hit).1
      exact ⟨fun code => absurd code outcome.code_ne_one, fun directory => absurd directory file⟩
    · obtain ⟨i, hit⟩ := exists_readHit asked
      have sizes := ((finds live).2 m i asked hit).2
      rw [outcome.hit_code (parents.mpr live) hit]
      simp only [sizes]

/-! ### A directory read as a file -/

/-- The folder `docs`, read like a file, gives 0. -/
theorem classifies_counterexample :
    ¬ Classifies docs (write docs (booted blankDisk)).2 ∧
      (read docs (write docs (booted blankDisk)).2).1.code = 0 := by
  have table := @booted_write_table blankDisk blankDisk_unformatted docs rfl (by decide)
  generalize (write docs (booted blankDisk)).2 = d at table ⊢
  obtain ⟨accepts, entered⟩ := @root_of_written d.disk docs docs rfl table
  have asked : askedFor docs (parentTable d.disk docs.parentClusterNumber) = some 1 := by
    rw [entered]
    exact firstFrom_here (i := (1 : Fin 64)) (by decide)
  have hit : readHit docs (parentTable d.disk docs.parentClusterNumber) = some 1 := by
    rw [entered]
    exact (firstFrom_skip (i := (0 : Fin 64)) (by decide)).trans
      (firstFrom_here (i := (1 : Fin 64)) (by decide))
  have code : (read docs d).1.code = 0 := by
    rw [(read_outcome docs d).hit_code accepts hit, entered]
    decide
  refine ⟨fun classifies => ?_, code⟩
  have directory := (classifies.directory .root 1 asked).mpr (by rw [entered]; decide)
  exact absurd (directory.symm.trans code) (by decide)

end HexOS.Fat32
