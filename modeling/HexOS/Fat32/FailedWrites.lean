import HexOS.Fat32.FileWrites
import HexOS.Fat32.Names

/-!
Writes that fail.

A write that is refused, or finds no free cluster or slot, returns before it
stores anything. A file that runs out of clusters does not: its entry is stored,
its first clusters are written and linked, and none of this is taken back.
-/

namespace HexOS.Fat32

open BoundedScan PartialRuns

/-- The FAT in RAM and on disk, every directory table and every used cluster are
what they were. -/
structure NothingChanged (v v' : Volume) : Prop where
  ram : v'.fat = v.fat
  fat : fatOf (v'.disk 1) = fatOf (v.disk 1)
  tables : ∀ x, LooksLikeDirectory (tableOf (v.disk x)) → v'.disk x = v.disk x
  used : ∀ c : Fin 512, v.fat c ≠ fatEmptyEntry → v'.disk c.val = v.disk c.val

theorem NothingChanged.refl (v : Volume) : NothingChanged v v :=
  ⟨rfl, rfl, fun _ _ => rfl, fun _ _ => rfl⟩

/-- What one call should keep. -/
def FailedWriteChangesNothing (d : Driver) (call : Call) (reply : Reply) (d' : Driver) : Prop :=
  ∀ request, call = .write request → reply.code ≠ 0 → NothingChanged d.volume d'.volume

/-- Behind its first cluster `c` the FAT on disk has room for the rest of the
file. -/
def RoomBehind (request : FAT32DriverRequest) (v : Volume) (c : Fin 512) : Prop :=
  chunksNeeded request.bufferSize ≤ (freeClusters (fatOf (v.disk 1)) (c.val + 1)).length + 1

/-- The one way to run out of clusters unnoticed: the parent is a free cluster,
the last one, and the file begins with what it holds. -/
structure StoredOnItself (request : FAT32DriverRequest) (v : Volume) (c : Fin 512) : Prop where
  parent : request.parentClusterNumber.toNat = c.val
  lastFree : freeClusters (fatOf (v.disk 1)) (c.val + 1) = []
  synced : v.fat = fatOf (v.disk 1)
  same : chunk request 0 = v.disk c.val

/-- A write of a file that passes every check finds room for all of it. -/
def HasRoom (request : FAT32DriverRequest) (v : Volume) : Prop :=
  Accepts v.disk request.parentClusterNumber →
    isExist request (parentTable v.disk request.parentClusterNumber) = 0 →
    (∃ k, FirstSlot (parentTable v.disk request.parentClusterNumber) k) →
    request.bufferSize ≠ 0 → ∀ c, FirstFree v.fat c →
    RoomBehind request v c ∨ StoredOnItself request v c

def FindsRoom (d : Driver) : Call → Prop
  | .write request => HasRoom request d.volume
  | _ => True

/-! ### Running out of clusters -/

section

variable {request : FAT32DriverRequest} {v : Volume} {c : Fin 512} {k : Fin 64}

theorem makeFile_failed_iff (accepts : Accepts v.disk request.parentClusterNumber) :
    (Volume.makeFile request c 0 request.bufferSize (storeEntry request v.disk c k)).1 ≠ 0 ↔
      ¬ RoomBehind request v c := by
  rw [ne_eq, makeFile_code_iff, storeEntry_fat accepts, fileFits, decide_eq_true_eq, RoomBehind]

/-- A file that does not fit takes every free cluster there is. -/
theorem fileChain_of_noRoom (none : ¬ RoomBehind request v c) :
    fileChain (fatOf (v.disk 1)) c request.bufferSize =
      c :: freeClusters (fatOf (v.disk 1)) (c.val + 1) := by
  rw [RoomBehind] at none
  rw [fileChain, List.take_of_length_le (by rw [List.length_cons]; omega)]

/-- The parent's new entry is noticed. -/
theorem storeEntry_changes (slot : FirstSlot (parentTable v.disk request.parentClusterNumber) k) :
    storeEntry request v.disk c k request.parentClusterNumber.toNat ≠
      v.disk request.parentClusterNumber.toNat := by
  intro same
  obtain ⟨-, free, -⟩ := slot.spec
  have table := congrArg tableOf same
  rw [storeEntry_parent] at table
  apply free
  rw [parentTable, ← table]
  exact writeEntry_live _ _ _ _

/-- With no cluster behind the first one, only the first chunk and the entry
are stored. -/
theorem makeFile_alone (accepts : Accepts v.disk request.parentClusterNumber)
    (none : ¬ RoomBehind request v c) (lastFree : freeClusters (fatOf (v.disk 1)) (c.val + 1) = [])
    (above : 2 ≤ c.val) :
    (Volume.makeFile request c 0 request.bufferSize (storeEntry request v.disk c k)).2 =
      ⟨fatOf (v.disk 1), Function.update (storeEntry request v.disk c k) c.val (chunk request 0)⟩ := by
  have parent := accepts.1
  have alone : fileChain (fatOf (v.disk 1)) c request.bufferSize = [c] := by
    rw [fileChain_of_noRoom none, lastFree]
  have short : fileFits (fatOf (v.disk 1)) c request.bufferSize = false :=
    decide_eq_false none
  have other : (1 : Nat) ≠ c.val := by omega
  have flushed : Function.update (storeEntry request v.disk c k) c.val (chunk request 0) 1 =
      v.disk 1 := by
    rw [Function.update_of_ne other, storeEntry_of_ne (by omega)]
  have same : Function.update (Function.update (storeEntry request v.disk c k) c.val (chunk request 0))
      1 (v.disk 1) = Function.update (storeEntry request v.disk c k) c.val (chunk request 0) :=
    Function.update_eq_self_iff.mpr flushed.symm
  simp only [Volume.makeFile, storeEntry_fat accepts, alone, short, linkChain, storeChunks,
    fatBytes_fatOf, same, Bool.false_eq_true, if_false]

theorem makeFile_storedOnItself (accepts : Accepts v.disk request.parentClusterNumber)
    (none : ¬ RoomBehind request v c) (itself : StoredOnItself request v c) (above : 2 ≤ c.val) :
    (Volume.makeFile request c 0 request.bufferSize (storeEntry request v.disk c k)).2 = v := by
  rw [makeFile_alone accepts none itself.lastFree above, storeEntry, itself.parent,
    Function.update_idem, itself.same, Function.update_eq_self, ← itself.synced]

/-- A file that runs out of clusters changes something, but for that one way. -/
theorem storedOnItself_of_nothingChanged (accepts : Accepts v.disk request.parentClusterNumber)
    (first : FirstFree v.fat c)
    (slot : FirstSlot (parentTable v.disk request.parentClusterNumber) k)
    (none : ¬ RoomBehind request v c)
    (unchanged : NothingChanged v
      (Volume.makeFile request c 0 request.bufferSize (storeEntry request v.disk c k)).2) :
    StoredOnItself request v c := by
  obtain ⟨above, free, -⟩ := first.spec
  cases behind : freeClusters (fatOf (v.disk 1)) (c.val + 1) with
  | cons e rest =>
      -- the first cluster is linked to the next one
      have linked := unchanged.ram
      simp only [Volume.makeFile, storeEntry_fat accepts, fileChain_of_noRoom none, behind] at linked
      have nodup := fileChain_nodup (fatOf (v.disk 1)) c request.bufferSize
      rw [fileChain_of_noRoom none, behind] at nodup
      have link := linkChain_head nodup (fatOf (v.disk 1))
        (fileFits (fatOf (v.disk 1)) c request.bufferSize)
      rw [linked, free] at link
      have zero : e = 0 := (num_eq_empty_iff e).mp link.symm
      have member : e ∈ freeClusters (fatOf (v.disk 1)) (c.val + 1) :=
        behind ▸ List.mem_cons_self
      have lower := (mem_freeClusters.mp member).1
      rw [zero] at lower
      exact absurd lower (by simp)
  | nil =>
      rw [makeFile_alone accepts none behind above] at unchanged
      have parent : request.parentClusterNumber.toNat = c.val := by
        by_contra apart
        have table := unchanged.tables _ accepts.2.2
        simp only at table
        rw [Function.update_of_ne apart] at table
        exact storeEntry_changes slot table
      have looks : LooksLikeDirectory (tableOf (v.disk c.val)) := parent ▸ accepts.2.2
      refine ⟨parent, behind, unchanged.ram.symm, ?_⟩
      have table := unchanged.tables c.val looks
      simp only [Function.update_self] at table
      exact table

/-- **A write that fails changes nothing exactly when it has room.** -/
theorem failedWrite_iff {v' : Volume} {code : Int} (outcome : WriteOutcome request v code v') :
    (code ≠ 0 → NothingChanged v v') ↔ HasRoom request v := by
  cases outcome with
  | invalidParent rejected =>
      exact ⟨fun _ accepts => absurd accepts rejected, fun _ _ => .refl v⟩
  | taken _ exist => exact ⟨fun _ _ absent => absurd absent exist, fun _ _ => .refl v⟩
  | full _ _ none =>
      refine ⟨fun _ _ _ slot _ c first => ?_, fun _ _ => .refl v⟩
      exact absurd none (not_or.mpr ⟨not_not.mpr ⟨c, first⟩, not_not.mpr slot⟩)
  | folder _ _ _ _ folder =>
      exact ⟨fun _ _ _ _ size => absurd folder size, fun _ failed => absurd rfl failed⟩
  | @file c k accepts absent first slot size =>
      have failed := @makeFile_failed_iff request v c k accepts
      constructor
      · intro unchanged _ _ _ _ c' first'
        obtain rfl : c = c' := first.unique first'
        by_cases room : RoomBehind request v c
        · exact .inl room
        · exact .inr (storedOnItself_of_nothingChanged accepts first slot room
            (unchanged (failed.mpr room)))
      · intro room code
        have none := failed.mp code
        rcases room accepts absent ⟨k, slot⟩ size c first with behind | itself
        · exact absurd behind none
        · rw [makeFile_storedOnItself accepts none itself first.spec.1]
          exact .refl v

end

/-! ### Runs -/

theorem failedWrite_step_iff {fuel : Nat} {d d' : Driver} {call : Call} {reply : Reply}
    (taken : step fuel d call = .ok (reply, d')) :
    FailedWriteChangesNothing d call reply d' ↔ FindsRoom d call := by
  have outcome := step_outcome taken
  cases call with
  | write request =>
      cases outcome with
      | write outcome =>
          rw [FindsRoom, ← failedWrite_iff outcome]
          exact ⟨fun promised => promised request rfl, fun promised => by rintro _ ⟨⟩; exact promised⟩
  | initializeFilesystem => exact ⟨fun _ => trivial, fun _ _ other => Call.noConfusion other⟩
  | read => exact ⟨fun _ => trivial, fun _ _ other => Call.noConfusion other⟩
  | readDirectory => exact ⟨fun _ => trivial, fun _ _ other => Call.noConfusion other⟩
  | delete => exact ⟨fun _ => trivial, fun _ _ other => Call.noConfusion other⟩

/-- **In a run of any calls from any state, the writes that fail change nothing
exactly when every write finds room.** -/
theorem failedWrites_iff_findRoom (fuel : Nat) (d : Driver) (calls : List Call) :
    Along (step fuel) FailedWriteChangesNothing d calls ↔ Guarded (step fuel) FindsRoom d calls :=
  along_iff_guarded (I := fun _ => True)
    (fun d call reply d' _ taken => @failedWrite_step_iff fuel d d' call reply taken)
    (fun _ _ _ _ _ _ _ => trivial) trivial

/-! ### A file larger than the disk -/

theorem freshFat_behind : ∃ rest, freeClusters freshFat 4 = 4 :: rest := by
  have next : firstFrom 4 (fun i => freshFat i == fatEmptyEntry) = some 4 :=
    firstFrom_here (i := (4 : Fin 512)) (by simpa using freshFat_of_above (c := 4) (by decide))
  exact ⟨_, freeClusters_of_next next⟩

theorem big_noRoom : ¬ RoomBehind big ⟨freshFat, freshDisk blankDisk⟩ 3 := by
  have need : chunksNeeded big.bufferSize = 1024 := by decide
  have most : (freeClusters freshFat 4).length ≤ 512 :=
    le_trans (List.length_filter_le _ _) (by simp)
  have three : (3 : Fin 512).val + 1 = 4 := rfl
  rw [RoomBehind, need, freshDisk_fat, three]
  omega

theorem big_chain : ∃ rest, fileChain freshFat 3 big.bufferSize = 3 :: 4 :: rest := by
  obtain ⟨rest, behind⟩ := freshFat_behind
  have whole := fileChain_of_noRoom big_noRoom
  have three : (3 : Fin 512).val + 1 = 4 := rfl
  rw [freshDisk_fat, three, behind] at whole
  exact ⟨rest, whole⟩

theorem big_accepts : Accepts (freshDisk blankDisk) big.parentClusterNumber :=
  freshDisk_accepts_root blankDisk

theorem big_volume : Volume.write big (booted blankDisk).volume =
    Volume.makeFile big 3 0 big.bufferSize (storeEntry big (freshDisk blankDisk) 3 1) := by
  have size : big.bufferSize ≠ 0 := by decide
  rw [booted_write blankDisk_unformatted rfl (by decide), if_neg size]

theorem big_fails : (write big (booted blankDisk)).1 = -1 := by
  rw [(write_volume big (booted blankDisk)).1, big_volume]
  exact (makeFile_code _ _ _ _ _).resolve_left
    ((makeFile_failed_iff (v := ⟨freshFat, freshDisk blankDisk⟩) big_accepts).mpr big_noRoom)

theorem big_linked : (write big (booted blankDisk)).2.volume.fat 3 = num 4 := by
  obtain ⟨rest, chain⟩ := big_chain
  have nodup := fileChain_nodup freshFat 3 big.bufferSize
  rw [chain] at nodup
  rw [(write_volume big (booted blankDisk)).2, big_volume]
  simp only [Volume.makeFile, storeEntry_fat big_accepts, freshDisk_fat, chain]
  exact linkChain_head nodup freshFat _

/-- On a fresh disk its write fails, but its entry is live and its first cluster
is allocated and linked. -/
theorem failedWrites_counterexample :
    (write big (booted blankDisk)).1 = -1 ∧
      Live (tableOf ((write big (booted blankDisk)).2.disk 2) 1) ∧
      (write big (booted blankDisk)).2.volume.fat 3 = num 4 ∧
      ¬ Along (step 1) FailedWriteChangesNothing (booted blankDisk) [.write big] := by
  have failed := big_fails
  have linked := big_linked
  have table := @booted_write_table blankDisk blankDisk_unformatted big rfl (by decide)
  have free : (booted blankDisk).fatTable 3 = fatEmptyEntry := by
    rw [(booted_volume blankDisk_unformatted).1, freshFat_of_above (c := 3) (by decide)]
  generalize booted blankDisk = start at failed linked table free ⊢
  refine ⟨failed, by rw [table]; exact writeEntry_live _ _ _ _, linked, fun along => ?_⟩
  have taken : step 1 start (.write big) = .ok (.status (write big start).1, (write big start).2) := by
    rw [step]
  obtain ⟨here, -⟩ := along _ _ taken
  have unchanged := here big rfl (by rw [Reply.status, failed]; decide)
  have same := (congrFun unchanged.ram 3).trans free
  rw [same] at linked
  exact absurd ((num_eq_empty_iff 4).mp linked.symm) (by decide)

end HexOS.Fat32
