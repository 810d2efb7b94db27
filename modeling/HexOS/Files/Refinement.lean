import HexOS.Files.Growth
import HexOS.Fat32.Reboot

/-!
The driver refines the store.

As long as no request takes a cluster of a file for a parent, no write runs out of
clusters half way and nothing is removed, the driver returns what the store returns,
and its FAT and its disk are those of the log, across any number of restarts.
-/

namespace HexOS.Files

open BoundedScan Extents HexOS.Fat32 PartialRuns

/-- The driver's volume is that of the log. -/
def Follows (s : Store) (d : Driver) : Prop := d.volume = s.volume

theorem Follows.disk {s : Store} {d : Driver} (follows : Follows s d) : d.disk = s.image :=
  congrArg Volume.disk follows

namespace Store

variable {s t : Store} {d : Driver} {request : FAT32DriverRequest} {f : Folder}

theorem folder_of_accepts (accepts : Accepts s.image request.parentClusterNumber)
    (outside : s.inFile request.parentClusterNumber.toNat = false) :
    ∃ f, s.folder request.parentClusterNumber.toNat = some f :=
  Option.isSome_iff_exists.mp ((accepts_iff outside).mp accepts)

theorem folder_of_rejected (rejected : ¬ Accepts s.image request.parentClusterNumber)
    (outside : s.inFile request.parentClusterNumber.toNat = false) :
    s.folder request.parentClusterNumber.toNat = none := by
  rw [accepts_iff outside, Option.not_isSome_iff_eq_none] at rejected
  exact rejected

/-! ### Matching -/

theorem matchesRead_shown (request : FAT32DriverRequest) (e : FAT32DirectoryEntry) :
    (s.shown e).matchesRead request = carries request e := by
  rw [Bool.eq_iff_iff, Item.matchesRead, carries, decide_eq_true_eq]
  simp [shown]

theorem matchesName_shown (request : FAT32DriverRequest) (e : FAT32DirectoryEntry) :
    (s.shown e).matchesName request = bearsName request e := by
  rw [Bool.eq_iff_iff, Item.matchesName, bearsName, decide_eq_true_eq]
  simp [shown]

theorem matchesWrite_shown (request : FAT32DriverRequest) (e : FAT32DirectoryEntry) :
    (s.shown e).matchesWrite request = existMatch request e := by
  rw [Bool.eq_iff_iff, Item.matchesWrite, existMatch]
  by_cases folder : request.bufferSize = 0
  · simp [folder, shown]
  · simp [folder, shown]

/-! ### Reading -/

/-- **A read** returns what the store returns. -/
theorem read_follows (follows : Follows s d)
    (outside : s.inFile request.parentClusterNumber.toNat = false) :
    (HexOS.Fat32.read request d).1 = s.read request := by
  have outcome := read_outcome request d
  rw [follows.disk] at outcome
  generalize (HexOS.Fat32.read request d).1 = reply at outcome
  cases outcome with
  | invalidParent rejected => rw [read, folder_of_rejected rejected outside]
  | notFound accepts none =>
      obtain ⟨f, found⟩ := folder_of_accepts accepts outside
      have scan := scan_table found (matchesRead_shown request)
      rw [parentTable_image found, readHit] at none
      rw [none, Option.map_none] at scan
      simp only [read, found, ← scan]
  | @tooLarge i accepts hit large =>
      obtain ⟨f, found⟩ := folder_of_accepts accepts outside
      have scan := scan_table found (matchesRead_shown request)
      rw [parentTable_image found] at hit large
      rw [readHit] at hit
      rw [hit, Option.map_some] at scan
      simp only [read, found, ← scan]
      exact (if_pos large).symm
  | @delivered i accepts hit small =>
      obtain ⟨f, found⟩ := folder_of_accepts accepts outside
      have scan := scan_table found (matchesRead_shown request)
      rw [parentTable_image found] at hit small ⊢
      rw [readHit] at hit
      rw [hit, Option.map_some] at scan
      simp only [read, found, ← scan]
      exact (if_neg small).symm

/-- **A read of a directory**, likewise. -/
theorem readDirectory_follows (follows : Follows s d) (blank : d.test = blankTable)
    (beyond : Nat → UInt8) (outside : s.inFile request.parentClusterNumber.toNat = false) :
    (HexOS.Fat32.readDirectory request beyond d).1 = s.readDirectory request beyond := by
  have disk := follows.disk
  by_cases accepts : Accepts s.image request.parentClusterNumber
  · obtain ⟨f, found⟩ := folder_of_accepts accepts outside
    have scan := scan_table found (matchesName_shown request)
    have table : parentTable d.disk request.parentClusterNumber =
        s.table request.parentClusterNumber.toNat f := by rw [disk, parentTable_image found]
    rw [← disk] at accepts
    cases hit : directoryHit request (parentTable d.disk request.parentClusterNumber) with
    | none =>
        rw [readDirectory_missed accepts hit]
        rw [table, directoryHit] at hit
        rw [hit, Option.map_none] at scan
        simp only [readDirectory, found, ← scan]
    | some i =>
        rw [readDirectory_hit accepts hit, table, disk]
        rw [table, directoryHit] at hit
        rw [hit, Option.map_some] at scan
        have bytes : ∀ fat table c disk, fromClusterBuf ⟨fat, table, c, d.test, disk⟩ beyond = fun j =>
            if h : j < 2048 then c ⟨j, h⟩ else if j < 4096 then 0 else beyond (j - 4096) := by
          intro _ _ _ _
          funext j
          simp only [fromClusterBuf, blank, tableBytes_blank, peek_zero]
        rw [bytes]
        simp only [readDirectory, found, ← scan]
        rfl
  · rw [readDirectory, folder_of_rejected accepts outside, readDirectory_rejected (by rwa [disk])]

/-- The name that the first slot of a cluster carries. -/
def getDirName (clusterNumber : UInt32) (d : Driver) : Bytes 8 × Driver :=
  let d := { d with dirTableBuf := tableOf (readClusters d.disk clusterNumber) }
  ((d.dirTableBuf 0).name, d)

/-- A folder's cluster gives back its name, wherever the folder is. -/
theorem getDirName_follows {clusterNumber : UInt32} (follows : Follows s d)
    (found : s.folder clusterNumber.toNat = some f) :
    (getDirName clusterNumber d).1 = f.name ∧ Follows s (getDirName clusterNumber d).2 := by
  have fits := s.fits
  have below := folderAt_lt found
  have read : tableOf (HexOS.Fat32.readClusters d.disk clusterNumber) =
      s.table clusterNumber.toNat f := by
    rw [follows.disk, readClusters_of_lt _ (by omega), image_folder found, tableOf_tableBytes]
  exact ⟨congrArg (fun table : FAT32DirectoryTable => (table 0).name) read, follows⟩

/-! ### Writing -/

theorem taken_iff (found : s.folder request.parentClusterNumber.toNat = some f) :
    s.taken request f ↔ isExist request (parentTable s.image request.parentClusterNumber) ≠ 0 := by
  have scan := scan_table found (matchesWrite_shown request)
  have own := matchesWrite_shown (s := s) request f.header
  rw [shown_header found] at own
  have none : (∀ i, existMatch request (s.table request.parentClusterNumber.toNat f i) = false) ↔
      ∀ i ∈ s.items request.parentClusterNumber.toNat f, i.matchesWrite request = false := by
    have searched : (s.items request.parentClusterNumber.toNat f).find? (Item.matchesWrite request) =
        none ↔ ∀ i ∈ s.items request.parentClusterNumber.toNat f, i.matchesWrite request = false := by
      simp only [List.find?_eq_none, Bool.not_eq_true]
    rw [← searched, ← scan, Option.map_eq_none_iff, firstFrom_eq_none_iff]
    exact ⟨fun all i _ => all i, fun all i => all i (Nat.zero_le _)⟩
  rw [ne_eq, isExist_eq_zero_iff, parentTable_image found, none, table_zero, ← own, taken, items]
  simp only [List.cons_append, List.forall_mem_cons, Bool.and_eq_true, Bool.not_eq_true',
    List.any_eq_true]
  cases Item.matchesWrite request ⟨f.name, fun _ => 0, 0, signatureCluster⟩ with
  | true => simp
  | false => simp

theorem write_none (none : s.folder request.parentClusterNumber.toNat = none) :
    s.write request = .ok (2, s) := by
  rw [write]
  split
  · rfl
  · rename_i found
    exact absurd (none.symm.trans found) (Option.some_ne_none _).symm

theorem write_some (found : s.folder request.parentClusterNumber.toNat = some f)
    {code : Int} (done : s.write request = .ok (code, t)) :
    s.taken request f ∧ code = 1 ∧ t = s ∨
      ¬ s.taken request f ∧ (frontier s.log = 512 ∨
        (entriesOf s.log request.parentClusterNumber.toNat).length = 63) ∧ code = -1 ∧ t = s ∨
      ¬ s.taken request f ∧ code = 0 ∧ ∃ c k, ∃ due : Due s request f c k, t = due.next := by
  rw [write] at done
  split at done
  · rename_i none
    exact absurd (none.symm.trans found) (Option.some_ne_none _).symm
  · rename_i g here
    obtain rfl := Option.some.inj (found.symm.trans here)
    split at done
    · rename_i taken
      obtain ⟨rfl, rfl⟩ := Prod.mk.inj (Except.ok.inj done)
      exact .inl ⟨taken, rfl, rfl⟩
    · rename_i free
      split at done
      · rename_i full
        obtain ⟨rfl, rfl⟩ := Prod.mk.inj (Except.ok.inj done)
        exact .inr (.inl ⟨free, full, rfl, rfl⟩)
      · rename_i open'
        split at done
        · rename_i enough
          obtain ⟨rfl, rfl⟩ := Prod.mk.inj (Except.ok.inj done)
          have positive := clustersOf_pos request
          have room := s.room request.parentClusterNumber.toNat
          obtain ⟨clusters, slots⟩ := not_or.mp open'
          refine .inr (.inr ⟨free, rfl, ⟨frontier s.log, by omega⟩,
            ⟨(entriesOf s.log request.parentClusterNumber.toNat).length + 1, by omega⟩,
            ⟨found, rfl, rfl, enough⟩, rfl⟩)
        · cases done

/-- Where the driver finds a place and no such name, the store grows by the write. -/
theorem write_grows (found : s.folder request.parentClusterNumber.toNat = some f) {c : Fin 512}
    {k : Fin 64} (absent : isExist request (parentTable s.image request.parentClusterNumber) = 0)
    (first : FirstFree s.fat c)
    (slot : FirstSlot (parentTable s.image request.parentClusterNumber) k) {code : Int}
    (done : s.write request = .ok (code, t)) :
    code = 0 ∧ ∃ due : Due s request f c k, t = due.next := by
  rw [parentTable_image found] at slot
  have cluster := firstFree_iff.mp first
  have place := firstSlot_iff.mp slot
  rcases write_some found done with ⟨taken, -⟩ | ⟨-, full, -⟩ | ⟨-, rfl, c', k', due, rfl⟩
  · exact absurd absent ((taken_iff found).mp taken)
  · have inside := c.isLt
    have below := k.isLt
    omega
  · obtain rfl : c' = c := Fin.ext (due.cluster.trans cluster.symm)
    obtain rfl : k' = k := Fin.ext (due.slot.trans place.symm)
    exact ⟨rfl, due, rfl⟩

/-- **A write** returns what the store returns, and leaves the volume of its log. -/
theorem write_follows (outside : s.inFile request.parentClusterNumber.toNat = false) {code : Int}
    (done : s.write request = .ok (code, t)) :
    (Volume.write request s.volume).1 = code ∧ (Volume.write request s.volume).2 = t.volume := by
  have outcome := Volume.write_outcome request s.volume
  generalize (Volume.write request s.volume).1 = returned at outcome ⊢
  generalize (Volume.write request s.volume).2 = left at outcome ⊢
  cases outcome with
  | invalidParent rejected =>
      rw [write_none (folder_of_rejected rejected outside)] at done
      obtain ⟨rfl, rfl⟩ := Prod.mk.inj (Except.ok.inj done)
      exact ⟨rfl, rfl⟩
  | taken accepts exist =>
      obtain ⟨f, found⟩ := folder_of_accepts accepts outside
      have taken := (taken_iff found).mpr exist
      rcases write_some found done with ⟨-, rfl, rfl⟩ | ⟨free, -⟩ | ⟨free, -⟩
      · exact ⟨rfl, rfl⟩
      · exact absurd taken free
      · exact absurd taken free
  | full accepts absent none =>
      obtain ⟨f, found⟩ := folder_of_accepts accepts outside
      rcases write_some found done with ⟨taken, -⟩ | ⟨-, -, rfl, rfl⟩ | ⟨-, -, c, k, due, -⟩
      · exact absurd absent ((taken_iff found).mp taken)
      · exact ⟨rfl, rfl⟩
      · rcases none with cluster | slot
        · exact absurd ⟨c, due.firstFree⟩ cluster
        · exact absurd ⟨k, due.firstSlot⟩ slot
  | @folder c k accepts absent first slot folder =>
      obtain ⟨f, found⟩ := folder_of_accepts accepts outside
      obtain ⟨rfl, due, rfl⟩ := write_grows found absent first slot done
      exact ⟨rfl, due.volume_folder folder⟩
  | @file c k accepts absent first slot file =>
      obtain ⟨f, found⟩ := folder_of_accepts accepts outside
      obtain ⟨rfl, due, rfl⟩ := write_grows found absent first slot done
      have stored := due.volume_file file
      exact Prod.ext_iff.mp stored

/-! ### Restarts -/

theorem initialize_follows (follows : Follows s d) : Follows s (initializeFilesystemFat32 d) := by
  have signed : Signed d.disk := by
    funext i
    rw [follows.disk, bootBlock, image_zero, signatureCluster, dif_pos i.isLt]
  have outcome := initializeFilesystem_outcome d
  rw [Follows]
  generalize (initializeFilesystemFat32 d).volume = v at outcome
  cases outcome with
  | load =>
      rw [follows]
      exact congrArg (fun fat => Volume.mk fat s.image) image_fat
  | format _ _ unsigned => exact absurd signed unsigned

theorem empty_fat : empty.fat = freshFat := by
  funext c
  by_cases above : 3 ≤ c.val
  · rw [freshFat_of_above above]
    exact (fat_free_iff (by omega)).mpr above
  · have low : c = 0 ∨ c = 1 ∨ c = 2 := by
      simp only [Fin.ext_iff]
      change c.val = 0 ∨ c.val = 1 ∨ c.val = 2
      omega
    rcases low with rfl | rfl | rfl
    · rfl
    · rfl
    · rfl

theorem empty_table : empty.table 2 ⟨rootName, rootClusterNumber⟩ = rootTable := by
  funext i
  by_cases header : i = 0
  · rw [header]
    rfl
  · have behind : 1 ≤ i.val := Nat.one_le_iff_ne_zero.mpr (Fin.val_ne_zero_iff.mpr header)
    rw [rootTable_of_ne header]
    exact List.getD_eq_default _ _ behind

theorem empty_image : empty.image = freshDisk blankDisk := by
  funext x
  rw [freshDisk]
  by_cases root : x = 2
  · have found : empty.folder 2 = some ⟨rootName, rootClusterNumber⟩ := rfl
    rw [root, Function.update_self, image_folder found, empty_table]
  · rw [Function.update_of_ne root]
    by_cases isFat : x = 1
    · rw [isFat, Function.update_self, image, if_neg Nat.one_ne_zero, if_pos rfl, empty_fat]
    · rw [Function.update_of_ne isFat]
      by_cases boot : x = 0
      · rw [boot, Function.update_self, image_zero]
      · have beyond : frontier empty.log ≤ x := by
          change 3 ≤ x
          omega
        rw [Function.update_of_ne boot, image_beyond beyond]
        rfl

theorem empty_follows : Follows empty (booted blankDisk) := by
  rw [Follows, volume_booted blankDisk_unformatted, volume, empty_fat, empty_image]

/-! ### Runs -/

/-- **One call**: the driver follows the store. What lies in `test` is seen by
`read_directory` alone. -/
theorem step_follows {fuel : Nat} {call : Call} {reply : Reply} (follows : Follows s d)
    (blank : ∀ request beyond, call = .readDirectory request beyond → d.test = blankTable)
    (taken : s.step call = .ok (reply, t)) :
    ∃ d', HexOS.Fat32.step fuel d call = .ok (reply, d') ∧ Follows t d' ∧ d'.test = d.test := by
  cases call with
  | initializeFilesystem =>
      obtain ⟨rfl, rfl⟩ := Prod.mk.inj (Except.ok.inj taken)
      exact ⟨_, rfl, initialize_follows follows, initializeFilesystem_test d⟩
  | read request =>
      rw [step] at taken
      split at taken
      · cases taken
      · rename_i outside
        obtain ⟨rfl, rfl⟩ := Prod.mk.inj (Except.ok.inj taken)
        refine ⟨(HexOS.Fat32.read request d).2, ?_, (read_volume request d).trans follows,
          read_test request d⟩
        rw [← read_follows follows (Bool.not_eq_true _ ▸ outside)]
        rfl
  | readDirectory request beyond =>
      rw [step] at taken
      split at taken
      · cases taken
      · rename_i outside
        obtain ⟨rfl, rfl⟩ := Prod.mk.inj (Except.ok.inj taken)
        refine ⟨(HexOS.Fat32.readDirectory request beyond d).2, ?_,
          (readDirectory_volume request beyond d).trans follows, readDirectory_test request beyond d⟩
        rw [← readDirectory_follows follows (blank request beyond rfl) beyond
          (Bool.not_eq_true _ ▸ outside)]
        rfl
  | write request =>
      rw [step] at taken
      split at taken
      · cases taken
      · rename_i outside
        split at taken
        · rename_i code u done
          obtain ⟨rfl, rfl⟩ := Prod.mk.inj (Except.ok.inj taken)
          obtain ⟨returned, left⟩ := write_follows (Bool.not_eq_true _ ▸ outside) done
          obtain ⟨sameCode, sameVolume⟩ := write_volume request d
          rw [follows] at sameCode sameVolume
          refine ⟨(HexOS.Fat32.write request d).2, ?_, sameVolume.trans left, write_test request d⟩
          rw [HexOS.Fat32.step, sameCode, returned]
        · cases taken
  | delete => cases taken

end Store

/-! ### What the log is -/

/-- The write that a call has made, if it has returned 0. -/
def storedBy : Call → Reply → List FAT32DriverRequest
  | .write request, reply => if reply.code = 0 then [request] else []
  | _, _ => []

/-- The writes of a run that have returned 0. -/
def stored : List Call → List Reply → List FAT32DriverRequest
  | call :: calls, reply :: replies => storedBy call reply ++ stored calls replies
  | _, _ => []

theorem step_log {s t : Store} {call : Call} {reply : Reply} (taken : s.step call = .ok (reply, t)) :
    t.log = s.log ++ storedBy call reply := by
  have same : s.log = s.log ++ [] := (List.append_nil _).symm
  cases call with
  | initializeFilesystem =>
      obtain ⟨-, rfl⟩ := Prod.mk.inj (Except.ok.inj taken)
      exact same
  | read =>
      rw [Store.step] at taken
      split at taken
      · cases taken
      · obtain ⟨-, rfl⟩ := Prod.mk.inj (Except.ok.inj taken)
        exact same
  | readDirectory =>
      rw [Store.step] at taken
      split at taken
      · cases taken
      · obtain ⟨-, rfl⟩ := Prod.mk.inj (Except.ok.inj taken)
        exact same
  | delete => cases taken
  | write request =>
      rw [Store.step] at taken
      split at taken
      · cases taken
      · split at taken
        · rename_i code u done
          obtain ⟨rfl, rfl⟩ := Prod.mk.inj (Except.ok.inj taken)
          cases found : s.folder request.parentClusterNumber.toNat with
          | none =>
              rw [Store.write_none found] at done
              obtain ⟨rfl, rfl⟩ := Prod.mk.inj (Except.ok.inj done)
              exact same
          | some f =>
              rcases Store.write_some found done with ⟨-, rfl, rfl⟩ | ⟨-, -, rfl, rfl⟩ |
                ⟨-, rfl, _, _, due, rfl⟩
              · exact same
              · exact same
              · rfl
        · cases taken

theorem run_log {s t : Store} {calls : List Call} {replies : List Reply}
    (done : run Store.step s calls = .ok (replies, t)) : t.log = s.log ++ stored calls replies := by
  induction calls generalizing s replies with
  | nil =>
      simp only [run, Except.ok.injEq, Prod.mk.injEq] at done
      obtain ⟨rfl, rfl⟩ := done
      exact (List.append_nil _).symm
  | cons call calls ih =>
      obtain ⟨reply, u, rest, first, later, rfl⟩ := run_cons_ok done
      rw [ih later, step_log first, List.append_assoc, stored]

theorem run_follows {calls : List Call} {replies : List Reply} {s : Store}
    (done : run Store.step Store.empty calls = .ok (replies, s)) (fuel : Nat) :
    ∃ d, run (HexOS.Fat32.step fuel) (booted blankDisk) calls = .ok (replies, d) ∧ Follows s d := by
  have sim : ∀ s d call reply t, Follows s d ∧ d.test = blankTable →
      Store.step s call = .ok (reply, t) →
      ∃ d', HexOS.Fat32.step fuel d call = .ok (reply, d') ∧ Follows t d' ∧ d'.test = blankTable := by
    rintro _ _ _ _ _ ⟨follows, blank⟩ taken
    obtain ⟨d', stepped, next, kept⟩ := Store.step_follows follows (fun _ _ _ => blank) taken
    exact ⟨d', stepped, next, kept.trans blank⟩
  obtain ⟨d, reached, follows, -⟩ :=
    run_refines sim ⟨Store.empty_follows, initializeFilesystem_test (poweredOn blankDisk)⟩ done
  exact ⟨d, reached, follows⟩

/-- **The driver refines the store.** Every run that the store completes is a run of
the driver from the blank image with the same replies, and the FAT and the disk that
it leaves are those of the writes that have returned 0, in their order. -/
theorem driver_refines_store {calls : List Call} {replies : List Reply} {s : Store}
    (done : run Store.step Store.empty calls = .ok (replies, s)) (fuel : Nat) :
    s.log = stored calls replies ∧
      ∃ d, run (HexOS.Fat32.step fuel) (booted blankDisk) calls = .ok (replies, d) ∧
        d.fatTable = s.fat ∧ d.disk = s.image := by
  obtain ⟨d, reached, follows⟩ := run_follows done fuel
  exact ⟨run_log done, d, reached, congrArg Volume.fat follows, follows.disk⟩

/-! ### An instance -/

/-- A note in a folder, which takes cluster 3. -/
def innerNote : FAT32DriverRequest := { note with parentClusterNumber := 3 }

def docsStore : Store :=
  Store.empty.append docs rfl (Nat.zero_lt_succ 62) (Nat.le_of_ble_eq_true rfl)

def noteStore : Store :=
  docsStore.append innerNote rfl (Nat.zero_lt_succ 62) (Nat.le_of_ble_eq_true rfl)

/-- A folder, a note in it, a restart, and the note is read. -/
def noteCalls : List Call := [.write docs, .write innerNote, .initializeFilesystem, .read innerNote]

def noteReplies : List Reply :=
  [.status 0, .status 0, .status 0, ⟨0, 512, peek (chunk innerNote 0)⟩]

theorem driver_refines_store_note : noteStore.log = [docs, innerNote] ∧
    ∃ d, run (HexOS.Fat32.step 0) (booted blankDisk) noteCalls = .ok (noteReplies, d) ∧
      d.fatTable = noteStore.fat ∧ d.disk = noteStore.image :=
  @driver_refines_store noteCalls noteReplies noteStore rfl 0

end HexOS.Files
