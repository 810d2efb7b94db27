import HexOS.Files.Refinement

/-!
The disk holds the log.

`image_eq_iff` says that two stores have the same disk exactly if their logs are the
same write by write. The entry of a write stands in the table of its parent, whose
own entry has come before it: the proof goes through the clusters in order.
-/

namespace HexOS.Files

open Extents HexOS.Fat32 PartialRuns

/-- Two requests that write the same. The extension of a folder is not stored, and a
file's last cluster is written whole. -/
structure SameWrite (request other : FAT32DriverRequest) : Prop where
  parent : request.parentClusterNumber = other.parentClusterNumber
  name : request.name = other.name
  size : request.bufferSize = other.bufferSize
  ext : request.bufferSize ≠ 0 → request.ext = other.ext
  content : request.bufferSize ≠ 0 → ∀ i < clustersOf request, chunk request i = chunk other i

theorem SameWrite.clusters (request other : FAT32DriverRequest) (same : SameWrite request other) :
    clustersOf request = clustersOf other := by
  rw [clustersOf, clustersOf, same.size]

namespace Store

variable {s t : Store} {x : Nat} {f : Folder} {p : Record}

/-! ### From the disk to the log -/

theorem entry_slot (member : p ∈ entriesOf s.log x) (f : Folder) :
    ∃ i : Fin 64, 1 ≤ i.val ∧ s.table x f i = p.entry := by
  obtain ⟨j, inside, here⟩ := List.getElem_of_mem member
  have room := s.room x
  refine ⟨⟨j + 1, by omega⟩, Nat.le_add_left 1 j, ?_⟩
  rw [table_slot (Nat.le_add_left 1 j), Nat.add_sub_cancel,
    List.getD_eq_getElem _ _ (by rwa [List.length_map]), List.getElem_map, here]

theorem slot_entry {i : Fin 64} (behind : 1 ≤ i.val) (live : Live (s.table x f i)) :
    ∃ p ∈ entriesOf s.log x, s.table x f i = p.entry := by
  have inside := (live_iff behind).mp live
  have bound : i.val - 1 < (entriesOf s.log x).length := by omega
  refine ⟨(entriesOf s.log x)[i.val - 1], List.getElem_mem bound, ?_⟩
  rw [table_slot behind, List.getD_eq_getElem _ _ (by rwa [List.length_map]), List.getElem_map]

theorem same_table {g : Folder} (same : s.image = t.image) (left : s.folder x = some f)
    (right : t.folder x = some g) : s.table x f = t.table x g := by
  rw [← tableOf_tableBytes (s.table x f), ← image_folder left, same, image_folder right,
    tableOf_tableBytes]

/-- What a cluster of a file holds. -/
theorem image_cluster {i : Nat} (member : p ∈ records s.log) (file : p.2.bufferSize ≠ 0)
    (inside : i < clustersOf p.2) : s.image (p.1 + i) = chunk p.2 i := by
  have here : recordAt s.log (p.1 + i) = some p :=
    owner_of_placed member ⟨Nat.le_add_right _ _, Nat.add_lt_add_left inside _⟩
  rw [image_file here file, Nat.add_sub_cancel_left]

/-- An entry gives back the write that it is of. -/
theorem same_of_entry {q : Record} (same : s.image = t.image) (left : p ∈ records s.log)
    (right : q ∈ records t.log) (entry : p.entry = q.entry)
    (parent : p.2.parentClusterNumber = q.2.parentClusterNumber) : Located SameWrite p q := by
  have cluster : p.1 = q.1 := by
    rw [← entry_cluster left, entry, entry_cluster right]
  have size : p.2.bufferSize = q.2.bufferSize := congrArg FAT32DirectoryEntry.filesize entry
  have clusters : clustersOf p.2 = clustersOf q.2 := by rw [clustersOf, clustersOf, size]
  refine ⟨cluster, parent, congrArg FAT32DirectoryEntry.name entry, size, fun file => ?_,
    fun file i inside => ?_⟩
  · have ext : p.ext = q.ext := congrArg FAT32DirectoryEntry.ext entry
    rwa [Record.ext, if_neg file, Record.ext, if_neg (size ▸ file)] at ext
  · rw [← image_cluster left file inside, same, cluster,
      image_cluster right (size ▸ file) (clusters ▸ inside)]

/-- Every write of the one log is found in the other, cluster by cluster. -/
theorem found_again (same : s.image = t.image) (found : recordAt s.log x = some p) :
    ∃ q, recordAt t.log x = some q ∧ Located SameWrite p q := by
  induction x using Nat.strong_induction_on generalizing p with
  | _ x ih =>
      obtain ⟨member, -, low, high, -⟩ := recordAt_bounds found
      rcases Nat.lt_or_eq_of_le low with before | first
      · -- A later cluster of a record is that of the first.
        obtain ⟨q, there, located⟩ := ih p.1 before (recordAt_record member)
        refine ⟨q, ?_, located⟩
        refine owner_of_placed (recordAt_bounds there).1 ⟨?_, ?_⟩
        · rw [← located.1]
          exact low
        · rw [← located.1, ← located.2.clusters]
          exact high
      · obtain ⟨above, folder⟩ := s.parents p member
        obtain ⟨f, parent⟩ := Option.isSome_iff_exists.mp folder
        have again : ∃ g, t.folder p.2.parentClusterNumber.toNat = some g := by
          by_cases root : p.2.parentClusterNumber.toNat = 2
          · rw [root]
            exact ⟨_, rfl⟩
          · obtain ⟨r, here, isFolder, -⟩ := (folder_iff root).mp parent
            obtain ⟨q, there, located⟩ := ih _ (first ▸ above) here
            exact ⟨_, (folder_iff root).mpr ⟨q, there, located.2.size ▸ isFolder, rfl⟩⟩
        obtain ⟨g, parent'⟩ := again
        have table := same_table same parent parent'
        have entered : p ∈ entriesOf s.log p.2.parentClusterNumber.toNat :=
          List.mem_filter.mpr ⟨member, decide_eq_true rfl⟩
        obtain ⟨i, behind, slot⟩ := entry_slot entered f
        have live : Live (t.table p.2.parentClusterNumber.toNat g i) := by
          rw [← table, slot]
          rfl
        obtain ⟨q, there, slot'⟩ := slot_entry behind live
        obtain ⟨stored, held⟩ := List.mem_filter.mp there
        have entry : p.entry = q.entry := by rw [← slot, table, slot']
        have located := same_of_entry same member stored entry
          (UInt32.toNat_inj.mp (of_decide_eq_true held).symm)
        refine ⟨q, ?_, located⟩
        rw [← first, located.1]
        exact recordAt_record stored

/-! ### From the log to the disk -/

theorem recordAt_same (same : List.Forall₂ SameWrite s.log t.log) (x : Nat) :
    Option.Rel (Located SameWrite) (recordAt s.log x) (recordAt t.log x) :=
  owners_of_forall₂ SameWrite.clusters same x

theorem folder_same (same : List.Forall₂ SameWrite s.log t.log) (x : Nat) :
    s.folder x = t.folder x := by
  have records := recordAt_same same x
  rw [folder, folder, folderAt, folderAt]
  generalize recordAt s.log x = left at records ⊢
  generalize recordAt t.log x = right at records ⊢
  cases records with
  | none => rfl
  | some located =>
      obtain ⟨-, write⟩ := located
      simp only [write.size, write.name, write.parent]

theorem entry_same {q : Record} (located : Located SameWrite p q) : p.entry = q.entry := by
  obtain ⟨first, write⟩ := located
  have ext : p.ext = q.ext := by
    rw [Record.ext, Record.ext, ← write.size]
    split
    · rfl
    · rename_i file
      exact write.ext file
  rw [Record.entry, Record.entry, first, ext, write.size, write.name]

theorem entries_same (same : List.Forall₂ SameWrite s.log t.log) (x : Nat) :
    (entriesOf s.log x).map Record.entry = (entriesOf t.log x).map Record.entry := by
  have placed : List.Forall₂ (Located SameWrite) (records s.log) (records t.log) :=
    placed_of_forall₂ SameWrite.clusters same
  have held : List.Forall₂ (Located SameWrite) (entriesOf s.log x) (entriesOf t.log x) := by
    refine List.rel_filter (fun p q located => ?_) placed
    simp only [located.2.parent]
  rw [← List.forall₂_eq_eq_eq, List.forall₂_map_left_iff, List.forall₂_map_right_iff]
  exact held.imp fun _ _ => entry_same

theorem fat_same (same : List.Forall₂ SameWrite s.log t.log) : s.fat = t.fat := by
  funext c
  have records := recordAt_same same c.val
  rw [fat, fat]
  generalize recordAt s.log c.val = left at records ⊢
  generalize recordAt t.log c.val = right at records ⊢
  cases records with
  | none => rfl
  | some located => simp only [located.1, located.2.clusters _ _]

theorem image_same (same : List.Forall₂ SameWrite s.log t.log) : s.image = t.image := by
  funext x
  have folders := folder_same same x
  cases found : s.folder x with
  | some f =>
      rw [image_folder found, image_folder (folders ▸ found)]
      congr 1
      funext i
      rw [table, table, entries_same same]
  | none =>
      have records := recordAt_same same x
      rw [image, image, fat_same same, found, ← folders, found]
      cases left : recordAt s.log x with
      | none =>
          rw [left] at records
          generalize recordAt t.log x = right at records ⊢
          cases records with
          | none => rfl
      | some p =>
          obtain ⟨-, above, low, high, -⟩ := recordAt_bounds left
          have file : p.2.bufferSize ≠ 0 := fun isFolder => by
            rw [(folder_iff (by omega)).mpr ⟨p, left, isFolder, rfl⟩] at found
            cases found
          rw [left] at records
          generalize recordAt t.log x = right at records ⊢
          cases records with
          | some located =>
              have content := located.2.content file (x - p.1) (by omega)
              simp only [← located.1, content]

/-- **The disk holds the log**: it is the same exactly if the writes are. -/
theorem image_eq_iff : s.image = t.image ↔ List.Forall₂ SameWrite s.log t.log := by
  constructor
  · intro same
    have related : ∀ x, Option.Rel (Located SameWrite) (recordAt s.log x) (recordAt t.log x) := by
      intro x
      cases left : recordAt s.log x with
      | some p =>
          obtain ⟨q, right, located⟩ := found_again same left
          rw [right]
          exact .some located
      | none =>
          cases right : recordAt t.log x with
          | some q =>
              obtain ⟨p, found, -⟩ := found_again same.symm right
              cases left.symm.trans found
          | none => exact .none
    exact forall₂_of_owners clustersOf_pos SameWrite.clusters related
  · exact image_same

end Store

/-! ### Runs -/

/-- **The writes can be read off the disk.** Two runs of the driver from the blank
image that the store completes leave the same disk exactly if the same writes have
returned 0 in them, in the same order. -/
theorem disk_recalls_writes {calls others : List Call} {replies returned : List Reply} {s t : Store}
    (done : run Store.step Store.empty calls = .ok (replies, s))
    (finished : run Store.step Store.empty others = .ok (returned, t)) {fuel : Nat} {d e : Driver}
    (left : run (HexOS.Fat32.step fuel) (booted blankDisk) calls = .ok (replies, d))
    (right : run (HexOS.Fat32.step fuel) (booted blankDisk) others = .ok (returned, e)) :
    d.disk = e.disk ↔ List.Forall₂ SameWrite (stored calls replies) (stored others returned) := by
  obtain ⟨d', reached, follows⟩ := run_follows done fuel
  obtain ⟨e', arrived, followed⟩ := run_follows finished fuel
  obtain ⟨-, rfl⟩ := Prod.mk.inj (Except.ok.inj (left.symm.trans reached))
  obtain ⟨-, rfl⟩ := Prod.mk.inj (Except.ok.inj (right.symm.trans arrived))
  have logged : s.log = stored calls replies := run_log done
  have recorded : t.log = stored others returned := run_log finished
  rw [follows.disk, followed.disk, Store.image_eq_iff, logged, recorded]

/-! ### An instance -/

/-- The folder, with an extension that is not stored. -/
def docsWithExt : FAT32DriverRequest := { docs with ext := fun _ => 0x61 }

theorem empty_slot (x : Nat) : (entriesOf Store.empty.log x).length < 63 := Nat.zero_lt_succ 62

def extStore : Store :=
  Store.empty.append docsWithExt rfl (empty_slot _) (Nat.le_of_ble_eq_true rfl)

theorem extStore_slot : (entriesOf extStore.log 3).length < 63 := Nat.zero_lt_succ 62

def laterStore : Store := extStore.append innerNote rfl extStore_slot (Nat.le_of_ble_eq_true rfl)

def laterCalls : List Call := [.write docsWithExt, .read note, .write innerNote]

def laterReplies : List Reply := [.status 0, .status 3, .status 0]

theorem disk_recalls_writes_note : ∃ d e,
    run (HexOS.Fat32.step 0) (booted blankDisk) noteCalls = .ok (noteReplies, d) ∧
      run (HexOS.Fat32.step 0) (booted blankDisk) laterCalls = .ok (laterReplies, e) ∧
      d.disk = e.disk := by
  have done : run Store.step Store.empty noteCalls = .ok (noteReplies, noteStore) := rfl
  have finished : run Store.step Store.empty laterCalls = .ok (laterReplies, laterStore) := rfl
  obtain ⟨d, left, -⟩ := run_follows done 0
  obtain ⟨e, right, -⟩ := run_follows finished 0
  have folder : SameWrite docs docsWithExt :=
    ⟨rfl, rfl, rfl, fun file => absurd rfl file, fun file => absurd rfl file⟩
  have inner : SameWrite innerNote innerNote := ⟨rfl, rfl, rfl, fun _ => rfl, fun _ _ _ => rfl⟩
  have same : List.Forall₂ SameWrite (stored noteCalls noteReplies) (stored laterCalls laterReplies) :=
    .cons folder (.cons inner .nil)
  exact ⟨d, e, left, right, (disk_recalls_writes done finished left right).mpr same⟩

end HexOS.Files
