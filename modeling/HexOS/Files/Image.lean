import HexOS.Files.WriteLog
import Mathlib.Data.List.GetD

/-!
What the driver finds on the volume of a store.

Its parent check admits the folders, its searches give the next cluster and the next
slot, and the slots it scans show the items of the folder in their order.
-/

namespace HexOS.Files

open BoundedScan Extents HexOS.Fat32

/-! ### Clusters -/

namespace Store

variable {s : Store} {x : Nat} {f : Folder} {p : Record}

theorem recordAt_record (member : p ∈ records s.log) : recordAt s.log p.1 = some p :=
  owner_of_placed member ⟨le_rfl, Nat.lt_add_of_pos_right (clustersOf_pos p.2)⟩

theorem recordAt_beyond (beyond : frontier s.log ≤ x) : recordAt s.log x = none :=
  owner_none_of_beyond beyond

theorem recordAt_below (below : x < 3) : recordAt s.log x = none := owner_none_of_below below

theorem folder_ge (found : s.folder x = some f) : 2 ≤ x := by
  rw [folder, folderAt] at found
  split at found
  · rename_i root
    exact Nat.le_of_eq root.symm
  · split at found
    · rename_i here
      have bounds := recordAt_bounds here
      omega
    · cases found

theorem folder_record (member : p ∈ records s.log) : s.folder p.1 =
    if p.2.bufferSize = 0 then some ⟨p.2.name, p.2.parentClusterNumber⟩ else none := by
  have above := (placed_bounds member).1
  rw [folder, folderAt, if_neg (by omega), recordAt_record member]

theorem folder_iff (behind : x ≠ 2) : s.folder x = some f ↔ ∃ p, recordAt s.log x = some p ∧
    p.2.bufferSize = 0 ∧ f = ⟨p.2.name, p.2.parentClusterNumber⟩ := by
  rw [folder, folderAt, if_neg behind]
  constructor
  · intro found
    split at found
    · rename_i first request here
      split at found
      · rename_i isFolder
        exact ⟨(first, request), here, isFolder, (Option.some.inj found).symm⟩
      · cases found
    · cases found
  · rintro ⟨⟨first, request⟩, here, isFolder, rfl⟩
    rw [here]
    exact if_pos isFolder

theorem inFile_folder (found : s.folder x = some f) : s.inFile x = false := by
  by_cases root : x = 2
  · rw [inFile, recordAt_below (by omega)]
  · obtain ⟨p, here, isFolder, -⟩ := (folder_iff root).mp found
    rw [inFile, here]
    simp [isFolder]

theorem folder_beyond (beyond : frontier s.log ≤ x) : s.folder x = none := by
  have low : 3 ≤ frontier s.log := Nat.le_add_right _ _
  rw [folder, folderAt, if_neg (by omega), recordAt_beyond beyond]

theorem image_folder (found : s.folder x = some f) : s.image x = tableBytes (s.table x f) := by
  have above := folder_ge found
  rw [image, if_neg (by omega), if_neg (by omega), found]

theorem image_file (found : recordAt s.log x = some p) (file : p.2.bufferSize ≠ 0) :
    s.image x = chunk p.2 (x - p.1) := by
  have bounds := recordAt_bounds found
  have none : s.folder x = none := by
    rw [folder, folderAt, if_neg (by omega), found]
    exact if_neg file
  rw [image, if_neg (by omega), if_neg (by omega), none, found]

theorem image_beyond (beyond : frontier s.log ≤ x) : s.image x = fun _ => 0 := by
  have low : 3 ≤ frontier s.log := Nat.le_add_right _ _
  rw [image, if_neg (by omega), if_neg (by omega), folder_beyond beyond, recordAt_beyond beyond]

theorem image_fat : fatOf (s.image 1) = s.fat := by
  rw [image, if_neg Nat.one_ne_zero, if_pos rfl, fatOf_fatBytes]

theorem image_record (member : p ∈ records s.log) : s.image p.1 = s.content p := by
  rw [content]
  split
  · rename_i folder
    have found := folder_record member
    rw [if_pos folder] at found
    exact image_folder found
  · rename_i file
    rw [image_file (recordAt_record member) file, Nat.sub_self]

/-! ### The FAT -/

theorem fat_free_iff {c : Fin 512} (above : 2 ≤ c.val) :
    s.fat c = fatEmptyEntry ↔ frontier s.log ≤ c.val := by
  have low : 3 ≤ frontier s.log := Nat.le_add_right _ _
  have used : fatEndOfFile ≠ fatEmptyEntry := by decide
  rw [fat, if_neg (by omega), if_neg (by omega)]
  by_cases root : c.val = 2
  · rw [if_pos root]
    exact iff_of_false used (by omega)
  · rw [if_neg root]
    by_cases beyond : frontier s.log ≤ c.val
    · rw [recordAt_beyond beyond]
      exact iff_of_true rfl beyond
    · obtain ⟨p, found⟩ := exists_owner (x := c.val) (by omega) (Nat.not_le.mp beyond)
      have here : recordAt s.log c.val = some p := found
      have inside := (recordAt_bounds here).2.2.2
      have fits := s.fits
      rw [here]
      refine iff_of_false ?_ beyond
      simp only
      split
      · exact used
      · intro zero
        have value := congrArg UInt32.toNat zero
        rw [UInt32.toNat_ofNat_of_lt' (by simp only [UInt32.size]; omega)] at value
        exact absurd value (Nat.succ_ne_zero _)

theorem firstFree_iff {c : Fin 512} : FirstFree s.fat c ↔ c.val = frontier s.log := by
  have low : 3 ≤ frontier s.log := Nat.le_add_right _ _
  constructor
  · intro first
    obtain ⟨above, free, least⟩ := first.spec
    have beyond := (fat_free_iff above).mp free
    by_contra other
    have inside := c.isLt
    refine least ⟨frontier s.log, by omega⟩ (Fin.lt_def.mpr (by simp only; omega))
      (by simp only; omega) ?_
    exact (fat_free_iff (by simp only; omega)).mpr le_rfl
  · intro here
    refine firstFrom_eq_some_iff.mpr ⟨by omega, ?_, fun j before above => ?_⟩
    · exact beq_iff_eq.mpr ((fat_free_iff (by omega)).mpr (Nat.le_of_eq here.symm))
    · have less := Fin.lt_def.mp before
      exact beq_eq_false_iff_ne.mpr fun free => by
        have beyond := (fat_free_iff above).mp free
        omega

theorem freeClusters_beyond {lo : Nat} (beyond : frontier s.log ≤ lo) :
    freeClusters s.fat lo = (List.finRange 512).drop lo := by
  have low : 3 ≤ frontier s.log := Nat.le_add_right _ _
  refine matchesFrom_all fun i above => ?_
  exact beq_iff_eq.mpr ((fat_free_iff (by omega)).mpr (by omega))

/-! ### Parents -/

theorem table_zero : s.table x f 0 = f.header := rfl

theorem accepts_iff {parent : UInt32} (outside : s.inFile parent.toNat = false) :
    Accepts s.image parent ↔ (s.folder parent.toNat).isSome := by
  cases found : s.folder parent.toNat with
  | some f =>
      have above := folder_ge found
      have below := folderAt_lt found
      have fits := s.fits
      refine iff_of_true ⟨above, by omega, ?_⟩ rfl
      rw [image_folder found, tableOf_tableBytes, LooksLikeDirectory, table_zero]
      exact ⟨rfl, rfl⟩
  | none =>
      refine iff_of_false ?_ Bool.false_ne_true
      rintro ⟨above, -, looks⟩
      have unowned : recordAt s.log parent.toNat = none := by
        cases here : recordAt s.log parent.toNat with
        | none => rfl
        | some p =>
            have bounds := recordAt_bounds here
            rw [folder, folderAt, if_neg (by omega), here] at found
            rw [inFile, here] at outside
            by_cases folder : p.2.bufferSize = 0
            · simp [folder] at found
            · simp [folder] at outside
      rw [image, if_neg (by omega), if_neg (by omega), found, unowned, tableOf_blank] at looks
      exact absurd looks.1 (by decide)

theorem parentTable_image {parent : UInt32} (found : s.folder parent.toNat = some f) :
    parentTable s.image parent = s.table parent.toNat f := by
  rw [parentTable, image_folder found, tableOf_tableBytes]

/-- The table is blank behind its entries. -/
theorem table_slot {i : Fin 64} (behind : 1 ≤ i.val) :
    s.table x f i = ((entriesOf s.log x).map Record.entry).getD (i.val - 1) .empty := by
  obtain ⟨j, succ⟩ : ∃ j, i.val = j + 1 := ⟨i.val - 1, by omega⟩
  rw [table, succ, List.getD_cons_succ, Nat.add_sub_cancel]

theorem live_iff {i : Fin 64} (behind : 1 ≤ i.val) :
    Live (s.table x f i) ↔ i.val ≤ (entriesOf s.log x).length := by
  rw [table_slot behind]
  by_cases inside : i.val - 1 < (entriesOf s.log x).length
  · rw [List.getD_eq_getElem _ _ (by rwa [List.length_map]), List.getElem_map]
    exact iff_of_true rfl (by omega)
  · rw [List.getD_eq_default _ _ (by rw [List.length_map]; omega)]
    exact iff_of_false (by decide) (by omega)

theorem firstSlot_iff {k : Fin 64} :
    FirstSlot (s.table x f) k ↔ k.val = (entriesOf s.log x).length + 1 := by
  constructor
  · intro first
    obtain ⟨above, free, least⟩ := first.spec
    rw [live_iff above] at free
    by_contra other
    have inside := k.isLt
    have before := least ⟨(entriesOf s.log x).length + 1, by omega⟩
      (Fin.lt_def.mpr (by simp only; omega)) (by simp only; omega)
    rw [live_iff (by simp only; omega)] at before
    simp only at before
    omega
  · intro here
    refine firstFrom_eq_some_iff.mpr ⟨by omega, ?_, fun j before above => ?_⟩
    · have free : ¬ Live (s.table x f k) := by
        rw [live_iff (by omega)]
        omega
      simpa [Live] using free
    · have less := Fin.lt_def.mp before
      have live : Live (s.table x f j) := by
        rw [live_iff above]
        omega
      simpa [Live] using live

/-! ### Slots and items -/

/-- What is read of a slot. -/
def shown (s : Store) (e : FAT32DirectoryEntry) : Item :=
  ⟨e.name, e.ext, e.filesize, HexOS.Fat32.readClusters s.image e.clusterLow.toUInt32⟩

theorem folder_parent_lt (found : s.folder x = some f) : f.parent.toNat < 512 := by
  have fits := s.fits
  rw [folder, folderAt] at found
  split at found
  · obtain rfl := Option.some.inj found
    decide
  · split at found
    · rename_i first request here
      split at found
      · obtain rfl := Option.some.inj found
        obtain ⟨member, -, -, inside, below⟩ := recordAt_bounds here
        have before := (s.parents (first, request) member).1
        simp only at before inside below ⊢
        omega
      · cases found
    · cases found

theorem shown_cluster {e : FAT32DirectoryEntry} {c : Nat} (low : e.clusterLow.toNat = c) :
    s.shown e = ⟨e.name, e.ext, e.filesize, s.image c⟩ := by
  have small := e.clusterLow.toNat_lt
  have same : e.clusterLow.toUInt32.toNat = c := by rw [UInt16.toNat_toUInt32, low]
  rw [shown, readClusters_of_lt _ (by omega), same]

theorem image_zero : s.image 0 = signatureCluster := if_pos rfl

theorem shown_header (found : s.folder x = some f) :
    s.shown f.header = ⟨f.name, fun _ => 0, 0, signatureCluster⟩ := by
  have small := folder_parent_lt found
  have low : f.header.clusterLow.toNat = 0 := by
    change (f.parent >>> 16).toUInt16.toNat = 0
    rw [UInt32.toNat_toUInt16, ByteWords.toNat_shiftRight _ _ (by decide)]
    have sixteen : (16 : UInt32).toNat = 16 := rfl
    rw [sixteen, Nat.div_eq_of_lt (by omega)]
  rw [shown_cluster low, image_zero]
  rfl

theorem entry_cluster (member : p ∈ records s.log) : p.entry.clusterLow.toNat = p.1 :=
  UInt16.toNat_ofNat_of_lt' (by
    have last : p.1 + clustersOf p.2 ≤ frontier s.log := (placed_bounds member).2.1
    have fits := s.fits
    have positive := clustersOf_pos p.2
    simp only [UInt16.size]
    omega)

theorem shown_record (member : p ∈ records s.log) : s.shown p.entry = s.item p := by
  rw [shown_cluster (entry_cluster member), image_record member]
  rfl

theorem shown_empty : s.shown .empty = unusedItem := by
  rw [shown_cluster (c := 0) rfl, image_zero]
  rfl

theorem items_shown (found : s.folder x = some f) : s.items x f =
    (f.header :: (entriesOf s.log x).map Record.entry ++
      List.replicate (63 - (entriesOf s.log x).length) FAT32DirectoryEntry.empty).map s.shown := by
  have entries : (entriesOf s.log x).map s.item =
      ((entriesOf s.log x).map Record.entry).map s.shown := by
    rw [List.map_map]
    exact List.map_congr_left fun p member => (shown_record (List.mem_of_mem_filter member)).symm
  rw [List.map_append, List.map_cons, List.map_replicate, shown_header found, shown_empty, items,
    entries]

/-- Scanning the slots finds what searching the items finds. -/
theorem scan_table (found : s.folder x = some f) {q : FAT32DirectoryEntry → Bool} {r : Item → Bool}
    (same : ∀ e, r (s.shown e) = q e) :
    ((firstFrom 0 fun i => q (s.table x f i)).map fun i => s.shown (s.table x f i)) =
      (s.items x f).find? r := by
  have room := s.room x
  have length : (f.header :: (entriesOf s.log x).map Record.entry).length ≤ 64 := by
    rw [List.length_cons, List.length_map]
    exact room
  have left : 64 - (f.header :: (entriesOf s.log x).map Record.entry).length =
      63 - (entriesOf s.log x).length := by
    rw [List.length_cons, List.length_map]
    omega
  have scan := @map_firstFrom_getD 64 _ _ FAT32DirectoryEntry.empty length q
  rw [left] at scan
  have asked : (r ∘ s.shown) = q := funext same
  rw [items_shown found, List.find?_map, asked, ← scan, Option.map_map]
  rfl

end Store

end HexOS.Files
