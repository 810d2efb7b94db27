import HexOS.Files.Image
import HexOS.Fat32.FileWrites

/-!
One more write.

The driver stores the entry, then the folder or the file, cluster by cluster and link
by link. `volume_folder` and `volume_file` prove that the volume it leaves is the
volume of the longer log.
-/

namespace HexOS.Files

open BoundedScan Extents HexOS.Fat32

theorem getD_snoc {β : Type*} (items : List β) (a blank : β) (i : Nat) :
    (items ++ [a]).getD i blank = if i = items.length then a else items.getD i blank := by
  by_cases last : i = items.length
  · rw [if_pos last, last, List.getD_append_right _ _ _ _ le_rfl, Nat.sub_self, List.getD_cons_zero]
  · rw [if_neg last]
    by_cases inside : i < items.length
    · exact List.getD_append _ _ _ _ inside
    · rw [List.getD_eq_default _ _ (by rw [List.length_append, List.length_singleton]; omega),
        List.getD_eq_default _ _ (Nat.not_lt.mp inside)]

/-- The entry that a write stores in an unused slot. -/
theorem writeEntry_record {request : FAT32DriverRequest} {table : FAT32DirectoryTable} {k : Fin 64}
    (unused : table k = .empty) (c : Fin 512) :
    writeEntry request table (num c) k k = Record.entry (c.val, request) := by
  have halves : ∀ c : Fin 512, (num c &&& 0xFFFF).toUInt16 = UInt16.ofNat c.val ∧
      (num c >>> 16).toUInt16 = 0 := by
    decide +kernel
  obtain ⟨low, high⟩ := halves c
  rw [writeEntry, Function.update_self, unused, low, high, Record.entry, Record.ext]
  by_cases folder : request.bufferSize = 0
  · simp only [folder, if_true, FAT32DirectoryEntry.empty]
  · simp only [folder, if_false, FAT32DirectoryEntry.empty]

/-- No write names a cluster behind the log as its parent. -/
theorem entriesOf_beyond {s : Store} {x : Nat} (beyond : frontier s.log ≤ x) :
    entriesOf s.log x = [] := by
  rw [entriesOf, List.filter_eq_nil_iff]
  intro p member here
  have before := (s.parents p member).1
  have positive := clustersOf_pos p.2
  have last : p.1 + clustersOf p.2 ≤ frontier s.log := (placed_bounds member).2.1
  have same := of_decide_eq_true here
  omega

/-- A write that is due: the store, the request and where it goes. -/
structure Due (s : Store) (request : FAT32DriverRequest) (f : Folder) (c : Fin 512) (k : Fin 64) :
    Prop where
  folder : s.folder request.parentClusterNumber.toNat = some f
  cluster : c.val = frontier s.log
  slot : k.val = (entriesOf s.log request.parentClusterNumber.toNat).length + 1
  enough : frontier s.log + clustersOf request ≤ 512

section

variable {s : Store} {request : FAT32DriverRequest} {f : Folder} {c : Fin 512} {k : Fin 64} {x : Nat}

namespace Due

theorem parent_lt (due : Due s request f c k) :
    request.parentClusterNumber.toNat < frontier s.log := folderAt_lt due.folder

theorem room (due : Due s request f c k) :
    (entriesOf s.log request.parentClusterNumber.toNat).length < 63 := by
  have inside := k.isLt
  have slot := due.slot
  omega

/-- The longer log. -/
def next (due : Due s request f c k) : Store :=
  s.append request (Option.isSome_of_eq_some due.folder) due.room due.enough

variable (due : Due s request f c k)
include due

theorem recordAt_next : recordAt due.next.log x =
    if c.val ≤ x ∧ x < c.val + clustersOf request then some (c.val, request)
    else recordAt s.log x := by
  rw [due.cluster]
  exact recordAt_snoc x

theorem entriesOf_next : entriesOf due.next.log x = entriesOf s.log x ++
    if request.parentClusterNumber.toNat = x then [(c.val, request)] else [] := by
  rw [due.cluster]
  exact entriesOf_snoc x

theorem folder_next : due.next.folder x =
    if x = c.val ∧ request.bufferSize = 0 then some ⟨request.name, request.parentClusterNumber⟩
    else s.folder x := by
  have low : 3 ≤ frontier s.log := Nat.le_add_right _ _
  have cluster := due.cluster
  by_cases new : c.val ≤ x ∧ x < c.val + clustersOf request
  · have none := Store.folder_beyond (s := s) (x := x) (by omega)
    rw [Store.folder, folderAt, if_neg (by omega), due.recordAt_next, if_pos new, none]
    by_cases folder : request.bufferSize = 0
    · have one : clustersOf request = 1 := if_pos folder
      rw [if_pos ⟨by omega, folder⟩]
      exact if_pos folder
    · rw [if_neg fun here => folder here.2]
      exact if_neg folder
  · have other : ¬ (x = c.val ∧ request.bufferSize = 0) := by
      rintro ⟨rfl, -⟩
      exact new ⟨le_rfl, Nat.lt_add_of_pos_right (clustersOf_pos request)⟩
    rw [if_neg other, Store.folder, Store.folder, folderAt, folderAt, due.recordAt_next, if_neg new]

theorem table_next (other : x ≠ request.parentClusterNumber.toNat) (g : Folder) :
    due.next.table x g = s.table x g := by
  funext i
  rw [Store.table, due.entriesOf_next, if_neg fun same => other same.symm, List.append_nil,
    Store.table]

theorem slot_unused : s.table request.parentClusterNumber.toNat f k = .empty := by
  have slot := due.slot
  rw [Store.table_slot (by omega), List.getD_eq_default _ _ (by rw [List.length_map]; omega)]

/-- The parent's table gains the entry. -/
theorem table_parent : due.next.table request.parentClusterNumber.toNat f =
    writeEntry request (s.table request.parentClusterNumber.toNat f) (num c) k := by
  have slot := due.slot
  have unused := due.slot_unused
  funext i
  rw [Store.table, due.entriesOf_next, if_pos rfl, List.map_append, List.map_singleton,
    ← List.cons_append, getD_snoc, List.length_cons, List.length_map]
  by_cases here : i = k
  · rw [if_pos (by rw [here]; exact slot), here, writeEntry_record unused]
  · have apart := Fin.val_ne_of_ne here
    rw [if_neg (by omega), writeEntry_of_ne here, Store.table]

theorem parent_apart : request.parentClusterNumber.toNat ≠ c.val := by
  have below := due.parent_lt
  have cluster := due.cluster
  omega

theorem parent_ge : 2 ≤ request.parentClusterNumber.toNat := Store.folder_ge due.folder

/-- Clusters that are neither new nor the parent's stay. -/
theorem image_next (fat : x ≠ 1) (parent : x ≠ request.parentClusterNumber.toNat)
    (old : ¬ (c.val ≤ x ∧ x < c.val + clustersOf request)) : due.next.image x = s.image x := by
  have other : ¬ (x = c.val ∧ request.bufferSize = 0) := by
    rintro ⟨rfl, -⟩
    exact old ⟨le_rfl, Nat.lt_add_of_pos_right (clustersOf_pos request)⟩
  rw [Store.image, Store.image, if_neg fat, if_neg fat, due.folder_next, if_neg other,
    due.recordAt_next, if_neg old]
  cases s.folder x with
  | none => rfl
  | some g => simp only [due.table_next parent]

theorem image_parent : due.next.image request.parentClusterNumber.toNat =
    tableBytes (writeEntry request (s.table request.parentClusterNumber.toNat f) (num c) k) := by
  have found : due.next.folder request.parentClusterNumber.toNat = some f := by
    rw [due.folder_next, if_neg fun here => due.parent_apart here.1, due.folder]
  rw [Store.image_folder found, due.table_parent]

theorem storeEntry_parent : storeEntry request s.image c k request.parentClusterNumber.toNat =
    due.next.image request.parentClusterNumber.toNat := by
  rw [due.image_parent, storeEntry, Function.update_self, Store.parentTable_image due.folder]

/-! ### The FAT -/

theorem fat_next (e : Fin 512) : due.next.fat e =
    if c.val ≤ e.val ∧ e.val < c.val + clustersOf request then
      if e.val + 1 = c.val + clustersOf request then fatEndOfFile else UInt32.ofNat (e.val + 1)
    else s.fat e := by
  have low : 3 ≤ frontier s.log := Nat.le_add_right _ _
  have cluster := due.cluster
  by_cases new : c.val ≤ e.val ∧ e.val < c.val + clustersOf request
  · rw [if_pos new, Store.fat, if_neg (by omega), if_neg (by omega), if_neg (by omega),
      due.recordAt_next, if_pos new]
  · rw [if_neg new, Store.fat, due.recordAt_next, if_neg new, Store.fat]

theorem accepts : Accepts s.image request.parentClusterNumber := by
  have above := due.parent_ge
  have below := due.parent_lt
  have fits := s.fits
  refine ⟨above, by omega, ?_⟩
  rw [← parentTable, Store.parentTable_image due.folder, LooksLikeDirectory, Store.table_zero]
  exact ⟨rfl, rfl⟩

theorem firstFree : FirstFree s.fat c := Store.firstFree_iff.mpr due.cluster

theorem firstSlot : FirstSlot (parentTable s.image request.parentClusterNumber) k := by
  rw [Store.parentTable_image due.folder]
  exact Store.firstSlot_iff.mpr due.slot

/-- **A folder** takes one cluster, and its table shows its header alone. -/
theorem volume_folder (folder : request.bufferSize = 0) :
    Volume.makeFolder request c ⟨s.fat, storeEntry request s.image c k⟩ = due.next.volume := by
  have one : clustersOf request = 1 := if_pos folder
  have apart := due.parent_apart
  have low : 3 ≤ frontier s.log := Nat.le_add_right _ _
  have cluster := due.cluster
  have fat : Function.update s.fat c fatEndOfFile = due.next.fat := by
    funext e
    rw [due.fat_next, one]
    by_cases here : e = c
    · rw [here, Function.update_self, if_pos ⟨le_rfl, Nat.lt_succ_self _⟩, if_pos rfl]
    · have other := Fin.val_ne_of_ne here
      rw [Function.update_of_ne here, if_neg (by omega)]
  have own : initDirectoryTable (tableOf (storeEntry request s.image c k c.val)) request.name
      request.parentClusterNumber =
      due.next.table c.val ⟨request.name, request.parentClusterNumber⟩ := by
    rw [storeEntry_of_ne apart.symm, Store.image_beyond (Nat.le_of_eq cluster.symm), tableOf_blank]
    funext i
    rw [Store.table, due.entriesOf_next, if_neg apart,
      entriesOf_beyond (Nat.le_of_eq cluster.symm), List.append_nil, List.map_nil]
    by_cases header : i = 0
    · rw [header]
      rfl
    · have behind : 1 ≤ i.val := Nat.one_le_iff_ne_zero.mpr (Fin.val_ne_zero_iff.mpr header)
      rw [initDirectoryTable_of_ne header, List.getD_eq_default _ _ behind]
  have disk : Function.update (Function.update (storeEntry request s.image c k) c.val
      (tableBytes (due.next.table c.val ⟨request.name, request.parentClusterNumber⟩))) 1
      (fatBytes due.next.fat) = due.next.image := by
    funext x
    by_cases isFat : x = 1
    · rw [isFat, Function.update_self, Store.image, if_neg Nat.one_ne_zero, if_pos rfl]
    · rw [Function.update_of_ne isFat]
      by_cases new : x = c.val
      · have found := due.folder_next (x := c.val)
        rw [if_pos ⟨rfl, folder⟩] at found
        rw [new, Function.update_self, Store.image_folder found]
      · rw [Function.update_of_ne new]
        by_cases parent : x = request.parentClusterNumber.toNat
        · rw [parent, due.storeEntry_parent]
        · rw [storeEntry_of_ne parent, due.image_next isFat parent (by omega)]
  simp only [Volume.makeFolder, Store.volume]
  rw [own, fat, disk]

/-! ### Files -/

/-- The chain of a new file. -/
theorem chain_eq : fileChain s.fat c request.bufferSize =
    ((List.finRange 512).drop c.val).take (chunksNeeded request.bufferSize) := by
  have cluster := due.cluster
  have inside : c.val < (List.finRange 512).length := by
    rw [List.length_finRange]
    exact c.isLt
  rw [fileChain, Store.freeClusters_beyond (by omega), List.drop_eq_getElem_cons inside,
    List.getElem_finRange]
  rfl

theorem chain_getElem {i : Nat} (inside : i < (fileChain s.fat c request.bufferSize).length) :
    ((fileChain s.fat c request.bufferSize)[i]).val = c.val + i := by
  simp only [due.chain_eq, List.getElem_take, List.getElem_drop, List.getElem_finRange, Fin.val_cast]

section

variable (file : request.bufferSize ≠ 0)
include file

theorem chunks_enough : clustersOf request = chunksNeeded request.bufferSize ∧
    c.val + chunksNeeded request.bufferSize ≤ 512 := by
  have size : clustersOf request = chunksNeeded request.bufferSize := if_neg file
  have enough := due.enough
  have cluster := due.cluster
  exact ⟨size, by omega⟩

theorem chain_fits : fileFits s.fat c request.bufferSize = true := by
  have cluster := due.cluster
  obtain ⟨-, enough⟩ := due.chunks_enough file
  rw [fileFits, Store.freeClusters_beyond (by omega), List.length_drop, List.length_finRange,
    decide_eq_true_eq]
  omega

theorem chain_length : (fileChain s.fat c request.bufferSize).length = clustersOf request := by
  rw [fileChain_length (due.chain_fits file), (due.chunks_enough file).1]

theorem mem_chain {e : Fin 512} : e ∈ fileChain s.fat c request.bufferSize ↔
    c.val ≤ e.val ∧ e.val < c.val + clustersOf request := by
  have length := due.chain_length file
  constructor
  · intro member
    obtain ⟨i, inside, here⟩ := List.getElem_of_mem member
    have value := due.chain_getElem inside
    rw [here] at value
    omega
  · rintro ⟨above, below⟩
    have inside : e.val - c.val < (fileChain s.fat c request.bufferSize).length := by omega
    have value := due.chain_getElem inside
    have here : (fileChain s.fat c request.bufferSize)[e.val - c.val] = e := Fin.ext (by omega)
    rw [← here]
    exact List.getElem_mem inside

theorem fat_file : (Volume.makeFile request c 0 request.bufferSize
    (storeEntry request s.image c k)).2.fat = due.next.fat := by
  have parent := due.parent_lt
  have low := due.parent_ge
  have used : ∀ e : Fin 512, e.val = request.parentClusterNumber.toNat →
      s.fat e ≠ fatEmptyEntry := by
    intro e here free
    have beyond := (Store.fat_free_iff (by omega)).mp free
    omega
  have stored : FileStored request k ((freeClusters s.fat 2).take (chunksNeeded request.bufferSize))
      s.volume (Volume.makeFile request c 0 request.bufferSize (storeEntry request s.image c k)).2 :=
    fileStored_makeFile (v := s.volume) Store.image_fat.symm due.accepts used file due.firstFree
      due.firstSlot (due.chain_fits file)
  rw [← fileChain_eq_take due.firstFree] at stored
  have length := due.chain_length file
  funext e
  rw [due.fat_next]
  by_cases new : c.val ≤ e.val ∧ e.val < c.val + clustersOf request
  · rw [if_pos new]
    have inside : e.val - c.val < (fileChain s.fat c request.bufferSize).length := by omega
    have here : (fileChain s.fat c request.bufferSize)[e.val - c.val] = e :=
      Fin.ext (by
        have value := due.chain_getElem inside
        omega)
    by_cases last : e.val + 1 = c.val + clustersOf request
    · have nonempty : fileChain s.fat c request.bufferSize ≠ [] := List.ne_nil_of_length_pos (by omega)
      have ends : (fileChain s.fat c request.bufferSize).getLast nonempty = e := by
        rw [List.getLast_eq_getElem, ← here]
        exact getElem_congr_idx (by omega)
      rw [if_pos last]
      exact ends ▸ stored.last nonempty
    · have behind : e.val - c.val + 1 < (fileChain s.fat c request.bufferSize).length := by omega
      have links := stored.links (e.val - c.val) behind
      have value := due.chain_getElem behind
      rw [if_neg last, ← here, links, num, value, here]
      exact congrArg UInt32.ofNat (by omega)
  · rw [if_neg new]
    exact stored.entries e fun member => new ((due.mem_chain file).mp member)

/-- **A file** takes the clusters behind the log, linked in order. -/
theorem volume_file : Volume.makeFile request c 0 request.bufferSize (storeEntry request s.image c k) =
    (0, due.next.volume) := by
  have low : 3 ≤ frontier s.log := Nat.le_add_right _ _
  have cluster := due.cluster
  have chainLength := due.chain_length file
  have synced : fatOf (storeEntry request s.image c k 1) = s.fat := by
    rw [storeEntry_fat due.accepts, Store.image_fat]
  have code : (Volume.makeFile request c 0 request.bufferSize
      (storeEntry request s.image c k)).1 = 0 := by
    rw [makeFile_code_iff, synced]
    exact due.chain_fits file
  have fat := due.fat_file file
  obtain ⟨flushed, -, untouched, data⟩ := makeFile_spec request (by omega : 2 ≤ c.val) 0
    request.bufferSize (storeEntry request s.image c k)
  rw [synced] at untouched data
  have disk : (Volume.makeFile request c 0 request.bufferSize
      (storeEntry request s.image c k)).2.disk = due.next.image := by
    funext x
    by_cases isFat : x = 1
    · rw [isFat, Store.image, if_neg Nat.one_ne_zero, if_pos rfl, ← fat, flushed, fatBytes_fatOf]
    · by_cases new : c.val ≤ x ∧ x < c.val + clustersOf request
      · have inside : x - c.val < (fileChain s.fat c request.bufferSize).length := by omega
        have value := due.chain_getElem inside
        have stored := data (x - c.val) inside
        have here : (fileChain s.fat c request.bufferSize)[x - c.val].val = x := by omega
        have found := due.recordAt_next (x := x)
        rw [if_pos new] at found
        rw [here, Nat.zero_add] at stored
        rw [stored, Store.image_file found file]
      · have outside : ∀ e ∈ fileChain s.fat c request.bufferSize, e.val ≠ x := by
          rintro e member rfl
          exact new ((due.mem_chain file).mp member)
        rw [untouched x isFat outside]
        by_cases parent : x = request.parentClusterNumber.toNat
        · rw [parent, due.storeEntry_parent]
        · rw [storeEntry_of_ne parent, due.image_next isFat parent new]
  refine Prod.ext code ?_
  rw [Store.volume, ← fat, ← disk]

end

end Due

end

end HexOS.Files
