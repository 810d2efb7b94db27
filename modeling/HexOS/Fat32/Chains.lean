import HexOS.Fat32.Outcome

/-!
Chains in the FAT: what linking and storing a file does, entry by entry.

A FAT entry is read as a link (`fatLink`). Linking a chain touches the entries
of the chain alone, keeps links pointing forward, and, when the chain is
complete, makes it a chain in the sense of the link table.
-/

namespace HexOS.Fat32

open BoundedScan LinkTable

/-- The link an entry of the FAT stands for. -/
def fatLink (fat : FAT32FileAllocationTable) (c : Fin 512) : Link 512 :=
  if fat c = fatEmptyEntry then .free
  else if fat c = fatEndOfFile then .last
  else if h : (fat c).toNat < 512 then .next ⟨(fat c).toNat, h⟩
  else .bad

theorem num_ne_endOfFile (d : Fin 512) : num d ≠ fatEndOfFile := by
  intro same
  have value := congrArg UInt32.toNat same
  have limit : fatEndOfFile.toNat = 0x0FFFFFFF := rfl
  have := d.isLt
  rw [toNat_num, limit] at value
  omega

theorem num_eq_empty_iff (d : Fin 512) : num d = fatEmptyEntry ↔ d = 0 := by
  rw [show fatEmptyEntry = num 0 from rfl, num_inj]

theorem fatLink_free_iff {fat : FAT32FileAllocationTable} {c : Fin 512} :
    fatLink fat c = .free ↔ fat c = fatEmptyEntry := by
  unfold fatLink
  by_cases empty : fat c = fatEmptyEntry
  · simp [empty]
  · rw [if_neg empty]
    split
    · simp [empty]
    · split <;> simp [empty]

theorem fatLink_last_iff {fat : FAT32FileAllocationTable} {c : Fin 512} :
    fatLink fat c = .last ↔ fat c = fatEndOfFile := by
  have differ : fatEmptyEntry ≠ fatEndOfFile := by decide
  unfold fatLink
  by_cases empty : fat c = fatEmptyEntry
  · simp [empty, differ]
  · rw [if_neg empty]
    by_cases last : fat c = fatEndOfFile
    · simp [last]
    · rw [if_neg last]
      split <;> simp [last]

theorem fatLink_next_iff {fat : FAT32FileAllocationTable} {c d : Fin 512} :
    fatLink fat c = .next d ↔ fat c = num d ∧ d ≠ 0 := by
  constructor
  · intro leads
    unfold fatLink at leads
    split at leads
    · cases leads
    · rename_i used
      split at leads
      · cases leads
      · split at leads
        · rename_i small
          cases leads
          have value := eq_num_of_lt small
          refine ⟨value, fun zero => used ?_⟩
          rw [value, zero]
          rfl
        · cases leads
  · rintro ⟨value, nonzero⟩
    have small : (fat c).toNat < 512 := by rw [value, toNat_num]; exact d.isLt
    have same : (⟨(fat c).toNat, small⟩ : Fin 512) = d := Fin.ext (by simp [value, toNat_num])
    rw [fatLink, if_neg (by rw [value, num_eq_empty_iff]; exact nonzero),
      if_neg (by rw [value]; exact num_ne_endOfFile d), dif_pos small, same]

theorem fatLink_congr {fat fat' : FAT32FileAllocationTable} {c : Fin 512} (same : fat' c = fat c) :
    fatLink fat' c = fatLink fat c := by
  rw [fatLink, fatLink]
  simp only [same]

/-! ### Forward links -/

theorem ascending_update {lo : Nat} {fat : FAT32FileAllocationTable}
    (ascending : Ascending lo (fatLink fat)) {c : Fin 512} {entry : UInt32}
    (forward : lo ≤ c.val →
      entry = fatEmptyEntry ∨ entry = fatEndOfFile ∨ ∃ d, c < d ∧ entry = num d) :
    Ascending lo (fatLink (Function.update fat c entry)) := by
  intro e he
  by_cases same : e = c
  · subst same
    rcases forward he with empty | last | ⟨d, less, link⟩
    · exact .inl (fatLink_free_iff.mpr (by rw [Function.update_self, empty]))
    · exact .inr (.inl (fatLink_last_iff.mpr (by rw [Function.update_self, last])))
    · have nonzero : d ≠ 0 := Fin.pos_iff_ne_zero.mp (lt_of_le_of_lt (Fin.zero_le e) less)
      exact .inr (.inr ⟨d, less, fatLink_next_iff.mpr ⟨by rw [Function.update_self, link], nonzero⟩⟩)
  · rw [fatLink_congr (Function.update_of_ne same entry fat)]
    exact ascending e he

theorem ascending_linkChain {lo : Nat} {fat : FAT32FileAllocationTable}
    (ascending : Ascending lo (fatLink fat)) {chain : List (Fin 512)}
    (sorted : chain.Pairwise (· < ·)) (complete : Bool) :
    Ascending lo (fatLink (linkChain fat chain complete)) := by
  induction chain generalizing fat with
  | nil => exact ascending
  | cons c rest ih =>
      obtain ⟨head, tail⟩ := List.pairwise_cons.mp sorted
      cases rest with
      | nil =>
          rw [linkChain]
          split
          · exact ascending_update ascending fun _ => .inr (.inl rfl)
          · exact ascending
      | cons d rest =>
          rw [linkChain]
          exact ih (ascending_update ascending fun _ =>
            .inr (.inr ⟨d, head d List.mem_cons_self, rfl⟩)) tail

/-! ### Linking -/

theorem linkChain_of_notMem {chain : List (Fin 512)} {e : Fin 512} (outside : e ∉ chain)
    (fat : FAT32FileAllocationTable) (complete : Bool) : linkChain fat chain complete e = fat e := by
  induction chain generalizing fat with
  | nil => rfl
  | cons c rest ih =>
      have here : e ≠ c := fun same => outside (same ▸ List.mem_cons_self)
      have later : e ∉ rest := fun member => outside (List.mem_cons_of_mem c member)
      cases rest with
      | nil =>
          rw [linkChain]
          split
          · exact Function.update_of_ne here _ _
          · rfl
      | cons d rest => rw [linkChain, ih later, Function.update_of_ne here]

theorem chain_linkChain {c : Fin 512} {rest : List (Fin 512)}
    (sorted : (c :: rest).Pairwise (· < ·)) (fat : FAT32FileAllocationTable) :
    Chain (fatLink (linkChain fat (c :: rest) true)) c (c :: rest) := by
  induction rest generalizing c fat with
  | nil =>
      rw [linkChain]
      exact .here (fatLink_last_iff.mpr (by rw [if_pos rfl, Function.update_self]))
  | cons d rest ih =>
      obtain ⟨head, tail⟩ := List.pairwise_cons.mp sorted
      have less : c < d := head d List.mem_cons_self
      have nonzero : d ≠ 0 := Fin.pos_iff_ne_zero.mp (lt_of_le_of_lt (Fin.zero_le c) less)
      have outside : c ∉ d :: rest := fun member => lt_irrefl c (head c member)
      rw [linkChain]
      refine .hop (fatLink_next_iff.mpr ⟨?_, nonzero⟩) (ih tail _)
      rw [linkChain_of_notMem outside, Function.update_self]

theorem linkChain_head {c d : Fin 512} {rest : List (Fin 512)} (nodup : (c :: d :: rest).Nodup)
    (fat : FAT32FileAllocationTable) (complete : Bool) :
    linkChain fat (c :: d :: rest) complete c = num d := by
  rw [linkChain, linkChain_of_notMem (List.nodup_cons.mp nodup).1, Function.update_self]

/-- Every cluster of the chain but its last is linked to the next one. -/
theorem linkChain_getElem {chain : List (Fin 512)} (nodup : chain.Nodup)
    (fat : FAT32FileAllocationTable) (complete : Bool) {i : Nat} (hi : i + 1 < chain.length) :
    linkChain fat chain complete chain[i] = num chain[i + 1] := by
  induction chain generalizing fat i with
  | nil => exact absurd hi (Nat.not_lt_zero _)
  | cons c rest ih =>
      obtain ⟨-, tail⟩ := List.nodup_cons.mp nodup
      cases rest with
      | nil => exact absurd hi (by simp)
      | cons d rest =>
          cases i with
          | zero =>
              simp only [List.getElem_cons_zero, List.getElem_cons_succ]
              exact linkChain_head nodup fat complete
          | succ i =>
              rw [linkChain]
              simp only [List.getElem_cons_succ]
              exact ih tail _ (by simpa using hi)

/-- A complete chain ends with the end-of-file mark. -/
theorem linkChain_getLast {chain : List (Fin 512)} (nonempty : chain ≠ [])
    (fat : FAT32FileAllocationTable) :
    linkChain fat chain true (chain.getLast nonempty) = fatEndOfFile := by
  induction chain generalizing fat with
  | nil => exact absurd rfl nonempty
  | cons c rest ih =>
      cases rest with
      | nil => rw [linkChain, if_pos rfl, List.getLast_singleton, Function.update_self]
      | cons d rest =>
          rw [linkChain, List.getLast_cons (List.cons_ne_nil d rest)]
          exact ih (List.cons_ne_nil d rest) _

/-! ### Storing -/

theorem storeChunks_of_notMem (request : FAT32DriverRequest) {chain : List (Fin 512)} {x : Nat}
    (outside : ∀ c ∈ chain, c.val ≠ x) (disk : Disk) (n : Nat) :
    storeChunks request disk chain n x = disk x := by
  induction chain generalizing disk n with
  | nil => rfl
  | cons c rest ih =>
      rw [storeChunks, ih fun e he => outside e (List.mem_cons_of_mem _ he),
        Function.update_of_ne (outside c List.mem_cons_self).symm]

theorem storeChunks_getElem (request : FAT32DriverRequest) {chain : List (Fin 512)}
    (nodup : chain.Nodup) (disk : Disk) (n : Nat) {i : Nat} (hi : i < chain.length) :
    storeChunks request disk chain n chain[i].val = chunk request (n + i) := by
  induction chain generalizing disk n i with
  | nil => exact absurd hi (Nat.not_lt_zero i)
  | cons c rest ih =>
      obtain ⟨fresh, tail⟩ := List.nodup_cons.mp nodup
      cases i with
      | zero =>
          have outside : ∀ e ∈ rest, e.val ≠ c.val := fun e he same => fresh (Fin.ext same ▸ he)
          rw [List.getElem_cons_zero, storeChunks, storeChunks_of_notMem request outside,
            Function.update_self, Nat.add_zero]
      | succ i =>
          rw [List.getElem_cons_succ, storeChunks, ih tail, Nat.add_assoc, Nat.add_comm 1 i]

/-! ### The chain of a file -/

theorem fileChain_sorted (fat : FAT32FileAllocationTable) (c : Fin 512) (size : UInt32) :
    (fileChain fat c size).Pairwise (· < ·) := by
  refine List.Pairwise.sublist (List.take_sublist _ _) (List.pairwise_cons.mpr ⟨?_, ?_⟩)
  · intro e he
    have := (mem_freeClusters.mp he).1
    exact Fin.lt_def.mpr (by omega)
  · exact matchesFrom_pairwise

theorem fileChain_nodup (fat : FAT32FileAllocationTable) (c : Fin 512) (size : UInt32) :
    (fileChain fat c size).Nodup :=
  (fileChain_sorted fat c size).imp fun less => ne_of_lt less

/-- Every cluster of the chain is free, provided its first one is. -/
theorem fileChain_free {fat : FAT32FileAllocationTable} {c : Fin 512} (free : fat c = fatEmptyEntry)
    {size : UInt32} {e : Fin 512} (member : e ∈ fileChain fat c size) : fat e = fatEmptyEntry := by
  rcases List.mem_cons.mp (List.mem_of_mem_take member) with same | later
  · rw [same, free]
  · exact (mem_freeClusters.mp later).2

theorem fileChain_length {fat : FAT32FileAllocationTable} {c : Fin 512} {size : UInt32}
    (fits : fileFits fat c size = true) : (fileChain fat c size).length = chunksNeeded size := by
  simp only [fileFits, decide_eq_true_eq] at fits
  rw [fileChain, List.length_take, List.length_cons]
  omega

/-- A file gets the free clusters with the lowest numbers, as many as it needs. -/
theorem fileChain_eq_take {fat : FAT32FileAllocationTable} {c : Fin 512} (first : FirstFree fat c)
    (size : UInt32) : fileChain fat c size = (freeClusters fat 2).take (chunksNeeded size) := by
  rw [freeClusters_of_next first, fileChain]

theorem fileFits_iff {fat : FAT32FileAllocationTable} {c : Fin 512} (first : FirstFree fat c)
    (size : UInt32) :
    fileFits fat c size = true ↔ chunksNeeded size ≤ (freeClusters fat 2).length := by
  rw [freeClusters_of_next first, List.length_cons, fileFits, decide_eq_true_eq]

theorem freeClusters_eq_nil_iff {fat : FAT32FileAllocationTable} :
    freeClusters fat 2 = [] ↔ ¬ ∃ c, FirstFree fat c := by
  constructor
  · rintro none ⟨c, first⟩
    rw [freeClusters_of_next first] at none
    cases none
  · intro none
    exact matchesFrom_of_none (Option.eq_none_iff_forall_ne_some.mpr fun c found => none ⟨c, found⟩)

/-- A FAT that differs in the first `n` free clusters at most has all but `n` of
them left. -/
theorem freeClusters_length_le {fat fat' : FAT32FileAllocationTable} {n : Nat}
    (same : ∀ e ∉ (freeClusters fat 2).take n, fat' e = fat e) :
    (freeClusters fat 2).length ≤ (freeClusters fat' 2).length + n := by
  have nodup : (freeClusters fat 2).Nodup := matchesFrom_pairwise.imp fun less => ne_of_lt less
  have left : (freeClusters fat 2).drop n ⊆ freeClusters fat' 2 := by
    intro e member
    obtain ⟨above, free⟩ := mem_freeClusters.mp (List.mem_of_mem_drop member)
    have outside : e ∉ (freeClusters fat 2).take n := fun taken =>
      List.disjoint_take_drop nodup le_rfl taken member
    exact mem_freeClusters.mpr ⟨above, (same e outside).trans free⟩
  have count := (List.subperm_of_subset (nodup.sublist (List.drop_sublist _ _)) left).length_le
  rw [List.length_drop] at count
  omega

theorem chunksNeeded_pos {size : UInt32} (nonzero : size ≠ 0) : 1 ≤ chunksNeeded size := by
  have positive : size.toNat ≠ 0 := fun h => nonzero (UInt32.toNat_inj.mp h)
  unfold chunksNeeded
  omega

/-- What storing a file changes, and what it leaves alone. -/
theorem makeFile_spec (request : FAT32DriverRequest) {c : Fin 512} (hc : 2 ≤ c.val) (n : Nat)
    (size : UInt32) (disk : Disk) :
    let v := (Volume.makeFile request c n size disk).2
    let chain := fileChain (fatOf (disk 1)) c size
    v.fat = fatOf (v.disk 1) ∧
      (∀ e, e ∉ chain → v.fat e = fatOf (disk 1) e) ∧
      (∀ x, x ≠ 1 → (∀ e ∈ chain, e.val ≠ x) → v.disk x = disk x) ∧
      ∀ (i : Nat) (hi : i < chain.length), v.disk chain[i].val = chunk request (n + i) := by
  intro v chain
  have above : ∀ e ∈ chain, 2 ≤ e.val := fun e he => by
    have := Fin.le_def.mp (fileChain_above he)
    omega
  refine ⟨?_, ?_, ?_, ?_⟩
  · simp [v, Volume.makeFile]
  · intro e outside
    exact linkChain_of_notMem outside _ _
  · intro x other outside
    simp only [v, Volume.makeFile]
    rw [Function.update_of_ne other, storeChunks_of_notMem request outside]
  · intro i hi
    have other : chain[i].val ≠ 1 := by
      have := above chain[i] (List.getElem_mem hi)
      omega
    simp only [v, Volume.makeFile]
    rw [Function.update_of_ne other]
    exact storeChunks_getElem request (fileChain_nodup _ _ _) disk n hi

theorem makeFile_complete {request : FAT32DriverRequest} {c : Fin 512} {n : Nat} {size : UInt32}
    {disk : Disk} (positive : size ≠ 0)
    (success : (Volume.makeFile request c n size disk).1 = 0) :
    let v := (Volume.makeFile request c n size disk).2
    let chain := fileChain (fatOf (disk 1)) c size
    chain.length = chunksNeeded size ∧ Chain (fatLink v.fat) c chain := by
  intro v chain
  have fits : fileFits (fatOf (disk 1)) c size = true := by
    by_contra short
    simp [Volume.makeFile, short] at success
  obtain ⟨rest, first⟩ := fileChain_head (fatOf (disk 1)) c (chunksNeeded_pos positive)
  refine ⟨fileChain_length fits, ?_⟩
  have sorted := fileChain_sorted (fatOf (disk 1)) c size
  have linked : v.fat = linkChain (fatOf (disk 1)) chain true := by
    simp only [v, Volume.makeFile, fits, chain]
  rw [linked]
  simp only [chain, first] at sorted ⊢
  exact chain_linkChain sorted _

end HexOS.Fat32
