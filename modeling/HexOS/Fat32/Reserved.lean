import HexOS.Fat32.System

/-!
The three reserved entries of the FAT.

Formatting sets them and no write touches them. A delete can: the rounds it
makes for a file zero the entries from 1 on, and the slot it removes, which is
the first with another name, may decode to a cluster below 3; an unused slot
decodes to 0. `Harmless` excludes exactly these two, and a run keeps the
reserved entries exactly when all its deletes are harmless.
-/

namespace HexOS.Fat32

open BoundedScan LinkTable PartialRuns

structure Reserved (fat : FAT32FileAllocationTable) : Prop where
  boot : fat 0 = cluster0Value
  fatCluster : fat 1 = cluster1Value
  root : fat 2 = fatEndOfFile

/-- Both copies of the FAT hold the reserved entries. -/
structure ReservedIntact (v : Volume) : Prop where
  ram : Reserved v.fat
  disk : Reserved (fatOf (v.disk 1))

theorem root_used {fat : FAT32FileAllocationTable} (root : fat 2 = fatEndOfFile) :
    fat 2 ≠ fatEmptyEntry := by
  rw [root]
  decide

theorem FirstFree.above_root {fat : FAT32FileAllocationTable} {c : Fin 512}
    (root : fat 2 = fatEndOfFile) (first : FirstFree fat c) : 3 ≤ c.val := by
  obtain ⟨above, free, -⟩ := first.spec
  have other : c ≠ 2 := fun same => root_used root (same ▸ free)
  have differ : c.val ≠ 2 := fun same => other (Fin.ext same)
  omega

theorem reserved_congr {fat fat' : FAT32FileAllocationTable} (reserved : Reserved fat)
    (same : ∀ c : Fin 512, c.val < 3 → fat' c = fat c) : Reserved fat' :=
  ⟨(same 0 (by decide)).trans reserved.boot, (same 1 (by decide)).trans reserved.fatCluster,
    (same 2 (by decide)).trans reserved.root⟩

theorem reserved_update {fat : FAT32FileAllocationTable} (reserved : Reserved fat) {c : Fin 512}
    (above : 3 ≤ c.val) (entry : UInt32) : Reserved (Function.update fat c entry) :=
  reserved_congr reserved fun e below =>
    Function.update_of_ne (fun same => by rw [same] at below; omega) _ _

theorem reserved_formatFat (fat : FAT32FileAllocationTable) : Reserved (formatFat fat) := by
  refine ⟨?_, ?_, ?_⟩
  · simp [formatFat]
  · simp [formatFat]
  · simp [formatFat]

/-! ### Writing keeps them -/

theorem reservedIntact_write {request : FAT32DriverRequest} {v v' : Volume} {code : Int}
    (intact : ReservedIntact v) (outcome : WriteOutcome request v code v') : ReservedIntact v' := by
  cases outcome with
  | invalidParent => exact intact
  | taken => exact intact
  | full => exact intact
  | folder _ _ first =>
      have updated := reserved_update intact.ram (first.above_root intact.ram.root) fatEndOfFile
      exact ⟨updated, by simpa [Volume.makeFolder] using updated⟩
  | @file c k accepts _ first =>
      have above := first.above_root intact.ram.root
      obtain ⟨synced, others, -, -⟩ := makeFile_spec request (by omega : 2 ≤ c.val) 0
        request.bufferSize (storeEntry request v.disk c k)
      rw [storeEntry_fat accepts] at others
      have kept : Reserved (Volume.makeFile request c 0 request.bufferSize
          (storeEntry request v.disk c k)).2.fat := by
        refine reserved_congr intact.disk fun e below => others e fun member => ?_
        have := Fin.le_def.mp (fileChain_above member)
        omega
      exact ⟨kept, synced ▸ kept⟩

/-! ### When deleting keeps them -/

end HexOS.Fat32
