import HexOS.Fat32.RoundTrip

/-!
The search of a delete, without its side effects.

The loop over the slots makes rounds for each file of the requested name that it
passes, and the rounds overwrite the parent's cluster from the stack. Up to the
first such file nothing has been overwritten, so whether the search reaches one
(`ReachesFile`) depends on the disk alone; and if it reaches none, or the rounds
are fewer than two, so does the slot it ends at (`plainStop`). A delete returns
exactly when no file is reached or the rounds are fewer than 256.
-/

namespace HexOS.Fat32

open BoundedScan PartialRuns WhileLoop

/-! ### The search on an untouched disk -/

/-- The entry leads to a cluster with something in the slots behind its own. -/
def LeadsToOccupied (disk : Disk) (entry : FAT32DirectoryEntry) : Prop :=
  Occupied (tableOf (readClusters disk (entryCluster entry)))

instance (disk : Disk) (entry : FAT32DirectoryEntry) : Decidable (LeadsToOccupied disk entry) :=
  inferInstanceAs (Decidable (Occupied _))

/-- Slot `i` ends the search if nothing has been overwritten before. -/
def Stops (request : FAT32DriverRequest) (table : FAT32DirectoryTable) (disk : Disk) (i : Fin 64) :
    Prop :=
  (table i).name ≠ request.name ∨
    (table i).attribute = attrSubdirectory ∧ LeadsToOccupied disk (table i)

instance (request : FAT32DriverRequest) (table : FAT32DirectoryTable) (disk : Disk) (i : Fin 64) :
    Decidable (Stops request table disk i) := inferInstanceAs (Decidable (_ ∨ _))

def plainStop (request : FAT32DriverRequest) (table : FAT32DirectoryTable) (disk : Disk) :
    Option (Fin 64) :=
  firstFrom 1 fun i => decide (Stops request table disk i)

/-- The search comes to a slot of the requested name that holds no directory:
all slots before it hold empty directories of the name. -/
def ReachesFile (request : FAT32DriverRequest) (table : FAT32DirectoryTable) (disk : Disk) : Prop :=
  ∃ j : Fin 64, 1 ≤ j.val ∧ (table j).name = request.name ∧ (table j).attribute ≠ attrSubdirectory ∧
    ∀ i : Fin 64, 1 ≤ i.val → i < j →
      (table i).name = request.name ∧ (table i).attribute = attrSubdirectory ∧
        ¬ LeadsToOccupied disk (table i)

section

variable {request : FAT32DriverRequest} {stack : Fin 64 → UInt8 → Nat → UInt8}
variable {table : FAT32DirectoryTable} {disk : Disk}

/-- As long as no round has been made, the search sees the disk as it is. -/
theorem endsSearch_iff_stops {i : Fin 64}
    (few : ∀ j, Passes request table i.val j → rounds request < 2) :
    EndsSearch request stack table disk i ↔ Stops request table disk i := by
  rw [EndsSearch, seenDisk_untouched few, Stops, LeadsToOccupied]

theorem passes_mono {lo hi : Nat} (le : lo ≤ hi) {j : Fin 64} (passes : Passes request table lo j) :
    Passes request table hi j :=
  ⟨passes.1, lt_of_lt_of_le passes.2.1 le, passes.2.2⟩

/-- A file is reached exactly when the search makes rounds for one. -/
theorem reachesFile_iff :
    ReachesFile request table disk ↔
      ∃ j, Passes request table (searchEnd request stack table disk) j := by
  constructor
  · rintro ⟨j, above, name, kind, before⟩
    have none : ∀ hi ≤ j.val, ∀ i, Passes request table hi i → rounds request < 2 := by
      intro hi le i passes
      have earlier : i < j := Fin.lt_def.mpr (by have := passes.2.1; omega)
      exact absurd (before i passes.1 earlier).2.1 passes.2.2.2
    have running : ∀ {i : Fin 64}, 1 ≤ i.val → i.val < j.val + 1 →
        ¬ EndsSearch request stack table disk i := by
      intro i low high
      rw [endsSearch_iff_stops (none i.val (by omega))]
      by_cases here : i = j
      · rw [here]
        rintro (other | ⟨directory, -⟩)
        · exact other name
        · exact kind directory
      · have differ : i.val ≠ j.val := Fin.val_ne_of_ne here
        obtain ⟨nameI, kindI, empty⟩ := before i low (Fin.lt_def.mpr (by omega))
        rintro (other | ⟨-, occupied⟩)
        · exact other nameI
        · exact empty occupied
    exact ⟨j, above, le_searchEnd j.isLt running, name, kind⟩
  · intro passed
    -- the first slot rounds are made for
    obtain ⟨j, passes, least⟩ : ∃ j, Passes request table (searchEnd request stack table disk) j ∧
        ∀ i < j, ¬ Passes request table (searchEnd request stack table disk) i := by
      have found := WellFounded.has_min (wellFounded_lt (α := Fin 64))
        {j | Passes request table (searchEnd request stack table disk) j} passed
      obtain ⟨j, member, least⟩ := found
      exact ⟨j, member, fun i less passes => least i passes less⟩
    obtain ⟨above, inside, name, kind⟩ := passes
    refine ⟨j, above, name, kind, fun i low less => ?_⟩
    have earlier : i.val < searchEnd request stack table disk :=
      lt_trans (Fin.lt_def.mp less) inside
    have going := not_endsSearch low earlier
    have none : ∀ k, Passes request table i.val k → rounds request < 2 := by
      intro k passesK
      have before : k < j := lt_trans (Fin.lt_def.mpr passesK.2.1) less
      exact absurd (passes_mono (le_of_lt earlier) passesK) (least k before)
    rw [endsSearch_iff_stops none, Stops, not_or, not_not, not_and] at going
    have directory : (table i).attribute = attrSubdirectory := by
      by_contra file
      exact least i less ⟨low, earlier, going.1, file⟩
    exact ⟨going.1, directory, going.2 directory⟩

/-- A delete that makes no rounds worth the name: it reaches no file, or stops
after the first. -/
def Quiet (request : FAT32DriverRequest) (table : FAT32DirectoryTable) (disk : Disk) : Prop :=
  ReachesFile request table disk → rounds request < 2

theorem Quiet.few (quiet : Quiet request table disk) :
    ∀ j, Passes request table (searchEnd request stack table disk) j → rounds request < 2 :=
  fun j passes => quiet (reachesFile_iff.mpr ⟨j, passes⟩)

/-- A quiet search ends where it would on an untouched disk. -/
theorem Quiet.deleteStop (quiet : Quiet request table disk) :
    deleteStop request stack table disk = plainStop request table disk := by
  have same : ∀ i : Fin 64, i.val ≤ searchEnd request stack table disk →
      (EndsSearch request stack table disk i ↔ Stops request table disk i) := fun i le =>
    endsSearch_iff_stops fun j passes => quiet.few j (passes_mono le passes)
  cases stop : HexOS.Fat32.deleteStop request stack table disk with
  | none =>
      have whole : searchEnd request stack table disk = 64 := by
        rw [searchEnd, stop, Option.elim_none]
      refine (firstFrom_eq_none_iff.mpr fun i above => ?_).symm
      have going := of_decide_eq_false (firstFrom_eq_none_iff.mp stop i above)
      exact decide_eq_false fun stops => going ((same i (by omega)).mpr stops)
  | some i =>
      have ends : searchEnd request stack table disk = i.val := by
        rw [searchEnd, stop, Option.elim_some]
      obtain ⟨above, hit, least⟩ := firstFrom_eq_some_iff.mp stop
      refine (firstFrom_eq_some_iff.mpr ⟨above, ?_, fun j less low => ?_⟩).symm
      · exact decide_eq_true ((same i (by omega)).mp (of_decide_eq_true hit))
      · have before := Fin.lt_def.mp less
        exact decide_eq_false fun stops =>
          of_decide_eq_false (least j less low) ((same j (by omega)).mpr stops)

/-! ### Termination -/

end

/-- The rounds for a file end: there are fewer than 256 of them, or none. -/
def RoundsEnd (request : FAT32DriverRequest) (disk : Disk) : Prop :=
  Accepts disk request.parentClusterNumber →
    ReachesFile request (parentTable disk request.parentClusterNumber) disk → rounds request < 256

/-- A delete whose rounds end leaves its loops. -/
theorem RoundsEnd.delete_ends {request : FAT32DriverRequest} {d : Driver}
    (ends : RoundsEnd request d.disk) (stack : Fin 64 → UInt8 → Nat → UInt8) {fuel : Nat}
    (enough : 256 ≤ fuel) :
    (∃ r, delete fuel request stack d = .ok r) ∨
      Accepts d.disk request.parentClusterNumber ∧
        ∃ i, deleteStop request stack (parentTable d.disk request.parentClusterNumber) d.disk =
            some i ∧
          (parentTable d.disk request.parentClusterNumber i).name ≠ request.name ∧
          512 ≤ (entryCluster (parentTable d.disk request.parentClusterNumber i)).toNat ∧
          delete fuel request stack d =
            .error (.wildIndex (entryCluster (parentTable d.disk request.parentClusterNumber i))) :=
  HexOS.Fat32.delete_ends stack
    (fun accepts j passes => ends accepts (reachesFile_iff.mpr ⟨j, passes⟩)) enough

section

variable {disk : Disk}

/-- A root directory that holds `note` and nothing else. -/
theorem note_accepts (table : tableOf (disk 2) = writeEntry note rootTable (num 3) 1) :
    Accepts disk note.parentClusterNumber :=
  (root_of_written rfl table).1

end

end HexOS.Fat32
