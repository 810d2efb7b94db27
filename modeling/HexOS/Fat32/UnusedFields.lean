import HexOS.Fat32.Removals

/-!
Whether a delete depends on the fields it is documented not to use.

The size bounds the rounds that are made for each file of the name, and what the
rounds overwrite the parent cluster with comes from the stack, where the request
itself lies. Two deletes that differ in buffer and size alone end alike when no
file is reached or both make no rounds; when both never leave their rounds; or
when both go on to remove the same slot and wipe nothing that differs.
-/

namespace HexOS.Fat32

open BoundedScan

/-! ### Two calls -/

/-- What is left of a call for later ones, and its code. -/
def observed (result : Except Fault (Int × Driver)) : Except Fault (Int × Volume) :=
  result.map fun r => (r.1, r.2.volume)

/-- Two deletes end alike once their loops are given enough fuel. -/
def EndAlike (d : Driver) (request : FAT32DriverRequest) (stack : Fin 64 → UInt8 → Nat → UInt8)
    (request' : FAT32DriverRequest) (stack' : Fin 64 → UInt8 → Nat → UInt8) : Prop :=
  ∃ bound, ∀ fuel ≥ bound,
    observed (delete fuel request stack d) = observed (delete fuel request' stack' d)

/-- They do so on any two stacks: what lies above `temp` is the request, its
buffer's address included, and what the caller left there. -/
def SameResult (request request' : FAT32DriverRequest) (d : Driver) : Prop :=
  ∀ stack stack', EndAlike d request stack request' stack'

section

variable {request request' request'' : FAT32DriverRequest} {d : Driver}
variable {stack stack' stack'' : Fin 64 → UInt8 → Nat → UInt8}

theorem EndAlike.symm (alike : EndAlike d request stack request' stack') :
    EndAlike d request' stack' request stack := by
  obtain ⟨bound, same⟩ := alike
  exact ⟨bound, fun fuel enough => (same fuel enough).symm⟩

theorem EndAlike.trans (left : EndAlike d request stack request' stack')
    (right : EndAlike d request' stack' request'' stack'') :
    EndAlike d request stack request'' stack'' := by
  obtain ⟨bound, same⟩ := left
  obtain ⟨bound', same'⟩ := right
  refine ⟨max bound bound', fun fuel enough => ?_⟩
  exact (same fuel (le_trans (le_max_left _ _) enough)).trans
    (same' fuel (le_trans (le_max_right _ _) enough))

/-- Where two calls end alike, some fuel of 256 or more shows it. -/
theorem EndAlike.observed (alike : EndAlike d request stack request' stack') :
    ∃ fuel, 256 ≤ fuel ∧
      observed (delete fuel request stack d) = observed (delete fuel request' stack' d) := by
  obtain ⟨bound, same⟩ := alike
  exact ⟨max bound 256, le_max_right _ _, same _ (le_max_left _ _)⟩

theorem SameResult.symm (same : SameResult request request' d) : SameResult request' request d :=
  fun stack stack' => (same stack' stack).symm

end

/-! ### What is decided before the rounds -/

/-- The entry's cluster is the parent cluster. -/
def LeadsToParent (request : FAT32DriverRequest) (entry : FAT32DirectoryEntry) : Prop :=
  deviceCluster (entryCluster entry) = request.parentClusterNumber.toNat

instance (request : FAT32DriverRequest) (entry : FAT32DirectoryEntry) :
    Decidable (LeadsToParent request entry) := inferInstanceAs (Decidable (_ = _))

/-- The search ends at slot `m`, of another name, whatever the rounds leave in
the parent cluster: no directory behind a file leads to that cluster. -/
structure Steady (request : FAT32DriverRequest) (table : FAT32DirectoryTable) (disk : Disk)
    (m : Fin 64) : Prop where
  stop : plainStop request table disk = some m
  other : (table m).name ≠ request.name
  apart : ∀ j i : Fin 64, 1 ≤ j.val → j < i → i < m → (table j).attribute ≠ attrSubdirectory →
    (table i).attribute = attrSubdirectory → ¬ LeadsToParent request (table i)

section

variable {request : FAT32DriverRequest} {stack : Fin 64 → UInt8 → Nat → UInt8}
variable {table : FAT32DirectoryTable} {disk : Disk}

/-- The rounds touch the parent cluster alone. -/
theorem seenDisk_away {entry : FAT32DirectoryEntry} (away : ¬ LeadsToParent request entry) (hi : Nat) :
    readClusters (seenDisk request stack table disk hi) (entryCluster entry) =
      readClusters disk (entryCluster entry) := by
  induction hi with
  | zero => rfl
  | succ n ih =>
      unfold seenDisk
      split
      · split
        · exact Function.update_of_ne away _ _
        · exact ih
      · exact ih

/-- A steady search ends at its slot, with rounds or without. -/
theorem Steady.deleteStop {m : Fin 64} (steady : Steady request table disk m) :
    deleteStop request stack table disk = some m := by
  obtain ⟨above, -, least⟩ := firstFrom_eq_some_iff.mp steady.stop
  refine firstFrom_eq_some_iff.mpr ⟨above, decide_eq_true (.inl steady.other), fun i less low => ?_⟩
  have going := of_decide_eq_false (least i less low)
  rw [Stops, not_or, not_not] at going
  refine decide_eq_false ?_
  rintro (other | ⟨directory, occupied⟩)
  · exact other going.1
  · refine going.2 ⟨directory, ?_⟩
    by_cases passed : ∃ j, Passes request table i.val j
    · obtain ⟨j, lowJ, before, -, file⟩ := passed
      have away := steady.apart j i lowJ (Fin.lt_def.mpr before) less file directory
      rw [LeadsToOccupied, ← @seenDisk_away request stack table disk _ away i.val]
      exact occupied
    · rw [seenDisk_untouched fun j passes => absurd ⟨j, passes⟩ passed] at occupied
      exact occupied

end

/-! ### How one call ends -/

/-- What the removal of slot `m` leaves, if its cluster lies in the FAT. -/
def removal (request : FAT32DriverRequest) (table : FAT32DirectoryTable) (m : Fin 64) (v : Volume) :
    Except Fault (Int × Volume) :=
  if h : (entryCluster (table m)).toNat < 512 then .ok (0, v.removeEntry request table m ⟨_, h⟩)
  else .error (.wildIndex (entryCluster (table m)))

section

variable {request : FAT32DriverRequest} {stack : Fin 64 → UInt8 → Nat → UInt8}
variable {d d' : Driver} {fuel : Nat} {code : Int}

end

/-! ### Two calls compared -/

section

variable {request : FAT32DriverRequest} {buf : Nat → UInt8} {size : UInt32}
variable {d : Driver}

end

end HexOS.Fat32
