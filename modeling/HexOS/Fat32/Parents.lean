import HexOS.Fat32.Reboot
import HexOS.Fat32.Names

/-!
Which clusters are accepted as parents.

The check looks at the cluster's own bytes, so whatever looks like a directory
is accepted: file data that does, and a removed directory, whose cluster keeps
its header. `Contained` excludes the calls that leave such clusters behind. In a
run of contained calls every accepted parent is a live directory, reached from
the root through accepted directories.
-/

namespace HexOS.Fat32

open BoundedScan LinkTable PartialRuns

/-! ### Live directories -/

def SubdirectoryEntry (entry : FAT32DirectoryEntry) : Prop :=
  Live entry ∧ entry.attribute = attrSubdirectory

/-- The root, and the cluster of every live subdirectory entry of a live directory. -/
inductive LiveDirectory (disk : Disk) : UInt32 → Prop where
  | root : LiveDirectory disk rootClusterNumber
  | child {parent : UInt32} {i : Fin 64} : LiveDirectory disk parent → 1 ≤ i.val →
      SubdirectoryEntry (parentTable disk parent i) →
      LiveDirectory disk (entryCluster (parentTable disk parent i))

/-- The request is turned away by all three operations, and nothing changes. -/
structure TurnedAway (d : Driver) (request : FAT32DriverRequest) : Prop where
  write : (write request d).1 = 2 ∧ (write request d).2.volume = d.volume
  read : (read request d).1.code = -1 ∧ (read request d).2.volume = d.volume
  delete : ∀ fuel stack, ∃ d', delete fuel request stack d = .ok (-1, d') ∧ d'.volume = d.volume

theorem turnedAway_of_rejected {d : Driver} {request : FAT32DriverRequest}
    (rejected : ¬ Accepts d.disk request.parentClusterNumber) : TurnedAway d request := by
  have invalid := (parent_rejected_iff d.disk request.parentClusterNumber).mpr rejected
  refine ⟨?_, ⟨?_, read_volume request d⟩, fun fuel stack => ?_⟩
  · have outcome := write_outcome request d
    generalize (HexOS.Fat32.write request d).2.volume = v' at outcome ⊢
    generalize (HexOS.Fat32.write request d).1 = code at outcome ⊢
    cases outcome with
    | invalidParent => exact ⟨rfl, rfl⟩
    | taken accepts => exact absurd accepts rejected
    | full accepts => exact absurd accepts rejected
    | folder accepts => exact absurd accepts rejected
    | file accepts => exact absurd accepts rejected
  · simp only [HexOS.Fat32.read, if_pos invalid, Reply.status]
  · simp only [HexOS.Fat32.delete, if_pos invalid]
    exact ⟨_, rfl, rfl⟩

/-! ### Reached through accepted directories -/

inductive Reaches (disk : Disk) : Fin 512 → Prop where
  | root : Reaches disk 2
  | child {q p : Fin 512} {i : Fin 64} : Reaches disk q → Accepts disk (num q) → 1 ≤ i.val →
      SubdirectoryEntry (tableOf (disk q.val) i) → entryCluster (tableOf (disk q.val) i) = num p →
      Reaches disk p

theorem Reaches.live {disk : Disk} {p : Fin 512} (reached : Reaches disk p) :
    LiveDirectory disk (num p) := by
  induction reached with
  | root => exact .root
  | @child q p i _ _ behind entry decoded ih =>
      have table : parentTable disk (num q) = tableOf (disk q.val) := by
        rw [parentTable, toNat_num]
      rw [← decoded, ← table]
      exact .child ih behind (by rwa [table])

theorem accepts_num_iff {disk : Disk} {p : Fin 512} :
    Accepts disk (num p) ↔ 2 ≤ p.val ∧ LooksLikeDirectory (tableOf (disk p.val)) := by
  have := p.isLt
  rw [Accepts, toNat_num]
  exact ⟨fun h => ⟨h.1, h.2.2⟩, fun h => ⟨h.1, by omega, h.2⟩⟩

/-- Entries that lead from accepted to accepted directories carry over. -/
theorem Reaches.kept {disk disk' : Disk}
    (same : ∀ q : Fin 512, Accepts disk (num q) → ∀ i,
      (i = 0 ∨ Live (tableOf (disk q.val) i) ∧
        ∃ p, entryCluster (tableOf (disk q.val) i) = num p ∧ Accepts disk (num p)) →
      tableOf (disk' q.val) i = tableOf (disk q.val) i)
    {p : Fin 512} (reached : Reaches disk p) (accepts : Accepts disk (num p)) : Reaches disk' p := by
  induction reached with
  | root => exact .root
  | @child q p i _ acceptsParent behind entry decoded ih =>
      have header := same q acceptsParent 0 (.inl rfl)
      have slot := same q acceptsParent i (.inr ⟨entry.1, p, decoded, accepts⟩)
      obtain ⟨low, looks⟩ := accepts_num_iff.mp acceptsParent
      have still : Accepts disk' (num q) := by
        refine accepts_num_iff.mpr ⟨low, ?_⟩
        rw [LooksLikeDirectory, header]
        exact looks
      exact .child (ih acceptsParent) still behind (slot ▸ entry) (slot ▸ decoded)

/-! ### The invariant -/

def acceptedDirectories (disk : Disk) : List (Fin 512) :=
  (List.finRange 512).filter fun p => decide (Accepts disk (num p))

theorem mem_acceptedDirectories {disk : Disk} {p : Fin 512} :
    p ∈ acceptedDirectories disk ↔ Accepts disk (num p) := by
  simp [acceptedDirectories]

structure Rooted (v : Volume) : Prop where
  grounded : Grounded (acceptedDirectories v.disk) v
  rootAccepted : Accepts v.disk rootClusterNumber
  top : ¬ LooksLikeDirectory (tableOf (v.disk 512))
  reached : ∀ p, Accepts v.disk (num p) → Reaches v.disk p

theorem Rooted.index {v : Volume} (rooted : Rooted v) {parent : UInt32}
    (accepts : Accepts v.disk parent) :
    ∃ p ∈ acceptedDirectories v.disk, parent = num p ∧ parent.toNat = p.val := by
  have below : parent.toNat < 512 := by
    have atMost := accepts.2.1
    have differ : parent.toNat ≠ 512 := fun same => rooted.top (same ▸ accepts.2.2)
    omega
  have value := eq_num_of_lt below
  exact ⟨⟨parent.toNat, below⟩, mem_acceptedDirectories.mpr (value ▸ accepts), value, rfl⟩

/-- From old to new volume: the entries between accepted directories stay, and
what is accepted now was accepted before or is reached. -/
theorem Rooted.next {v v' : Volume} (rooted : Rooted v)
    (same : ∀ q : Fin 512, Accepts v.disk (num q) → ∀ i,
      (i = 0 ∨ Live (tableOf (v.disk q.val) i) ∧
        ∃ p, entryCluster (tableOf (v.disk q.val) i) = num p ∧ Accepts v.disk (num p)) →
      tableOf (v'.disk q.val) i = tableOf (v.disk q.val) i)
    (boot : v'.disk 0 = v.disk 0) (synced : v'.fat = fatOf (v'.disk 1))
    (used : ∀ p, Accepts v.disk (num p) → v'.fat p = v.fat p)
    (top : ¬ LooksLikeDirectory (tableOf (v'.disk 512)))
    (back : ∀ p, Accepts v'.disk (num p) →
      Accepts v.disk (num p) ∨ Reaches v'.disk p ∧ v'.fat p ≠ fatEmptyEntry) : Rooted v' := by
  have rootNum : rootClusterNumber = num 2 := rfl
  have rootOld : Accepts v.disk (num 2) := rootNum ▸ rooted.rootAccepted
  have stays : ∀ p, Accepts v.disk (num p) → v'.fat p ≠ fatEmptyEntry := by
    intro p accepts
    rw [used p accepts]
    exact (rooted.grounded.used p (mem_acceptedDirectories.mpr accepts)).2
  refine ⟨⟨signed_congr boot rooted.grounded.signed, synced, ?_, fun p member => ?_⟩, ?_, top,
    fun p accepts => ?_⟩
  · rw [used 2 rootOld]
    exact rooted.grounded.root
  · have accepts := mem_acceptedDirectories.mp member
    refine ⟨(accepts_num_iff.mp accepts).1, ?_⟩
    rcases back p accepts with old | ⟨-, fresh⟩
    · exact stays p old
    · exact fresh
  · rw [rootNum, accepts_num_iff]
    refine ⟨by decide, ?_⟩
    rw [LooksLikeDirectory, same 2 rootOld 0 (.inl rfl)]
    exact (accepts_num_iff.mp rootOld).2
  · rcases back p accepts with old | ⟨reached, -⟩
    · exact (rooted.reached p old).kept same old
    · exact reached

end HexOS.Fat32
