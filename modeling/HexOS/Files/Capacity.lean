import HexOS.Files.Refinement

/-!
What fits is stored.

`Storable` says of a list of writes that they fit the volume together: 509 clusters in
all, 63 entries for each folder, parents that are there before what they hold, and
names that differ. The driver then stores them all, down to the last cluster and the
last slot: no write fails for any other reason.
-/

namespace HexOS.Files

open Extents PartialRuns HexOS.Fat32

/-- The later request asks for the name of the earlier record; a folder by name alone. -/
def Clash (earlier : Record) (request : FAT32DriverRequest) : Prop :=
  earlier.2.name = request.name ∧ (request.bufferSize = 0 ∨ earlier.ext = request.ext)

/-- The name of the unused slots. -/
def Blank (request : FAT32DriverRequest) : Prop :=
  request.name = (fun _ => 0) ∧ (request.bufferSize = 0 ∨ request.ext = fun _ => 0)

structure Storable (log : List FAT32DriverRequest) : Prop where
  fits : frontier log ≤ 512
  parents : ∀ p ∈ records log, p.2.parentClusterNumber.toNat < p.1 ∧
    (folderAt log p.2.parentClusterNumber.toNat).isSome
  room : ∀ x, (entriesOf log x).length < 64
  distinct : ∀ x, (entriesOf log x).Pairwise fun earlier later => ¬ Clash earlier later.2
  named : ∀ request ∈ log, ¬ Blank request

section

variable {log : List FAT32DriverRequest} {request : FAT32DriverRequest}

theorem Storable.init (storable : Storable (log ++ [request])) : Storable log := by
  constructor
  · have fits := storable.fits
    rw [frontier_snoc] at fits
    omega
  · intro p member
    have still : p ∈ records (log ++ [request]) := by
      rw [records_snoc]
      exact List.mem_append_left _ member
    obtain ⟨before, folder⟩ := storable.parents p still
    have inside : p.1 + clustersOf p.2 ≤ frontier log := (placed_bounds member).2.1
    rw [folderAt_snoc_of_lt (by omega)] at folder
    exact ⟨before, folder⟩
  · intro x
    have room := storable.room x
    rw [entriesOf_snoc, List.length_append] at room
    omega
  · intro x
    have distinct := storable.distinct x
    rw [entriesOf_snoc] at distinct
    exact (List.pairwise_append.mp distinct).1
  · exact fun r member => storable.named r (List.mem_append_left _ member)

/-- What the last write finds in its folder. -/
structure Storable.Last (log : List FAT32DriverRequest) (request : FAT32DriverRequest) : Prop where
  folder : (folderAt log request.parentClusterNumber.toNat).isSome
  slot : (entriesOf log request.parentClusterNumber.toNat).length < 63
  enough : frontier log + clustersOf request ≤ 512
  fresh : ∀ p ∈ entriesOf log request.parentClusterNumber.toNat, ¬ Clash p request
  named : ¬ Blank request

theorem Storable.last (storable : Storable (log ++ [request])) : Storable.Last log request := by
  have newest : (frontier log, request) ∈ records (log ++ [request]) := by
    rw [records_snoc]
    exact List.mem_append_right _ (List.mem_singleton_self _)
  have entries := @entriesOf_snoc log request request.parentClusterNumber.toNat
  rw [if_pos rfl] at entries
  constructor
  · obtain ⟨before, folder⟩ := storable.parents _ newest
    rwa [folderAt_snoc_of_lt before] at folder
  · have room := storable.room request.parentClusterNumber.toNat
    rw [entries, List.length_append, List.length_singleton] at room
    omega
  · have fits := storable.fits
    rwa [frontier_snoc] at fits
  · have distinct := storable.distinct request.parentClusterNumber.toNat
    rw [entries] at distinct
    exact fun p member => (List.pairwise_append.mp distinct).2.2 p member _ (List.mem_singleton_self _)
  · exact storable.named request (List.mem_append_right _ (List.mem_singleton_self _))

end

namespace Store

variable {s : Store} {request : FAT32DriverRequest} {f : Folder}

theorem untaken (fresh : ∀ p ∈ entriesOf s.log request.parentClusterNumber.toNat, ¬ Clash p request)
    (named : ¬ Blank request) : s.taken request f = false := by
  have unused : unusedItem.matchesWrite request = false := by
    rw [Item.matchesWrite, decide_eq_false_iff_not]
    rintro ⟨name, ext⟩
    exact named ⟨name.symm, ext.imp_right Eq.symm⟩
  have others : ∀ p ∈ entriesOf s.log request.parentClusterNumber.toNat,
      (s.item p).matchesWrite request = false := by
    intro p member
    rw [Item.matchesWrite, decide_eq_false_iff_not]
    exact fresh p member
  rw [taken, items, List.cons_append]
  simp only [Bool.and_eq_false_iff, List.any_eq_false, List.mem_append, List.mem_map,
    List.mem_replicate]
  refine .inr ?_
  rintro i (⟨p, member, rfl⟩ | ⟨-, rfl⟩)
  · exact Bool.eq_false_iff.mp (others p member)
  · exact Bool.eq_false_iff.mp unused

/-- The write is stored. -/
theorem step_last (last : Storable.Last s.log request) :
    ∃ t, s.step (.write request) = .ok (.status 0, t) ∧ t.log = s.log ++ [request] := by
  obtain ⟨f, found⟩ := Option.isSome_iff_exists.mp last.folder
  have here : s.folder request.parentClusterNumber.toNat = some f := found
  have free : ¬ s.taken request f = true := by
    rw [untaken last.fresh last.named]
    exact Bool.false_ne_true
  have positive := clustersOf_pos request
  have slot := last.slot
  have enough := last.enough
  have written : ∃ t, s.write request = .ok (0, t) ∧ t.log = s.log ++ [request] := by
    rw [write]
    split
    · rename_i none
      rw [here] at none
      cases none
    · rename_i g there
      obtain rfl := Option.some.inj (here.symm.trans there)
      rw [if_neg free]
      split
      · omega
      · exact ⟨_, rfl, rfl⟩
  obtain ⟨t, done, log⟩ := written
  refine ⟨t, ?_, log⟩
  simp only [step, inFile_folder here, done]
  rfl

end Store

/-- Every list of writes that fits is the log of a run in which all of them return 0. -/
theorem storable_run {log : List FAT32DriverRequest} (storable : Storable log) :
    ∃ s, run Store.step Store.empty (log.map Call.write) = .ok (log.map fun _ => .status 0, s) ∧
      s.log = log := by
  induction log using List.reverseRecOn with
  | nil => exact ⟨Store.empty, rfl, rfl⟩
  | append_singleton log request ih =>
      obtain ⟨s, done, rfl⟩ := ih storable.init
      obtain ⟨t, last, logged⟩ := Store.step_last storable.last
      refine ⟨t, ?_, logged⟩
      rw [List.map_append, List.map_append]
      exact run_snoc done last

/-- **What fits is stored.** -/
theorem fitting_writes_stored {log : List FAT32DriverRequest} (storable : Storable log) (fuel : Nat) :
    ∃ s : Store, s.log = log ∧ ∃ d,
      run (HexOS.Fat32.step fuel) (booted blankDisk) (log.map Call.write) =
        .ok (log.map fun _ => .status 0, d) ∧ d.fatTable = s.fat ∧ d.disk = s.image := by
  obtain ⟨s, done, logged⟩ := storable_run storable
  obtain ⟨d, reached, follows⟩ := run_follows done fuel
  exact ⟨s, logged, d, reached, congrArg Volume.fat follows, follows.disk⟩

/-! ### An instance -/

theorem noteLog_storable : Storable [docs, innerNote] := by
  have differ : ¬ Clash (3, docs) innerNote := by
    rintro ⟨name, -⟩
    exact absurd name (by decide)
  have all : (records [docs, innerNote]).Pairwise fun earlier later => ¬ Clash earlier later.2 :=
    List.pairwise_pair.mpr differ
  constructor
  · decide
  · intro p member
    rcases List.mem_cons.mp member with rfl | rest
    · exact ⟨by decide, rfl⟩
    · rw [List.mem_singleton.mp rest]
      exact ⟨by decide, rfl⟩
  · intro x
    exact Nat.lt_of_le_of_lt (List.length_filter_le _ _) (by decide)
  · exact fun x => all.filter _
  · intro request member
    rcases List.mem_cons.mp member with rfl | rest
    · exact fun blank => absurd blank.1 (by decide)
    · rw [List.mem_singleton.mp rest]
      exact fun blank => absurd blank.1 (by decide)

theorem fitting_writes_stored_note : ∃ s : Store, s.log = [docs, innerNote] ∧ ∃ d,
    run (HexOS.Fat32.step 0) (booted blankDisk) [.write docs, .write innerNote] =
      .ok ([.status 0, .status 0], d) ∧ d.fatTable = s.fat ∧ d.disk = s.image :=
  fitting_writes_stored noteLog_storable 0

end HexOS.Files
