import HexOS.Fat32.System

/-!
The FAT is acyclic in every reachable state.

The measure is the cluster number: a link leads to a later cluster. Writing
links clusters in the order in which they were searched, and deleting only frees
entries, so every call keeps links pointing forward in both copies of the FAT.
-/

namespace HexOS.Fat32

open LinkTable PartialRuns

/-- From cluster 2 on every entry is free, ends a chain, or links forward, and
following links from there visits no cluster twice, stays inside the table and
stops after at most 510 entries. -/
structure Acyclic (fat : FAT32FileAllocationTable) : Prop where
  forward : ∀ c : Fin 512, 2 ≤ c.val →
    fat c = fatEmptyEntry ∨ fat c = fatEndOfFile ∨ ∃ d : Fin 512, c < d ∧ fat c = num d
  trail : ∀ c : Fin 512, 2 ≤ c.val → ∃ path,
    Trail (fatLink fat) (fun l => l = .free ∨ l = .last) c path ∧ path.Nodup ∧ path.length ≤ 510

theorem acyclic_of_ascending {fat : FAT32FileAllocationTable}
    (ascending : Ascending 2 (fatLink fat)) : Acyclic fat := by
  constructor
  · intro c hc
    rcases ascending c hc with free | last | ⟨d, less, leads⟩
    · exact .inl (fatLink_free_iff.mp free)
    · exact .inr (.inl (fatLink_last_iff.mp last))
    · exact .inr (.inr ⟨d, less, (fatLink_next_iff.mp leads).1⟩)
  · intro c hc
    obtain ⟨path, trail, short⟩ := ascending.exists_trail c hc
    obtain ⟨sorted, -⟩ := trail.pairwise ascending hc
    exact ⟨path, trail, sorted.imp fun less => ne_of_lt less, by omega⟩

theorem ascending_of_zero {fat : FAT32FileAllocationTable} (zero : ∀ c, fat c = fatEmptyEntry)
    (lo : Nat) : Ascending lo (fatLink fat) :=
  fun c _ => .inl (fatLink_free_iff.mpr (zero c))

/-! ### What one call keeps -/

structure ForwardFats (v : Volume) : Prop where
  ram : Ascending 2 (fatLink v.fat)
  disk : Ascending 2 (fatLink (fatOf (v.disk 1)))

theorem ascending_formatFat {fat : FAT32FileAllocationTable}
    (ascending : Ascending 2 (fatLink fat)) : Ascending 2 (fatLink (formatFat fat)) :=
  ascending_update (ascending_update (ascending_update ascending (c := 0)
    fun reserved => absurd reserved (by decide)) (c := 1)
    fun reserved => absurd reserved (by decide)) fun _ => .inr (.inl rfl)

theorem ascending_wipe {fat : FAT32FileAllocationTable} (ascending : Ascending 2 (fatLink fat))
    (n : Nat) : Ascending 2 (fatLink (wipe fat n)) := by
  intro c hc
  by_cases wiped : 1 ≤ c.val ∧ c.val < n
  · exact .inl (fatLink_free_iff.mpr (if_pos wiped))
  · have same : wipe fat n c = fat c := if_neg wiped
    rw [fatLink_congr same]
    exact ascending c hc

theorem forwardFats_write {request : FAT32DriverRequest} {v v' : Volume} {code : Int}
    (forward : ForwardFats v) (outcome : WriteOutcome request v code v') : ForwardFats v' := by
  cases outcome with
  | invalidParent => exact forward
  | taken => exact forward
  | full => exact forward
  | @folder c k accepts =>
      have updated : Ascending 2 (fatLink (Function.update v.fat c fatEndOfFile)) :=
        ascending_update forward.ram fun _ => .inr (.inl rfl)
      exact ⟨updated, by simpa [Volume.makeFolder] using updated⟩
  | @file c k accepts =>
      have linked : Ascending 2 (fatLink (linkChain (fatOf (v.disk 1))
          (fileChain (fatOf (v.disk 1)) c request.bufferSize)
          (fileFits (fatOf (v.disk 1)) c request.bufferSize))) :=
        ascending_linkChain forward.disk (fileChain_sorted _ _ _) _
      constructor
      · simpa only [Volume.makeFile, storeEntry_fat accepts] using linked
      · simpa only [Volume.makeFile, storeEntry_fat accepts, Function.update_self, fatOf_fatBytes]
          using linked

theorem forwardFats_delete {request : FAT32DriverRequest} {stack : Fin 64 → UInt8 → Nat → UInt8}
    {v v' : Volume} {code : Int} (forward : ForwardFats v)
    (outcome : DeleteOutcome request stack v code v') : ForwardFats v' := by
  cases outcome with
  | invalidParent => exact forward
  | @searched w _ _ accepts wiped ended =>
      have above := accepts.1
      have wipedForward : ForwardFats w := by
        cases wiped with
        | untouched => exact forward
        | wiped =>
            refine ⟨ascending_wipe forward.ram _, ?_⟩
            rw [wipedVolume_of_ne (by omega)]
            exact forward.disk
      cases ended with
      | notFound => exact wipedForward
      | notEmpty => exact wipedForward
      | @removed i c =>
          have freed : Ascending 2 (fatLink (Function.update w.fat c fatEmptyEntry)) :=
            ascending_update wipedForward.ram fun _ => .inl rfl
          refine ⟨freed, ?_⟩
          rw [removeEntry_fat above]
          exact freed

/-- **Every call keeps links pointing forward**, whatever its request and
however it returns. -/
theorem forwardFats_step {call : Call} {v v' : Volume} {code : Int} (forward : ForwardFats v)
    (outcome : StepOutcome v call code v') : ForwardFats v' := by
  cases outcome with
  | load => exact ⟨forward.disk, forward.disk⟩
  | format =>
      have formatted := ascending_formatFat forward.ram
      refine ⟨formatted, ?_⟩
      rw [fatOf_format]
      exact formatted
  | read => exact forward
  | readDirectory => exact forward
  | write outcome => exact forwardFats_write forward outcome
  | delete outcome => exact forwardFats_delete forward outcome

/-! ### Runs -/

theorem forwardFats_run {fuel : Nat} {d d' : Driver} {calls : List Call} {replies : List Reply}
    (start : ForwardFats d.volume) (done : run (step fuel) d calls = .ok (replies, d')) :
    ForwardFats d'.volume :=
  run_invariant (I := fun d => ForwardFats d.volume)
    (fun _ _ _ _ forward taken => forwardFats_step forward (step_outcome taken)) start done

/-- An unformatted disk is either blank where the FAT goes, as the build makes
it, or it is formatted by the first call. -/
def FormatsFirst (disk : Disk) (calls : List Call) : Prop :=
  disk 1 = (fun _ => 0) ∨ ∃ rest, calls = .initializeFilesystem :: rest

/-- From zeroed RAM, formatting leaves links pointing forward whatever the disk
held before. -/
theorem forwardFats_booted {disk : Disk} (unformatted : Unformatted disk) :
    ForwardFats (booted disk).volume := by
  have fresh : Ascending 2 (fatLink freshFat) :=
    ascending_formatFat (ascending_of_zero (fun _ => rfl) 2)
  obtain ⟨ram, disk⟩ := booted_volume unformatted
  constructor
  · simpa only [Driver.volume, ram] using fresh
  · simpa only [Driver.volume, disk, freshDisk_fat] using fresh

/-- **The FAT is acyclic in every reachable state.** -/
theorem fat_acyclic {fuel : Nat} {disk : Disk} {calls : List Call} {replies : List Reply}
    {d : Driver} (unformatted : Unformatted disk) (fresh : FormatsFirst disk calls)
    (done : run (step fuel) (poweredOn disk) calls = .ok (replies, d)) :
    Acyclic d.fatTable ∧ Acyclic (fatOf (d.disk 1)) := by
  suffices forward : ForwardFats d.volume from
    ⟨acyclic_of_ascending forward.ram, acyclic_of_ascending forward.disk⟩
  rcases fresh with blank | ⟨rest, rfl⟩
  · have start : ForwardFats (poweredOn disk).volume := by
      refine ⟨ascending_of_zero (fun _ => rfl) 2, ascending_of_zero (fun c => ?_) 2⟩
      simp [Driver.volume, poweredOn, blank, fatOf, peek, ByteWords.word32, ByteWords.fromBytes,
        fatEmptyEntry]
    exact forwardFats_run start done
  · obtain ⟨_, d', _, first, tail, -⟩ := run_cons_ok done
    simp only [step, Except.ok.injEq, Prod.mk.injEq] at first
    obtain ⟨-, rfl⟩ := first
    exact forwardFats_run (forwardFats_booted unformatted) tail

/-- Formatting the blank image and storing a file of three clusters in the root. -/
theorem fat_acyclic_blank :
    let request : FAT32DriverRequest := ⟨fun _ => 0x61, rootName, fun _ => 0, 2, 5000⟩
    let d := (write request (booted blankDisk)).2
    Acyclic d.fatTable ∧ Acyclic (fatOf (d.disk 1)) := by
  intro request d
  exact @fat_acyclic 1 blankDisk [.initializeFilesystem, .write request]
    [.status 0, .status (write request (booted blankDisk)).1] d blankDisk_unformatted (.inl rfl) rfl

end HexOS.Fat32
