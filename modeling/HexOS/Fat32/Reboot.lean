import HexOS.Fat32.Reserved
import HexOS.Fat32.TestTable

/-!
Reboot transparency.

A call depends on the driver's RAM through the FAT and the static `test` alone
(`step_congr`), so losing all RAM and initializing again is invisible wherever
the FAT in RAM is the one on disk and `test` is as zeroed as at power-on. Writing
always flushes what it changed. A delete that wipes FAT entries for a file flushes
them only if it goes on to remove a slot, and a folder it looks into stays in
`test`; `Flushes` says when neither goes wrong.
-/

namespace HexOS.Fat32

open BoundedScan PartialRuns WhileLoop

/-! ### What a call depends on -/

/-- Two drivers that differ in the buffers a loaded directory does not use. -/
structure SameLoaded (d e : Driver) : Prop where
  fat : d.fatTable = e.fatTable
  table : d.dirTableBuf = e.dirTableBuf
  disk : d.disk = e.disk
  test : d.test = e.test

theorem deleteRound_congr (request : FAT32DriverRequest) (stack : UInt8 → Nat → UInt8) {fuel : Nat}
    {d e : Driver} (same : SameLoaded d e) :
    (∃ d' e', iterate (deleteRound request stack) fuel (1, d) = some d' ∧
      iterate (deleteRound request stack) fuel (1, e) = some e' ∧ SameLoaded d' e') ∨
      iterate (deleteRound request stack) fuel (1, d) = none ∧
        iterate (deleteRound request stack) fuel (1, e) = none := by
  refine iterate_simulation (R := fun s t => s.1 = t.1 ∧ SameLoaded s.2 t.2) (S := SameLoaded)
    ?_ fuel ⟨rfl, same⟩
  rintro ⟨k, d⟩ ⟨_, e⟩ ⟨rfl, fat, table, disk, test⟩
  simp only at fat table disk test
  simp only [deleteRound]
  split
  · exact .inl ⟨_, _, rfl, rfl, rfl, by simp only [fat], table, by simp only [fat, disk], test⟩
  · exact .inr ⟨_, _, rfl, rfl, fat, table, disk, test⟩

theorem deleteEntry_congr (request : FAT32DriverRequest) (i : Fin 64) {d e : Driver}
    (same : SameLoaded d e) :
    (∃ code d' e', deleteEntry request i d = .ok (code, d') ∧
      deleteEntry request i e = .ok (code, e') ∧ SameLoaded d' e') ∨
      ∃ fault, deleteEntry request i d = .error fault ∧ deleteEntry request i e = .error fault := by
  obtain ⟨fat, table, disk, test⟩ := same
  simp only [deleteEntry, ← table, ← disk]
  split
  · exact .inl ⟨0, _, _, rfl, rfl, by simp only [fat], rfl, by simp only [fat], test⟩
  · exact .inr ⟨_, rfl, rfl⟩

theorem deleteLoop_congr {fuel : Nat} {request : FAT32DriverRequest}
    {stack : Fin 64 → UInt8 → Nat → UInt8} (slots : List (Fin 64)) {d e : Driver}
    (same : SameLoaded d e) :
    (∃ code d' e', deleteLoop fuel request stack slots d = .ok (code, d') ∧
      deleteLoop fuel request stack slots e = .ok (code, e') ∧ SameLoaded d' e') ∨
      ∃ fault, deleteLoop fuel request stack slots d = .error fault ∧
        deleteLoop fuel request stack slots e = .error fault := by
  induction slots generalizing d e with
  | nil => exact .inl ⟨1, d, e, rfl, rfl, same⟩
  | cons i rest ih =>
      obtain ⟨fat, table, disk, test⟩ := same
      simp only [deleteLoop, ← table, ← disk]
      split
      · split
        · split
          · exact .inl ⟨2, _, _, rfl, rfl, fat, rfl, rfl, rfl⟩
          · exact ih ⟨fat, rfl, rfl, rfl⟩
        · rcases @deleteRound_congr request (stack i) fuel d e ⟨fat, table, disk, test⟩ with
            ⟨d', e', left, right, next⟩ | ⟨left, right⟩
          · rw [left, right]
            exact ih next
          · rw [left, right]
            exact .inr ⟨_, rfl, rfl⟩
      · exact deleteEntry_congr request i ⟨fat, table, disk, test⟩

theorem delete_congr {fuel : Nat} {request : FAT32DriverRequest}
    {stack : Fin 64 → UInt8 → Nat → UInt8} {d e : Driver} (same : d.volume = e.volume)
    (test : d.test = e.test) :
    (∃ code d' e', delete fuel request stack d = .ok (code, d') ∧
      delete fuel request stack e = .ok (code, e') ∧ d'.volume = e'.volume ∧ d'.test = e'.test) ∨
      ∃ fault, delete fuel request stack d = .error fault ∧
        delete fuel request stack e = .error fault := by
  have fat : d.fatTable = e.fatTable := congrArg Volume.fat same
  have disk : d.disk = e.disk := congrArg Volume.disk same
  unfold delete
  simp only [← disk]
  split
  · exact .inl ⟨-1, _, _, rfl, rfl, by simp only [Driver.volume, fat], test⟩
  · have loaded : SameLoaded
        { d with dirTableBuf := tableOf (readClusters d.disk request.parentClusterNumber) }
        { e with dirTableBuf := tableOf (readClusters d.disk request.parentClusterNumber) } :=
      ⟨fat, rfl, disk, test⟩
    generalize (List.finRange 64).drop 1 = slots
    simp only [← disk] at loaded
    rcases deleteLoop_congr slots loaded with
      ⟨code, d', e', left, right, fat', -, disk', test'⟩ | ⟨fault, left, right⟩
    · refine .inl ⟨code, d', e', left, right, ?_, test'⟩
      rw [Driver.volume, Driver.volume, fat', disk']
    · exact .inr ⟨fault, left, right⟩

/-! ### One step -/

/-- Cluster 0 is not written again once the disk is formatted. -/
theorem StepOutcome.signed {call : Call} {v v' : Volume} {code : Int} (signed : Signed v.disk)
    (outcome : StepOutcome v call code v') : Signed v'.disk := by
  suffices same : v'.disk 0 = v.disk 0 from signed_congr same signed
  cases outcome with
  | load => rfl
  | format _ _ unsigned => exact absurd signed unsigned
  | read => rfl
  | readDirectory => rfl
  | @write request _ _ outcome =>
      cases outcome with
      | invalidParent => rfl
      | taken => rfl
      | full => rfl
      | folder accepts _ first =>
          have parent := accepts.1
          have above := first.spec.1
          simp only [Volume.makeFolder]
          rw [Function.update_of_ne (by omega), Function.update_of_ne (by omega),
            storeEntry_of_ne (by omega)]
      | @file c k accepts _ first =>
          have parent := accepts.1
          have above := first.spec.1
          obtain ⟨-, -, untouched, -⟩ := makeFile_spec request above 0 request.bufferSize
            (storeEntry request v.disk c k)
          rw [untouched 0 (by omega) fun e member => ?_, storeEntry_of_ne (by omega)]
          have := Fin.le_def.mp (fileChain_above member)
          omega
  | @delete request stack _ _ outcome =>
      cases outcome with
      | invalidParent => rfl
      | @searched w _ _ accepts wiped ended =>
          have parent := accepts.1
          have front : w.disk 0 = v.disk 0 := by
            cases wiped with
            | untouched => rfl
            | wiped => exact wipedVolume_of_ne (by omega)
          cases ended with
          | notFound => exact front
          | notEmpty => exact front
          | removed => exact (removeEntry_of_ne (by omega) (by decide)).trans front

theorem read_congr (request : FAT32DriverRequest) {d e : Driver} (disk : d.disk = e.disk) :
    (read request d).1 = (read request e).1 := by
  unfold read
  simp only [← disk]
  split
  · rfl
  · split
    · rfl
    · split <;> rfl

theorem readDirectory_congr (request : FAT32DriverRequest) (beyond : Nat → UInt8) {d e : Driver}
    (disk : d.disk = e.disk) (test : d.test = e.test) :
    (readDirectory request beyond d).1 = (readDirectory request beyond e).1 := by
  by_cases accepts : Accepts d.disk request.parentClusterNumber
  · have accepts' : Accepts e.disk request.parentClusterNumber := disk ▸ accepts
    cases hit : directoryHit request (parentTable d.disk request.parentClusterNumber) with
    | none => rw [readDirectory_missed accepts hit, readDirectory_missed accepts' (disk ▸ hit)]
    | some i =>
        have bytes : ∀ c, fromClusterBuf { d with clusterBuf := c } beyond =
            fromClusterBuf { e with clusterBuf := c } beyond := by
          intro c
          funext j
          simp only [fromClusterBuf, test]
        rw [readDirectory_hit accepts hit, readDirectory_hit accepts' (disk ▸ hit), bytes, disk]
  · rw [readDirectory_rejected accepts, readDirectory_rejected (disk ▸ accepts)]

theorem load_volume {d : Driver} (signed : Signed d.disk) :
    (initializeFilesystemFat32 d).volume = ⟨fatOf (d.disk 1), d.disk⟩ := by
  have outcome := initializeFilesystem_outcome d
  generalize (initializeFilesystemFat32 d).volume = v at outcome ⊢
  cases outcome with
  | load => rfl
  | format _ _ unsigned => exact absurd signed unsigned

theorem signed_step {fuel : Nat} {d d' : Driver} {call : Call} {reply : Reply}
    (signed : Signed d.disk) (taken : step fuel d call = .ok (reply, d')) : Signed d'.disk :=
  (step_outcome taken).signed signed

theorem booted_of_signed {disk : Disk} (signed : Signed disk) :
    (booted disk).fatTable = fatOf (disk 1) ∧ (booted disk).disk = disk := by
  have volume := load_volume (d := poweredOn disk) signed
  simp only [Driver.volume, Volume.mk.injEq] at volume
  rw [booted]
  exact volume

/-- Formatted drivers with equal volumes and the same bytes in `test`. -/
def SameVolume (d e : Driver) : Prop := d.volume = e.volume ∧ d.test = e.test ∧ Signed d.disk

/-- **A call depends on the volume and `test` alone.** -/
theorem step_congr {fuel : Nat} {call : Call} {d e : Driver} (same : SameVolume d e) :
    (∃ reply d' e', step fuel d call = .ok (reply, d') ∧ step fuel e call = .ok (reply, e') ∧
      SameVolume d' e') ∨
      ∃ fault, step fuel d call = .error fault ∧ step fuel e call = .error fault := by
  obtain ⟨volume, test, signed⟩ := same
  have disk : d.disk = e.disk := congrArg Volume.disk volume
  have stays : ∀ reply d', step fuel d call = .ok (reply, d') → Signed d'.disk :=
    fun _ _ taken => signed_step signed taken
  cases call with
  | initializeFilesystem =>
      refine .inl ⟨.status 0, initializeFilesystemFat32 d, initializeFilesystemFat32 e, rfl, rfl, ?_,
        ?_, stays (.status 0) _ rfl⟩
      · rw [load_volume signed, load_volume (disk ▸ signed), disk]
      · rw [initializeFilesystem_test, initializeFilesystem_test, test]
  | read request =>
      refine .inl ⟨(read request d).1, (read request d).2, (read request e).2, rfl, ?_, ?_, ?_,
        stays (read request d).1 _ rfl⟩
      · rw [step, read_congr request disk]
      · rw [read_volume, read_volume, volume]
      · rw [read_test, read_test, test]
  | readDirectory request beyond =>
      refine .inl ⟨(readDirectory request beyond d).1, (readDirectory request beyond d).2,
        (readDirectory request beyond e).2, rfl, ?_, ?_, ?_,
        stays (readDirectory request beyond d).1 _ rfl⟩
      · rw [step, readDirectory_congr request beyond disk test]
      · rw [readDirectory_volume, readDirectory_volume, volume]
      · rw [readDirectory_test, readDirectory_test, test]
  | write request =>
      obtain ⟨left, left'⟩ := write_volume request d
      obtain ⟨right, right'⟩ := write_volume request e
      refine .inl ⟨.status (write request d).1, (write request d).2, (write request e).2, rfl, ?_,
        ?_, ?_, stays (.status (write request d).1) _ rfl⟩
      · rw [step, left, right, volume]
      · rw [left', right', volume]
      · rw [write_test, write_test, test]
  | delete request stack =>
      rcases @delete_congr fuel request stack d e volume test with
        ⟨code, d', e', left, right, next, kept⟩ | ⟨fault, left, right⟩
      · have taken : step fuel d (.delete request stack) = .ok (.status code, d') := by
          simp only [step, left]
        exact .inl ⟨.status code, d', e', taken, by simp only [step, right], next, kept,
          stays (.status code) d' taken⟩
      · exact .inr ⟨fault, by simp only [step, left], by simp only [step, right]⟩

/-! ### Rebooting -/

/-- The FAT in RAM is the one on disk. -/
def Synced (d : Driver) : Prop := d.fatTable = fatOf (d.disk 1)

/-- The caller sees the same of two replies. -/
structure Reply.Same (r r' : Reply) : Prop where
  code : r.code = r'.code
  length : r.length = r'.length
  byte : ∀ j < r.length, r.byte j = r'.byte j

/-- Both drivers answer the calls with the same codes and bytes and leave the same
disk, or both fault alike. -/
def Agree (fuel : Nat) (d e : Driver) (calls : List Call) : Prop :=
  (∃ replies replies' d' e', run (step fuel) d calls = .ok (replies, d') ∧
    run (step fuel) e calls = .ok (replies', e') ∧ List.Forall₂ Reply.Same replies replies' ∧
    d'.disk = e'.disk) ∨
    ∃ fault, run (step fuel) d calls = .error fault ∧ run (step fuel) e calls = .error fault

/-- Losing all RAM here and initializing again is never noticed. -/
def RebootTransparent (fuel : Nat) (d : Driver) : Prop :=
  ∀ calls, Agree fuel d (booted d.disk) calls

theorem agree_of_sameVolume {fuel : Nat} {d e : Driver} (same : SameVolume d e)
    (calls : List Call) : Agree fuel d e calls := by
  rcases run_simulation (R := SameVolume) (fun _ _ call same => @step_congr fuel call _ _ same) calls
    same with ⟨replies, d', e', left, right, volume, -⟩ | ⟨fault, left, right⟩
  · exact .inl ⟨replies, replies, d', e', left, right,
      List.forall₂_same.mpr fun _ _ => ⟨rfl, rfl, fun _ _ => rfl⟩, congrArg Volume.disk volume⟩
  · exact .inr ⟨fault, left, right⟩

theorem booted_test (disk : Disk) : (booted disk).test = blankTable :=
  initializeFilesystem_test (poweredOn disk)

/-- After a reboot on the disk of a driver whose FATs are equal, the volume is the
same. -/
theorem volume_reboot {d : Driver} (signed : Signed d.disk) (synced : Synced d) :
    d.volume = (booted d.disk).volume := by
  obtain ⟨ram, image⟩ := booted_of_signed signed
  rw [Driver.volume, Driver.volume, ram, image, ← synced]

theorem rebootTransparent_of_synced {fuel : Nat} {d : Driver} (signed : Signed d.disk)
    (synced : Synced d) (blank : d.test = blankTable) : RebootTransparent fuel d := by
  refine fun calls => agree_of_sameVolume ⟨volume_reboot signed synced, ?_, signed⟩ calls
  rw [blank, booted_test]

/-! ### Bytes in `test` are noticed -/

theorem Agree.tail {fuel : Nat} {d e d' e' : Driver} {call : Call} {calls : List Call}
    {reply reply' : Reply} (agree : Agree fuel d e (call :: calls))
    (left : step fuel d call = .ok (reply, d')) (right : step fuel e call = .ok (reply', e')) :
    Agree fuel d' e' calls := by
  rcases agree with ⟨_, _, t, u, done, done', same, disk⟩ | ⟨fault, fail, fail'⟩
  · obtain ⟨o, v, os, first, rest, rfl⟩ := run_cons_ok done
    obtain ⟨o', v', os', first', rest', rfl⟩ := run_cons_ok done'
    obtain ⟨rfl, rfl⟩ := Prod.mk.inj (Except.ok.inj (left.symm.trans first))
    obtain ⟨rfl, rfl⟩ := Prod.mk.inj (Except.ok.inj (right.symm.trans first'))
    exact .inl ⟨os, os', t, u, rest, rest', (List.forall₂_cons.mp same).2, disk⟩
  · simp only [run, left, right] at fail fail'
    refine .inr ⟨fault, ?_, ?_⟩
    · cases rest : run (step fuel) d' calls with
      | ok pair => simp only [rest] at fail; cases fail
      | error e => simpa only [rest] using fail
    · cases rest : run (step fuel) e' calls with
      | ok pair => simp only [rest] at fail'; cases fail'
      | error e => simpa only [rest] using fail'

/-- A folder request that removes slot 1, whatever file or folder is in it. -/
theorem delete_first {fuel : Nat} {parent : UInt32} {d : Driver} {name : Bytes 8}
    (accepts : Accepts d.disk parent) (other : (parentTable d.disk parent 1).name ≠ name)
    {c : Fin 512} (leads : entryCluster (parentTable d.disk parent 1) = num c)
    (stack : Fin 64 → UInt8 → Nat → UInt8) :
    ∃ d', delete fuel ⟨fun _ => 0, name, fun _ => 0, parent, 0⟩ stack d = .ok (0, d') ∧
      d'.test = d.test ∧ d'.volume =
        d.volume.removeEntry ⟨fun _ => 0, name, fun _ => 0, parent, 0⟩
          (parentTable d.disk parent) 1 c := by
  have admitted := accepts.admitted
  rw [accepts.readClusters] at admitted
  have slots : (List.finRange 64).drop 1 = 1 :: (List.finRange 64).drop 2 := by decide
  have small := c.isLt
  simp only [delete, accepts.readClusters, if_neg admitted, slots, deleteLoop, memcmp_eq_zero_iff,
    if_neg other, deleteEntry, leads, toNat_num, dif_pos small]
  refine ⟨_, rfl, rfl, ?_⟩
  simp only [Driver.volume, Volume.removeEntry, writeClusters_fat, accepts.writeClusters]
  rfl

/-- There is room in an accepted directory, or its first slot can be removed. -/
def CanStore (d : Driver) : Prop :=
  ∃ parent, RoomAt parent d.volume ∨ Accepts d.disk parent ∧
    ∃ c : Fin 512, 2 ≤ c.val ∧ entryCluster (parentTable d.disk parent 1) = num c

theorem not_agree_of_room {fuel : Nat} {d e : Driver} {parent : UInt32}
    (room : RoomAt parent d.volume) (volume : d.volume = e.volume) (differ : d.test ≠ e.test) :
    ∃ calls, ¬ Agree fuel d e calls := by
  obtain ⟨name, c, above, stored⟩ := lure_stored room
  refine ⟨[.write (lure parent name), .readDirectory (lureRead c) fun _ => 0], fun agree => ?_⟩
  have written : ∀ f : Driver, f.volume = d.volume →
      (write (lure parent name) f).2.disk c.val = tableBytes lureTable := by
    intro f same
    have left := congrArg (fun v => Volume.disk v c.val) (write_volume (lure parent name) f).2
    rw [same] at left
    exact left.trans stored
  have rest := agree.tail rfl rfl
  obtain ⟨length, here⟩ := lure_shows above (written d rfl) fun _ => 0
  obtain ⟨-, there⟩ := lure_shows above (written e volume.symm) fun _ => 0
  rcases rest with ⟨_, _, _, _, done, done', same, -⟩ | ⟨fault, fail, -⟩
  · obtain ⟨rfl, rfl⟩ := Prod.mk.inj (Except.ok.inj done)
    obtain ⟨rfl, rfl⟩ := Prod.mk.inj (Except.ok.inj done')
    have bytes := (List.forall₂_cons.mp same).1.byte
    refine differ (tableBytes_injective (funext fun j => ?_))
    have inside : 2048 + j.val <
        (readDirectory (lureRead c) (fun _ => 0) (write (lure parent name) d).2).1.length := by
      rw [length]
      exact Nat.add_lt_add_left j.isLt 2048
    rw [← write_test (lure parent name) d, ← write_test (lure parent name) e, ← here, ← there]
    exact bytes _ inside
  · cases fail

/-- **What stands in `test` is noticed** wherever a cluster of data can be stored. -/
theorem not_agree_of_test {fuel : Nat} {d e : Driver} (able : CanStore d)
    (volume : d.volume = e.volume) (differ : d.test ≠ e.test) : ∃ calls, ¬ Agree fuel d e calls := by
  obtain ⟨parent, room | ⟨accepts, c, above, leads⟩⟩ := able
  · exact not_agree_of_room room volume differ
  · have disk : d.disk = e.disk := congrArg Volume.disk volume
    obtain ⟨name, unused⟩ := exists_unused_name (parentTable d.disk parent)
    obtain ⟨d', left, keptLeft, leftVolume⟩ :=
      @delete_first fuel parent d name accepts (unused 1) c leads fun _ _ _ => 0
    obtain ⟨e', right, keptRight, rightVolume⟩ :=
      @delete_first fuel parent e name (disk ▸ accepts) (disk ▸ unused 1) c (disk ▸ leads)
        fun _ _ _ => 0
    have parentIs : (⟨fun _ => 0, name, fun _ => 0, parent, 0⟩ :
      FAT32DriverRequest).parentClusterNumber = parent := rfl
    have low := accepts.1
    have table : parentTable d'.volume.disk parent =
        Function.update (parentTable d.disk parent) 1 .empty := by
      simp only [leftVolume, Volume.removeEntry, parentTable, Function.update_self, tableOf_tableBytes]
    have room : RoomAt parent d'.volume := by
      refine ⟨⟨low, accepts.2.1, ?_⟩, ⟨1, le_rfl, ?_⟩, ⟨c, above, ?_⟩⟩
      · refine (congrArg LooksLikeDirectory table).mpr ?_
        rw [LooksLikeDirectory, Function.update_of_ne (by decide)]
        exact accepts.2.2
      · rw [table, Function.update_self]
        decide
      · simp only [leftVolume, Volume.removeEntry, Function.update_self]
    obtain ⟨calls, disagree⟩ := @not_agree_of_room fuel d' e' parent room
      (by rw [leftVolume, rightVolume, volume, disk]) (by rwa [keptLeft, keptRight])
    refine ⟨.delete ⟨fun _ => 0, name, fun _ => 0, parent, 0⟩ (fun _ _ _ => 0) :: calls,
      fun agree => disagree (agree.tail (show _ = Except.ok (.status 0, d') from ?_)
        (show _ = Except.ok (.status 0, e') from ?_))⟩
    · simp only [step, left]
    · simp only [step, right]

/-! ### When a call flushes -/

/-- A delete that wipes a used FAT entry for a file it passes goes on to remove
a slot. -/
def FlushingDelete (request : FAT32DriverRequest) (stack : Fin 64 → UInt8 → Nat → UInt8)
    (d : Driver) : Prop :=
  let table := parentTable d.disk request.parentClusterNumber
  Accepts d.disk request.parentClusterNumber →
    (∃ j, Passes request table (searchEnd request stack table d.disk) j) →
    (∃ c : Fin 512, 1 ≤ c.val ∧ c.val < rounds request ∧ d.fatTable c ≠ fatEmptyEntry) →
    ∃ i, deleteStop request stack table d.disk = some i ∧ (table i).name ≠ request.name

/-- A call leaves the FATs equal and nothing in `test`. -/
def Flushes (d : Driver) : Call → Prop
  | .delete request stack => FlushingDelete request stack d ∧ ClearsTest request stack d
  | _ => True

theorem wipe_eq_iff {fat : FAT32FileAllocationTable} {n : Nat} :
    wipe fat n = fat ↔ ¬ ∃ c : Fin 512, 1 ≤ c.val ∧ c.val < n ∧ fat c ≠ fatEmptyEntry := by
  constructor
  · rintro same ⟨c, low, high, used⟩
    exact used ((congrFun same c).symm.trans (if_pos ⟨low, high⟩))
  · intro unused
    funext c
    unfold wipe
    split
    · rename_i inside
      by_contra used
      exact unused ⟨c, inside.1, inside.2, fun zero => used zero.symm⟩
    · rfl

theorem synced_delete_iff {request : FAT32DriverRequest} {stack : Fin 64 → UInt8 → Nat → UInt8}
    {d : Driver} {v' : Volume} {code : Int} (synced : Synced d)
    (outcome : DeleteOutcome request stack d.volume code v') :
    v'.fat = fatOf (v'.disk 1) ↔ FlushingDelete request stack d := by
  cases outcome with
  | invalidParent rejected => exact ⟨fun _ accepts => absurd accepts rejected, fun _ => synced⟩
  | @searched w _ _ accepts wiped ended =>
      have parent := accepts.1
      cases wiped with
      | untouched few =>
          refine ⟨fun _ _ ⟨j, passes⟩ => ?_, fun _ => ?_⟩
          · rintro ⟨c, low, high, -⟩
            have := few j passes
            omega
          · cases ended with
            | notFound => exact synced
            | notEmpty => exact synced
            | removed => exact (removeEntry_fat parent).symm
      | @wiped j temp last many =>
          have unflushed : (wipedVolume request (stack j) temp d.volume).fat =
              fatOf ((wipedVolume request (stack j) temp d.volume).disk 1) ↔
              wipe d.fatTable (rounds request) = d.fatTable := by
            rw [wipedVolume_of_ne (by omega)]
            exact ⟨fun same => same.trans synced.symm, fun same => same.trans synced⟩
          cases ended with
          | notFound none =>
              rw [unflushed, wipe_eq_iff]
              constructor
              · exact fun unused _ _ used => absurd used unused
              · intro flushes used
                obtain ⟨i, hit, -⟩ := flushes accepts ⟨j, last.1⟩ used
                exact absurd (hit.symm.trans none) (Option.some_ne_none _)
          | @notEmpty i hit name =>
              rw [unflushed, wipe_eq_iff]
              constructor
              · exact fun unused _ _ used => absurd used unused
              · intro flushes used
                obtain ⟨i', hit', other⟩ := flushes accepts ⟨j, last.1⟩ used
                obtain rfl : i' = i := Option.some.inj (hit'.symm.trans hit)
                exact other name
          | @removed i c hit other =>
              exact ⟨fun _ _ _ _ => ⟨i, hit, other⟩, fun _ => (removeEntry_fat parent).symm⟩

theorem synced_of_quiet {call : Call} {v v' : Volume} {code : Int} (synced : v.fat = fatOf (v.disk 1))
    (outcome : StepOutcome v call code v') (quiet : ∀ request stack, call ≠ .delete request stack) :
    v'.fat = fatOf (v'.disk 1) := by
  cases outcome with
  | load => rfl
  | format => rw [fatOf_format]
  | read => exact synced
  | readDirectory => exact synced
  | write outcome =>
      cases outcome with
      | invalidParent => exact synced
      | taken => exact synced
      | full => exact synced
      | folder => simp [Volume.makeFolder]
      | file => simp [Volume.makeFile]
  | @delete request stack => exact absurd rfl (quiet request stack)

theorem test_of_quiet {fuel : Nat} {d d' : Driver} {call : Call} {reply : Reply}
    (taken : step fuel d call = .ok (reply, d'))
    (quiet : ∀ request stack, call ≠ .delete request stack) :
    d'.test = d.test := by
  cases call with
  | initializeFilesystem =>
      obtain ⟨-, rfl⟩ := Prod.mk.inj (Except.ok.inj taken)
      exact initializeFilesystem_test d
  | read request =>
      obtain rfl := congrArg Prod.snd (Except.ok.inj taken)
      exact read_test request d
  | readDirectory request beyond =>
      obtain rfl := congrArg Prod.snd (Except.ok.inj taken)
      exact readDirectory_test request beyond d
  | write request =>
      obtain ⟨-, rfl⟩ := Prod.mk.inj (Except.ok.inj taken)
      exact write_test request d
  | delete request stack => exact absurd rfl (quiet request stack)

/-- The driver's RAM tells no more than its disk. -/
def Settled (d : Driver) : Prop := Synced d ∧ d.test = blankTable

/-- **One call leaves the driver settled exactly when it flushes.** -/
theorem settled_step_iff {fuel : Nat} {d d' : Driver} {call : Call} {reply : Reply}
    (settled : Settled d) (taken : step fuel d call = .ok (reply, d')) :
    Settled d' ↔ Flushes d call := by
  obtain ⟨synced, blank⟩ := settled
  have outcome := step_outcome taken
  have quiet : (∀ request stack, call ≠ .delete request stack) → Settled d' := fun other =>
    ⟨@synced_of_quiet call d.volume d'.volume reply.code synced outcome other,
      (test_of_quiet taken other).trans blank⟩
  cases call with
  | delete request stack =>
      simp only [step] at taken
      split at taken
      · rename_i code e done
        obtain ⟨-, rfl⟩ := Prod.mk.inj (Except.ok.inj taken)
        exact and_congr (synced_delete_iff synced (delete_outcome done)) (test_blank_iff blank done)
      · cases taken
  | initializeFilesystem => exact iff_of_true (quiet fun _ _ => Call.noConfusion) trivial
  | read => exact iff_of_true (quiet fun _ _ => Call.noConfusion) trivial
  | readDirectory => exact iff_of_true (quiet fun _ _ => Call.noConfusion) trivial
  | write => exact iff_of_true (quiet fun _ _ => Call.noConfusion) trivial

/-! ### Runs -/

theorem booted_signed (disk : Disk) : Signed (booted disk).disk := by
  by_cases signed : Signed disk
  · rw [(booted_of_signed signed).2]
    exact signed
  · rw [(booted_volume ((unformatted_iff disk).mpr signed)).2, Signed]
    exact freshDisk_signed disk

theorem booted_synced (disk : Disk) : Synced (booted disk) := by
  by_cases signed : Signed disk
  · obtain ⟨ram, image⟩ := booted_of_signed signed
    rw [Synced, ram, image]
  · obtain ⟨ram, image⟩ := booted_volume ((unformatted_iff disk).mpr signed)
    rw [Synced, ram, image, freshDisk_fat]

theorem booted_settled (disk : Disk) : Settled (booted disk) := ⟨booted_synced disk, booted_test disk⟩

/-- What the driver promises of a state between two calls. -/
structure RebootSafe (fuel : Nat) (d : Driver) : Prop where
  synced : Synced d
  transparent : RebootTransparent fuel d

theorem rebootSafe_of_settled {fuel : Nat} {d : Driver} (signed : Signed d.disk)
    (settled : Settled d) :
    RebootSafe fuel d :=
  ⟨settled.1, rebootTransparent_of_synced signed settled.1 settled.2⟩

theorem settled_of_rebootSafe {fuel : Nat} {d : Driver} (signed : Signed d.disk)
    (able : d.test ≠ blankTable → CanStore d) (safe : RebootSafe fuel d) : Settled d := by
  refine ⟨safe.synced, ?_⟩
  by_contra filled
  obtain ⟨calls, disagree⟩ := @not_agree_of_test fuel d (booted d.disk) (able filled)
    (volume_reboot signed safe.synced) (by rwa [booted_test])
  exact disagree (safe.transparent calls)

/-- **Reboot transparency.** After initializing on any disk the state is safe to
reboot in. If every call of a run flushes, so are all states of the run; and where
every state with bytes in `test` can still store a cluster of data, they are only
then. -/
theorem rebootSafe_iff_flushes (fuel : Nat) (disk : Disk) (calls : List Call) :
    RebootSafe fuel (booted disk) ∧
      (Guarded (step fuel) Flushes (booted disk) calls →
        Along (step fuel) (fun _ _ _ d => RebootSafe fuel d) (booted disk) calls) ∧
      (Along (step fuel) (fun _ _ _ d => d.test ≠ blankTable → CanStore d) (booted disk) calls →
        Along (step fuel) (fun _ _ _ d => RebootSafe fuel d) (booted disk) calls →
        Guarded (step fuel) Flushes (booted disk) calls) := by
  have start : Signed (booted disk).disk ∧ Settled (booted disk) :=
    ⟨booted_signed disk, booted_settled disk⟩
  refine ⟨rebootSafe_of_settled start.1 start.2, fun flushes => ?_, fun able safe => ?_⟩
  · refine along_imp (I := fun d => Signed d.disk ∧ Settled d) ?_ start flushes
    rintro d call reply d' ⟨signed, settled⟩ taken flush
    have signed' := signed_step signed taken
    have settled' := (settled_step_iff settled taken).mpr flush
    exact ⟨rebootSafe_of_settled signed' settled', signed', settled'⟩
  · refine along_imp (I := fun d => Signed d.disk ∧ Settled d) ?_ start (along_and able safe)
    rintro d call reply d' ⟨signed, settled⟩ taken ⟨able, safe⟩
    have signed' := signed_step signed taken
    have settled' := settled_of_rebootSafe signed' able safe
    exact ⟨(settled_step_iff settled taken).mp settled', signed', settled'⟩

/-! ### A delete that does not flush -/

/-- A folder `docs` in the root directory. -/
def docs : FAT32DriverRequest :=
  ⟨fun _ => 0, ![0x64, 0x6F, 0x63, 0x73, 0, 0, 0, 0], fun _ => 0, rootClusterNumber, 0⟩

/-- Another folder beside it. -/
def pics : FAT32DriverRequest := { docs with name := ![0x70, 0x69, 0x63, 0x73, 0, 0, 0, 0] }

/-- A delete in that folder with an empty name, and the size of a file of three
clusters. -/
def nameless : FAT32DriverRequest := ⟨fun _ => 0, fun _ => 0, fun _ => 0, 3, 6144⟩

def docsFolder : FAT32DirectoryTable := initDirectoryTable blankTable docs.name rootClusterNumber

/-- Every slot of the fresh folder behind its own carries that name, and none
holds a directory. -/
theorem docsFolder_slot {j : Fin 64} (behind : 1 ≤ j.val) : docsFolder j = .empty :=
  initDirectoryTable_of_ne (ne_zero_of_one_le behind)

theorem nameless_stop (stack : Fin 64 → UInt8 → Nat → UInt8) (disk : Disk) :
    deleteStop nameless stack docsFolder disk = none := by
  refine firstFrom_eq_none_iff.mpr fun j above => decide_eq_false ?_
  rw [EndsSearch, docsFolder_slot above]
  rintro (other | ⟨kind, -⟩)
  · exact other rfl
  · exact absurd kind (by decide)

theorem nameless_last : LastPassed nameless docsFolder 64 63 := by
  refine ⟨⟨by decide, by decide, ?_⟩, fun j _ => Fin.le_def.mpr (Nat.lt_succ_iff.mp j.isLt)⟩
  rw [docsFolder_slot (by decide)]
  exact ⟨rfl, by decide⟩

/-- The volume with the folder in cluster 3. -/
def docsVolume : Volume :=
  Volume.makeFolder docs 3 ⟨freshFat, storeEntry docs (freshDisk blankDisk) 3 1⟩

theorem docs_written : (write docs (booted blankDisk)).2.volume = docsVolume := by
  have folder : docs.bufferSize = 0 := rfl
  have written := (write_volume docs (booted blankDisk)).2
  rwa [booted_write blankDisk_unformatted rfl (by decide), if_pos folder] at written

theorem docsVolume_root : tableOf (docsVolume.disk 2) = writeEntry docs rootTable (num 3) 1 := by
  have table := @booted_write_table blankDisk blankDisk_unformatted docs rfl (by decide)
  have image : ∀ d : Driver, d.volume = docsVolume → d.disk = docsVolume.disk := fun _ same =>
    congrArg Volume.disk same
  rwa [image _ docs_written] at table

theorem docsVolume_folder : parentTable docsVolume.disk nameless.parentClusterNumber = docsFolder := by
  have three : nameless.parentClusterNumber.toNat = 3 := rfl
  have parent : docs.parentClusterNumber.toNat = 2 := rfl
  have before : storeEntry docs (freshDisk blankDisk) 3 1 3 = fun _ => 0 := by
    rw [storeEntry_of_ne (by omega), freshDisk_of_above _ le_rfl]
    rfl
  rw [parentTable, three, docsVolume]
  simp only [Volume.makeFolder]
  rw [Function.update_of_ne (by decide),
    show (3 : Nat) = (3 : Fin 512).val from rfl, Function.update_self, tableOf_tableBytes,
    show (3 : Fin 512).val = 3 from rfl, before, tableOf_blank]
  rfl

theorem docsVolume_fat : fatOf (docsVolume.disk 1) = docsVolume.fat := by
  simp only [docsVolume, Volume.makeFolder, Function.update_self, fatOf_fatBytes]

/-- The delete finds nothing to remove. It leaves the FAT wiped in RAM, and on
disk nothing but the folder's own cluster changed. -/
theorem nameless_run (stack : Fin 64 → UInt8 → Nat → UInt8) :
    ∃ replies d temp, run (step 256) (booted blankDisk) [.write docs, .delete nameless stack] =
        .ok (replies, d) ∧ d.volume = wipedVolume nameless (stack 63) temp docsVolume := by
  have start := docs_written
  simp only [run, step]
  generalize (write docs (booted blankDisk)).1 = first
  generalize (write docs (booted blankDisk)).2 = b at start ⊢
  have disk : b.disk = docsVolume.disk := congrArg Volume.disk start
  have table := docsVolume_folder
  have accepts : Accepts docsVolume.disk nameless.parentClusterNumber :=
    ⟨by decide, by decide, (congrArg LooksLikeDirectory table).mpr
      (initDirectoryTable_header _ _ _)⟩
  have stop := nameless_stop stack docsVolume.disk
  obtain ⟨⟨code, d⟩, deleted⟩ := @delete_returns nameless stack b (by decide)
    (fun i hit => by
      rw [disk, table, stop] at hit
      cases hit) 256 le_rfl
  have outcome := delete_outcome deleted
  rw [start] at outcome
  suffices left : ∃ temp, d.volume = wipedVolume nameless (stack 63) temp docsVolume by
    obtain ⟨temp, volume⟩ := left
    exact ⟨[.status first, .status code], d, temp, by simp only [deleted], volume⟩
  have last := nameless_last
  generalize d.volume = v' at outcome ⊢
  cases outcome with
  | invalidParent rejected => exact absurd accepts rejected
  | searched _ wiped ended =>
      simp only [table, searchEnd, stop, Option.elim_none] at wiped ended
      cases wiped with
      | untouched few => exact absurd (few 63 last.1) (by decide)
      | @wiped j temp last' =>
          obtain rfl : j = 63 := le_antisymm (last.2 j last'.1) (last'.2 63 last.1)
          cases ended with
          | notFound => exact ⟨temp, rfl⟩
          | notEmpty hit => cases hit
          | removed hit => cases hit

/-- Behind that delete, whatever the stack holds, storing a folder in the root
writes the wiped FAT over the one on disk; after a reboot it does not. -/
theorem nameless_noticed (stack : Fin 64 → UInt8 → Nat → UInt8) : ∃ replies d,
    run (step 256) (booted blankDisk) [.write docs, .delete nameless stack] = .ok (replies, d) ∧
      ¬ Synced d ∧ ¬ RebootTransparent 256 d := by
  obtain ⟨replies, d, temp, done, volume⟩ := nameless_run stack
  generalize booted blankDisk = b at done ⊢
  have rootTwo : pics.parentClusterNumber.toNat = 2 := rfl
  have three : nameless.parentClusterNumber.toNat = 3 := rfl
  simp only [Driver.volume, wipedVolume, three, Volume.mk.injEq] at volume
  obtain ⟨ram, image⟩ := volume
  have fresh : Reserved docsVolume.fat :=
    reserved_update (reserved_formatFat _) (by decide) fatEndOfFile
  have signed : Signed d.disk := by
    refine signed_congr ?_ (freshDisk_signed blankDisk)
    rw [image, Function.update_of_ne (by decide), docsVolume]
    simp only [Volume.makeFolder]
    rw [Function.update_of_ne (by decide), Function.update_of_ne (by decide),
      storeEntry_of_ne (by decide)]
  have onDisk : Reserved (fatOf (d.disk 1)) := by
    rw [image, Function.update_of_ne (by decide), docsVolume_fat]
    exact fresh
  have wiped : ∀ c : Fin 512, 1 ≤ c.val → c.val < 3 → d.fatTable c = fatEmptyEntry := by
    intro c low high
    rw [ram]
    exact if_pos ⟨low, high⟩
  refine ⟨replies, d, done, fun synced => ?_, fun transparent => ?_⟩
  · have lost := wiped 1 (by decide) (by decide)
    rw [synced, onDisk.fatCluster] at lost
    exact absurd lost (by decide)
  · -- without the reboot the folder takes cluster 2, and the wiped FAT goes to disk
    have table : parentTable d.disk pics.parentClusterNumber =
        writeEntry docs rootTable (num 3) 1 := by
      rw [parentTable, rootTwo, image, Function.update_of_ne (by decide), docsVolume_root]
    have stays : Volume.write pics d.volume =
        (0, Volume.makeFolder pics 2 ⟨d.fatTable, storeEntry pics d.disk 2 2⟩) := by
      rw [Volume.write_of_admitted (v := d.volume) (c := 2) (k := 2) ⟨by decide, by decide, ?_⟩ ?_ ?_
        ?_, if_pos (show pics.bufferSize = 0 from rfl)]
      · rfl
      · exact (congrArg LooksLikeDirectory table).mpr (by decide)
      · exact (congrArg (isExist pics) table).trans (by decide)
      · have free : d.volume.fat 2 = fatEmptyEntry := wiped 2 (by decide) (by decide)
        exact firstFrom_here (i := (2 : Fin 512)) (by simpa using free)
      · exact (congrArg (FirstSlot · 2) table).mpr
          ((firstFrom_skip (i := (1 : Fin 64)) (by decide)).trans
          (firstFrom_here (i := (2 : Fin 64)) (by decide)))
    have lost : fatOf ((write pics d).2.volume.disk 1) 1 = fatEmptyEntry := by
      rw [(write_volume pics d).2, stays]
      simp only [Volume.makeFolder, Function.update_self, fatOf_fatBytes]
      rw [Function.update_of_ne (by decide)]
      exact wiped 1 (by decide) (by decide)
    -- after the reboot the FAT in RAM is the one on disk
    obtain ⟨rebootRam, rebootImage⟩ := booted_of_signed signed
    have rebooted : ReservedIntact (booted d.disk).volume := by
      rw [Driver.volume, rebootRam, rebootImage]
      exact ⟨onDisk, onDisk⟩
    have agree := transparent [.write pics]
    unfold Agree at agree
    generalize booted d.disk = e at rebooted agree
    have kept := (reservedIntact_write rebooted (write_outcome pics e)).disk.fatCluster
    rcases agree with ⟨out, out', d', e', left, right, -, same⟩ | ⟨fault, left, -⟩
    · simp only [run, step, Except.ok.injEq, Prod.mk.injEq] at left right
      obtain ⟨-, rfl⟩ := left
      obtain ⟨-, rfl⟩ := right
      rw [Driver.volume] at kept lost
      rw [same, kept] at lost
      exact absurd lost (by decide)
    · simp only [run, step] at left
      cases left

theorem rebootSafe_counterexample : ∃ replies d,
    run (step 256) (booted blankDisk) [.write docs, .delete nameless fun _ _ _ => 0] =
        .ok (replies, d) ∧
      ¬ Synced d ∧ ¬ RebootTransparent 256 d :=
  nameless_noticed _

end HexOS.Fat32
