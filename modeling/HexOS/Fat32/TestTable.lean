import HexOS.Fat32.System
import Mathlib.Data.Fintype.Card

/-!
The static `test`.

`delete` reads every folder of the requested name into it, and the table of the
last one stays there (`delete_test`). Behind `cluster_buf` it is in reach of
`read_directory`, which copies it for a slot that records more than 2048 bytes
(`readDirectory_hit`). Anyone who can store a cluster of data can store such a
slot (`lure_shows`).
-/

namespace HexOS.Fat32

open BoundedScan WhileLoop

/-! ### What delete leaves in it -/

/-- Slot `j` has the requested name and holds a folder. -/
def NamedFolder (request : FAT32DriverRequest) (table : FAT32DirectoryTable) (j : Fin 64) : Prop :=
  1 ≤ j.val ∧ (table j).name = request.name ∧ (table j).attribute = attrSubdirectory

instance (request : FAT32DriverRequest) (table : FAT32DirectoryTable) (j : Fin 64) :
    Decidable (NamedFolder request table j) := inferInstanceAs (Decidable (_ ∧ _))

/-- The disk as the search finds it at slot `hi`. The first file of the name
leaves a FAT entry in front of the overwritten parent, a later one only zeros. -/
def foundDisk (request : FAT32DriverRequest) (stack : Fin 64 → UInt8 → Nat → UInt8)
    (table : FAT32DirectoryTable) (v : Volume) : Nat → Disk
  | 0 => v.disk
  | n + 1 =>
      if h : n < 64 then
        if Passes request table (n + 1) ⟨n, h⟩ ∧ 2 ≤ rounds request then
          Function.update v.disk request.parentClusterNumber.toNat
            (tempBytes (if ∃ j, Passes request table n j then 0 else lastEntry request v.fat)
              (stack ⟨n, h⟩ (UInt8.ofNat (rounds request - 1))))
        else foundDisk request stack table v n
      else foundDisk request stack table v n

/-- The table of the folder in slot `j`, when the search comes there. -/
def loadedTable (request : FAT32DriverRequest) (stack : Fin 64 → UInt8 → Nat → UInt8)
    (table : FAT32DirectoryTable) (v : Volume) (j : Fin 64) : FAT32DirectoryTable :=
  tableOf (readClusters (foundDisk request stack table v j.val) (entryCluster (table j)))

def LastFolder (request : FAT32DriverRequest) (table : FAT32DirectoryTable) (hi : Nat) (j : Fin 64) :
    Prop :=
  NamedFolder request table j ∧ j.val < hi ∧
    ∀ j', NamedFolder request table j' → j'.val < hi → j' ≤ j

/-- What stands in `test` once the search has dealt with the slots before `hi`. -/
inductive TestLeft (request : FAT32DriverRequest) (stack : Fin 64 → UInt8 → Nat → UInt8)
    (table : FAT32DirectoryTable) (v : Volume) (test : FAT32DirectoryTable) (hi : Nat) :
    FAT32DirectoryTable → Prop where
  | kept : (∀ j, NamedFolder request table j → hi ≤ j.val) →
      TestLeft request stack table v test hi test
  | loaded {j : Fin 64} : LastFolder request table hi j →
      TestLeft request stack table v test hi (loadedTable request stack table v j)

/-- The number of slots the search looks at, slot 0 included. -/
def searchReach (request : FAT32DriverRequest) (stack : Fin 64 → UInt8 → Nat → UInt8)
    (table : FAT32DirectoryTable) (disk : Disk) : Nat :=
  (deleteStop request stack table disk).elim 64 fun i => i.val + 1

section

variable {request : FAT32DriverRequest} {stack : Fin 64 → UInt8 → Nat → UInt8}
variable {table test : FAT32DirectoryTable} {v : Volume} {i : Fin 64} {d : Driver}

theorem deleteRounds_test (stack : UInt8 → Nat → UInt8) {fuel : Nat} {d e : Driver}
    (done : iterate (deleteRound request stack) fuel (1, d) = some e) : e.test = d.test := by
  refine iterate_invariant (I := fun s => s.2.test = d.test) (Q := fun e => e.test = d.test)
    ?_ ?_ rfl done
  · rintro ⟨k, s⟩ ⟨k', s'⟩ same round
    simp only [deleteRound] at round
    split at round
    · obtain ⟨-, rfl⟩ := Prod.mk.inj (Sum.inl.inj round)
      exact same
    · cases round
  · rintro ⟨k, s⟩ e same leave
    simp only [deleteRound] at leave
    split at leave
    · cases leave
    · obtain rfl := Sum.inr.inj leave
      exact same

theorem foundDisk_succ (i : Fin 64) : foundDisk request stack table v (i.val + 1) =
    if Passes request table (i.val + 1) i ∧ 2 ≤ rounds request then
      Function.update v.disk request.parentClusterNumber.toNat
        (tempBytes (if ∃ j, Passes request table i.val j then 0 else lastEntry request v.fat)
          (stack i (UInt8.ofNat (rounds request - 1))))
    else foundDisk request stack table v i.val :=
  dif_pos i.isLt

/-- Another cluster is never overwritten by the search. -/
theorem foundDisk_overwritten (hi : Nat) (ptr : ClusterBuffer) :
    Function.update (foundDisk request stack table v hi) request.parentClusterNumber.toNat ptr =
      Function.update v.disk request.parentClusterNumber.toNat ptr := by
  induction hi with
  | zero => rfl
  | succ n ih =>
      unfold foundDisk
      split
      · split
        · exact Function.update_idem _ _ _
        · exact ih
      · exact ih

/-- The FAT entry that the rounds for slot `i` find last. -/
theorem Wiped.lastEntry_eq {w : Volume} (many : 2 ≤ rounds request)
    (wiped : Wiped request stack table v i.val w) : lastEntry request w.fat =
      if ∃ j, Passes request table i.val j then 0 else lastEntry request v.fat := by
  cases wiped with
  | untouched few =>
      rw [if_neg]
      rintro ⟨j, passes⟩
      exact absurd (few j passes) (by omega)
  | wiped temp last _ bounded =>
      rw [if_pos ⟨_, last.1⟩]
      refine if_pos ⟨?_, ?_⟩
      · change 1 ≤ (rounds request - 1) % 512
        omega
      · change (rounds request - 1) % 512 < rounds request
        omega

theorem TestLeft.skip (miss : ¬ NamedFolder request table i) {t : FAT32DirectoryTable}
    (left : TestLeft request stack table v test i.val t) :
    TestLeft request stack table v test (i.val + 1) t := by
  have other : ∀ j, NamedFolder request table j → j.val ≠ i.val := fun j folder same =>
    miss (Fin.ext same ▸ folder)
  cases left with
  | kept none =>
      refine .kept fun j folder => ?_
      have := none j folder
      have := other j folder
      omega
  | loaded last =>
      refine .loaded ⟨last.1, Nat.lt_succ_of_lt last.2.1, fun j folder below => last.2.2 j folder ?_⟩
      have := other j folder
      omega

theorem testLeft_folder (folder : NamedFolder request table i) :
    TestLeft request stack table v test (i.val + 1) (loadedTable request stack table v i) :=
  .loaded ⟨folder, Nat.lt_succ_self _, fun _ _ below => Fin.le_def.mpr (Nat.lt_succ_iff.mp below)⟩

theorem searchReach_stop (stop : deleteStop request stack table v.disk = some i) :
    searchReach request stack table v.disk = i.val + 1 := by
  rw [searchReach, stop, Option.elim_some]

/-- The disk behind the rounds for slot `i`. -/
theorem Searching.foundDisk_file (searching : Searching request stack table v i.val d)
    (inside : request.parentClusterNumber.toNat < 2 ^ 26)
    (found : d.disk = foundDisk request stack table v i.val)
    (name : (table i).name = request.name) (kind : (table i).attribute ≠ attrSubdirectory)
    {fuel : Nat} {e : Driver}
    (ran : iterate (deleteRound request (stack i)) fuel (1, d) = some e) :
    e.disk = foundDisk request stack table v (i.val + 1) := by
  have passes : Passes request table (i.val + 1) i :=
    ⟨searching.low, Nat.lt_succ_self _, name, kind⟩
  rw [foundDisk_succ]
  obtain ⟨-, ⟨few, same⟩ | ⟨many, -, same⟩⟩ := deleteRounds_spec request (stack i) inside ran
  · rw [if_neg fun both => absurd both.2 (by omega), ← found]
    exact congrArg Volume.disk same
  · have entry : lastEntry request d.fatTable = _ := searching.wiped.lastEntry_eq many
    rw [if_pos ⟨passes, many⟩, ← entry, ← foundDisk_overwritten i.val, ← found]
    exact congrArg Volume.disk same

/-- A search that goes on from slot `lo` leaves the table of its last folder. -/
theorem deleteLoop_test {fuel : Nat} (inside : request.parentClusterNumber.toNat < 2 ^ 26) {lo : Nat}
    {d' : Driver} {code : Int} (searching : Searching request stack table v lo d)
    (found : d.disk = foundDisk request stack table v lo)
    (left : TestLeft request stack table v test lo d.test)
    (done : deleteLoop fuel request stack ((List.finRange 64).drop lo) d = .ok (code, d')) :
    TestLeft request stack table v test (searchReach request stack table v.disk) d'.test := by
  induction hm : 64 - lo generalizing lo d with
  | zero =>
      obtain rfl : lo = 64 := le_antisymm searching.high (by omega)
      rw [List.drop_eq_nil_of_le (by simp)] at done
      simp only [deleteLoop, Except.ok.injEq, Prod.mk.injEq] at done
      obtain ⟨-, rfl⟩ := done
      rw [searchReach, searching.runsOut, Option.elim_none]
      exact left
  | succ m ih =>
      obtain ⟨i, rfl⟩ : ∃ i : Fin 64, i.val = lo := ⟨⟨lo, by omega⟩, rfl⟩
      rw [List.drop_eq_getElem_cons (by simp), List.getElem_finRange] at done
      simp only [Fin.cast_mk, Fin.eta, deleteLoop, memcmp_eq_zero_iff, searching.loaded] at done
      by_cases name : (table i).name = request.name
      · by_cases kind : (table i).attribute = attrSubdirectory
        · have fresh : TestLeft request stack table v test (i.val + 1)
              (tableOf (readClusters d.disk (entryCluster (table i)))) := by
            rw [found]
            exact testLeft_folder ⟨searching.low, name, kind⟩
          simp only [name, kind, if_true] at done
          split at done
          · rename_i met
            simp only [Except.ok.injEq, Prod.mk.injEq] at done
            obtain ⟨-, rfl⟩ := done
            have occupied := (occupied_iff _).mpr fun none =>
              Option.some_ne_none _ (met.symm.trans none)
            rw [searchReach_stop (searching.stops (.inr ⟨kind, searching.occupied_iff.mp occupied⟩))]
            exact fresh
          · rename_i empty
            refine ih (searching.directory name kind ?_ ?_ ?_) ?_ fresh done (by omega)
            · exact fun occupied => (occupied_iff _).mp occupied empty
            · rfl
            · rfl
            · rw [foundDisk_succ, if_neg fun both => both.1.2.2.2 kind]
              exact found
        · simp only [name, kind, if_true, if_false] at done
          split at done
          · cases done
          · rename_i e ran
            refine ih (searching.file inside name kind ran)
              (searching.foundDisk_file inside found name kind ran) ?_ done (by omega)
            rw [deleteRounds_test _ ran]
            exact left.skip fun folder => kind folder.2.2
      · simp only [name, if_false] at done
        have kept : d'.test = d.test := by
          unfold deleteEntry at done
          simp only at done
          split at done
          · obtain ⟨-, rfl⟩ := Prod.mk.inj (Except.ok.inj done)
            rfl
          · cases done
        rw [kept, searchReach_stop (searching.stops (.inl name))]
        exact left.skip fun folder => name folder.2.1

end

/-- **What a delete leaves in `test`**: the last folder that it has looked into,
or what was there before. -/
theorem delete_test {fuel : Nat} {request : FAT32DriverRequest}
    {stack : Fin 64 → UInt8 → Nat → UInt8} {d d' : Driver} {code : Int}
    (done : delete fuel request stack d = .ok (code, d')) :
    ¬ Accepts d.disk request.parentClusterNumber ∧ d'.test = d.test ∨
      Accepts d.disk request.parentClusterNumber ∧
        TestLeft request stack (parentTable d.disk request.parentClusterNumber) d.volume d.test
          (searchReach request stack (parentTable d.disk request.parentClusterNumber) d.disk)
          d'.test := by
  unfold delete at done
  simp only at done
  split at done
  · rename_i invalid
    obtain ⟨-, rfl⟩ := Prod.mk.inj (Except.ok.inj done)
    exact .inl ⟨(parent_rejected_iff d.disk request.parentClusterNumber).mp invalid, rfl⟩
  · rename_i valid
    have accepts := accepts_of_admitted valid
    have inside := accepts.2.1
    refine .inr ⟨accepts, deleteLoop_test (by omega) (searching_start accepts) ?_ (.kept ?_) done⟩
    · have first : foundDisk request stack (parentTable d.disk request.parentClusterNumber)
          d.volume 1 =
          d.disk := by
        refine (foundDisk_succ (i := (0 : Fin 64))).trans (if_neg ?_)
        rintro ⟨⟨low, -⟩, -⟩
        exact absurd low (by decide)
      exact first.symm
    · exact fun j folder => folder.1

/-- The last folder that the search looks into, if any, is a cluster of zeros. -/
def ClearsTest (request : FAT32DriverRequest) (stack : Fin 64 → UInt8 → Nat → UInt8) (d : Driver) :
    Prop :=
  let table := parentTable d.disk request.parentClusterNumber
  Accepts d.disk request.parentClusterNumber →
    ∀ j, LastFolder request table (searchReach request stack table d.disk) j →
      loadedTable request stack table d.volume j = blankTable

theorem test_blank_iff {fuel : Nat} {request : FAT32DriverRequest}
    {stack : Fin 64 → UInt8 → Nat → UInt8} {d d' : Driver} {code : Int}
    (blank : d.test = blankTable) (done : delete fuel request stack d = .ok (code, d')) :
    d'.test = blankTable ↔ ClearsTest request stack d := by
  rcases delete_test done with ⟨rejected, kept⟩ | ⟨accepts, left⟩
  · rw [kept]
    exact iff_of_true blank fun accepts => absurd accepts rejected
  · generalize d'.test = test at left
    cases left with
    | kept none =>
        refine iff_of_true blank fun _ j last => ?_
        exact absurd (none j last.1) (Nat.not_le.mpr last.2.1)
    | @loaded j last =>
        constructor
        · intro zero _ i last'
          obtain rfl : i = j := le_antisymm (last.2.2 i last'.1 last'.2.1)
            (last'.2.2 j last.1 last.2.1)
          exact zero
        · exact fun clears => clears accepts j last

/-! ### How `read_directory` ends -/

theorem fromClusterBuf_fin (d : Driver) (beyond : Nat → UInt8) (j : Fin 2048) :
    fromClusterBuf d beyond j.val = d.clusterBuf j := dif_pos j.isLt

/-- The comparison of `read_directory`. -/
def bearsName (request : FAT32DriverRequest) (entry : FAT32DirectoryEntry) : Bool :=
  memcmp entry.name request.name == 0

/-- The slot the loop of `read_directory` breaks at. -/
def directoryHit (request : FAT32DriverRequest) (table : FAT32DirectoryTable) : Option (Fin 64) :=
  firstFrom 0 fun i => bearsName request (table i)

section

variable {request : FAT32DriverRequest} {d : Driver} {beyond : Nat → UInt8}

theorem readDirectory_rejected (rejected : ¬ Accepts d.disk request.parentClusterNumber) :
    (readDirectory request beyond d).1 = .status (-1) := by
  simp only [readDirectory,
    if_pos ((parent_rejected_iff d.disk request.parentClusterNumber).mpr rejected)]

theorem readDirectory_missed (accepts : Accepts d.disk request.parentClusterNumber)
    (missed : directoryHit request (parentTable d.disk request.parentClusterNumber) = none) :
    (readDirectory request beyond d).1 = .status 3 := by
  have admitted := accepts.admitted
  rw [accepts.readClusters] at admitted
  simp only [directoryHit, bearsName] at missed
  simp only [readDirectory, accepts.readClusters, if_neg admitted, missed]

theorem readDirectory_hit (accepts : Accepts d.disk request.parentClusterNumber) {i : Fin 64}
    (hit : directoryHit request (parentTable d.disk request.parentClusterNumber) = some i) :
    (readDirectory request beyond d).1 =
      if request.bufferSize < (parentTable d.disk request.parentClusterNumber i).filesize then
        .status 2
      else ⟨0, (parentTable d.disk request.parentClusterNumber i).filesize.toNat,
        fromClusterBuf { d with
          clusterBuf := readClusters d.disk
            (parentTable d.disk request.parentClusterNumber i).clusterLow.toUInt32 } beyond⟩ := by
  have admitted := accepts.admitted
  rw [accepts.readClusters] at admitted
  simp only [directoryHit, bearsName] at hit
  simp only [readDirectory, accepts.readClusters, if_neg admitted, hit]
  split <;> rfl

end

/-! ### Who can see it -/

/-- There is a free slot in the directory at `parent`, and a free cluster. -/
structure RoomAt (parent : UInt32) (v : Volume) : Prop where
  accepts : Accepts v.disk parent
  slot : ∃ k : Fin 64, 1 ≤ k.val ∧ ¬ Live (parentTable v.disk parent k)
  cluster : ∃ c : Fin 512, 2 ≤ c.val ∧ v.fat c = fatEmptyEntry

def lureName : Bytes 8 := fun _ => 1

/-- A directory's header, and a slot that records 4096 bytes. -/
def lureTable : FAT32DirectoryTable := fun i =>
  if i = 0 then { FAT32DirectoryEntry.empty with userAttribute := uattrNotEmpty }
  else if i = 1 then { FAT32DirectoryEntry.empty with name := lureName, filesize := 4096 }
  else .empty

/-- A file with these contents. -/
def lure (parent : UInt32) (name : Bytes 8) : FAT32DriverRequest :=
  ⟨peek (tableBytes lureTable), name, fun _ => 0, parent, 2048⟩

/-- Its cluster taken for a directory. -/
def lureRead (c : Fin 512) : FAT32DriverRequest :=
  ⟨fun _ => 0, lureName, fun _ => 0, num c, 4096⟩

/-- A table has 64 names, and there are more. -/
theorem exists_unused_name (table : FAT32DirectoryTable) : ∃ name, ∀ i, (table i).name ≠ name := by
  by_contra all
  have used : ∀ n : Fin 65, ∃ i, (table i).name = fun _ => UInt8.ofNat n.val := by
    intro n
    by_contra none
    exact all ⟨_, fun i same => none ⟨i, same⟩⟩
  choose slot names using used
  have injective : Function.Injective slot := by
    intro m n same
    have byte := congrFun ((names m).symm.trans (same ▸ names n)) 0
    have value := congrArg UInt8.toNat byte
    simp only [UInt8.toNat_ofNat'] at value
    exact Fin.ext (by omega)
  have more := Fintype.card_le_of_injective slot injective
  simp only [Fintype.card_fin] at more
  omega

/-- Where there is room the file is stored, in one cluster. -/
theorem lure_stored {parent : UInt32} {v : Volume} (room : RoomAt parent v) :
    ∃ name, ∃ c : Fin 512, 2 ≤ c.val ∧
      (Volume.write (lure parent name) v).2.disk c.val = tableBytes lureTable := by
  obtain ⟨name, unused⟩ := exists_unused_name (parentTable v.disk parent)
  obtain ⟨k, behind, free⟩ := room.slot
  obtain ⟨k, slot⟩ := exists_firstSlot behind free
  obtain ⟨c, above, empty⟩ := room.cluster
  obtain ⟨c, first⟩ := exists_firstFree above empty
  have absent : isExist (lure parent name) (parentTable v.disk parent) = 0 := by
    refine isExist_eq_zero_iff.mpr (.inr fun i => ?_)
    have differ : (parentTable v.disk parent i).name ≠ (lure parent name).name := unused i
    unfold existMatch
    split <;> simp [differ]
  refine ⟨name, c, first.spec.1, ?_⟩
  have file : ¬ (lure parent name).bufferSize = 0 := show ¬ (2048 : UInt32) = 0 by decide
  have one : chunksNeeded (lure parent name).bufferSize = 1 := show chunksNeeded 2048 = 1 by decide
  rw [Volume.write_of_admitted room.accepts absent first slot, if_neg file]
  have chain : ∀ fat, fileChain fat c (lure parent name).bufferSize = [c] := fun fat => by
    rw [fileChain, one, List.take_succ_cons, List.take_zero]
  obtain ⟨-, -, -, chunks⟩ := makeFile_spec (lure parent name) first.spec.1 0
    (lure parent name).bufferSize (storeEntry (lure parent name) v.disk c k)
  have here := chunks 0 (by rw [chain]; exact Nat.one_pos)
  simp only [chain, List.getElem_cons_zero] at here
  rw [here]
  funext b
  rw [chunk, Nat.add_zero, Nat.zero_mul, Nat.zero_add]
  exact peek_of_lt _ b.isLt

theorem lureTable_hit (c : Fin 512) : directoryHit (lureRead c) lureTable = some 1 :=
  (firstFrom_skip (i := (0 : Fin 64)) rfl).trans (firstFrom_here (i := (1 : Fin 64)) rfl)

/-- Reading it as a directory delivers what stands in `test`. -/
theorem lure_shows {d : Driver} {c : Fin 512} (above : 2 ≤ c.val)
    (stored : d.disk c.val = tableBytes lureTable) (beyond : Nat → UInt8) :
    (readDirectory (lureRead c) beyond d).1.length = 4096 ∧
      ∀ j : Fin 2048, (readDirectory (lureRead c) beyond d).1.byte (2048 + j.val) =
        tableBytes d.test j := by
  have parent : (lureRead c).parentClusterNumber.toNat = c.val := toNat_num c
  have table : parentTable d.disk (lureRead c).parentClusterNumber = lureTable := by
    rw [parentTable, parent, stored, tableOf_tableBytes]
  have accepts : Accepts d.disk (lureRead c).parentClusterNumber := by
    have small := c.isLt
    refine ⟨by omega, by omega, ?_⟩
    exact (congrArg LooksLikeDirectory table).mpr (by decide)
  have hit : directoryHit (lureRead c) (parentTable d.disk (lureRead c).parentClusterNumber) =
      some 1 := by rw [table, lureTable_hit]
  have fits : ¬ (lureRead c).bufferSize < (lureTable 1).filesize :=
    show ¬ (4096 : UInt32) < 4096 by decide
  rw [readDirectory_hit accepts hit, table, if_neg fits]
  refine ⟨rfl, fun j => ?_⟩
  have small := j.isLt
  simp only [fromClusterBuf]
  rw [dif_neg (by omega), if_pos (by omega), Nat.add_sub_cancel_left, peek_of_lt _ small]

end HexOS.Fat32
