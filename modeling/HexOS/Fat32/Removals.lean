import HexOS.Fat32.Deletion
import HexOS.Fat32.Parents

/-!
What a delete removes, and what it leaves when it refuses.

The slots of the requested name are the ones the search passes over, so the slot
that gets removed is never the one that was asked for: no delete that returns 0
removes its target (`delete_misses_target`). The refusals lie with the same
search. A name that is absent is refused only in a table with no other name in
it, a directory that is not empty only when no other name stands before it.
-/

namespace HexOS.Fat32

open BoundedScan ByteWords LinkTable

/-! ### What the requests mean -/

/-- The request names the entry: by name, and a file by its ext as well. -/
def Names (request : FAT32DriverRequest) (entry : FAT32DirectoryEntry) : Prop :=
  Live entry ∧ entry.name = request.name ∧
    (entry.attribute ≠ attrSubdirectory → entry.ext = request.ext)

instance (request : FAT32DriverRequest) (entry : FAT32DirectoryEntry) :
    Decidable (Names request entry) := inferInstanceAs (Decidable (_ ∧ _ ∧ _))

/-- The cluster of the entry has a live slot behind its own. -/
def HasLiveEntry (disk : Disk) (entry : FAT32DirectoryEntry) : Prop :=
  ∃ j : Fin 64, 1 ≤ j.val ∧ Live (tableOf (readClusters disk (entryCluster entry)) j)

/-- Slot `i` may be removed: a file, or a directory without live entries. -/
structure Target (request : FAT32DriverRequest) (disk : Disk) (i : Fin 64) : Prop where
  parent : LiveDirectory disk request.parentClusterNumber
  above : 1 ≤ i.val
  named : Names request (parentTable disk request.parentClusterNumber i)
  empty : (parentTable disk request.parentClusterNumber i).attribute = attrSubdirectory →
    ¬ HasLiveEntry disk (parentTable disk request.parentClusterNumber i)

/-- Slot `i` and its chain are gone, and nothing else. -/
structure Removed (request : FAT32DriverRequest) (i : Fin 64) (v v' : Volume) : Prop where
  slot : parentTable v'.disk request.parentClusterNumber i = .empty
  others : ∀ j ≠ i, parentTable v'.disk request.parentClusterNumber j =
    parentTable v.disk request.parentClusterNumber j
  chain : ∀ first path, entryCluster (parentTable v.disk request.parentClusterNumber i) = num first →
    Chain (fatLink v.fat) first path →
    (∀ c ∈ path, v'.fat c = fatEmptyEntry ∧ fatOf (v'.disk 1) c = fatEmptyEntry) ∧
      ∀ c ∉ path, v'.fat c = v.fat c ∧ fatOf (v'.disk 1) c = fatOf (v.disk 1) c
  clusters : ∀ x, x ≠ 1 → x ≠ request.parentClusterNumber.toNat → v'.disk x = v.disk x

def DeletesTarget (request : FAT32DriverRequest) (stack : Fin 64 → UInt8 → Nat → UInt8) (d : Driver)
    (i : Fin 64) : Prop :=
  ∃ fuel d', delete fuel request stack d = .ok (0, d') ∧ Removed request i d.volume d'.volume

/-! ### No target is removed -/

section

variable {fuel : Nat} {request : FAT32DriverRequest} {stack : Fin 64 → UInt8 → Nat → UInt8}
variable {d d' : Driver} {code : Int}

/-- Every slot of the requested name survives a delete that returns 0. -/
theorem named_survives (done : delete fuel request stack d = .ok (0, d')) {i : Fin 64}
    (name : (parentTable d.disk request.parentClusterNumber i).name = request.name) :
    parentTable d'.disk request.parentClusterNumber i =
      parentTable d.disk request.parentClusterNumber i := by
  have outcome := delete_outcome done
  have image : d'.disk = d'.volume.disk := rfl
  rw [image]
  generalize d'.volume = v' at outcome ⊢
  generalize zero : (0 : Int) = code at outcome
  cases outcome with
  | invalidParent => exact absurd zero (by decide)
  | searched _ _ ended =>
      cases ended with
      | notFound => exact absurd zero (by decide)
      | notEmpty => exact absurd zero (by decide)
      | @removed j c _ other =>
          have apart : i ≠ j := fun same => other (same ▸ name)
          simp only [Volume.removeEntry, parentTable]
          rw [Function.update_self, tableOf_tableBytes, Function.update_of_ne apart]
          rfl

theorem Removed.dead {i : Fin 64} {v v' : Volume} (removed : Removed request i v v') :
    ¬ Live (parentTable v'.disk request.parentClusterNumber i) := by
  rw [removed.slot]
  decide

/-- **No delete removes its target.** -/
theorem delete_misses_target {request : FAT32DriverRequest}
    (stack : Fin 64 → UInt8 → Nat → UInt8) {d : Driver} {i : Fin 64}
    (target : Target request d.disk i) : ¬ DeletesTarget request stack d i := by
  rintro ⟨fuel, d', done, removed⟩
  have survives := named_survives done target.named.2.1
  exact removed.dead (survives ▸ target.named.1)

/-- A quiet search decides on the untouched disk. -/
theorem delete_quiet (accepts : Accepts d.disk request.parentClusterNumber)
    (quiet : Quiet request (parentTable d.disk request.parentClusterNumber) d.disk)
    (done : delete fuel request stack d = .ok (code, d')) :
    DeleteEnd request (parentTable d.disk request.parentClusterNumber)
      (plainStop request (parentTable d.disk request.parentClusterNumber) d.disk) d.volume code
      d'.volume := by
  have outcome := delete_outcome done
  generalize d'.volume = v' at outcome ⊢
  cases outcome with
  | invalidParent rejected => exact absurd accepts rejected
  | searched _ wiped ended =>
      rw [show deleteStop request stack (parentTable d.volume.disk request.parentClusterNumber)
        d.volume.disk = _ from quiet.deleteStop] at ended
      cases wiped with
      | untouched => exact ended
      | wiped _ last many => exact absurd (quiet.few _ last.1) (not_lt.mpr many)

/-- It returns when the slot it ends at, if any, is decoded inside the FAT. -/
theorem quiet_returns (stack : Fin 64 → UInt8 → Nat → UInt8)
    (accepts : Accepts d.disk request.parentClusterNumber)
    (quiet : Quiet request (parentTable d.disk request.parentClusterNumber) d.disk)
    (decodes : ∀ i,
      plainStop request (parentTable d.disk request.parentClusterNumber) d.disk = some i →
      (parentTable d.disk request.parentClusterNumber i).name ≠ request.name →
      (entryCluster (parentTable d.disk request.parentClusterNumber i)).toNat < 512) :
    ∃ code d', delete 256 request stack d = .ok (code, d') ∧
      DeleteEnd request (parentTable d.disk request.parentClusterNumber)
        (plainStop request (parentTable d.disk request.parentClusterNumber) d.disk) d.volume code
        d'.volume := by
  have ends : RoundsEnd request d.disk := fun _ reaches => lt_trans (quiet reaches) (by decide)
  rcases ends.delete_ends stack le_rfl with ⟨⟨code, d'⟩, done⟩ | ⟨-, i, hit, other, wild, -⟩
  · exact ⟨code, d', done, delete_quiet accepts quiet done⟩
  · rw [quiet.deleteStop] at hit
    exact absurd (decodes i hit other) (not_lt.mpr wild)

/-- What gets removed is the first slot of another name. -/
theorem quiet_removes (stack : Fin 64 → UInt8 → Nat → UInt8)
    (accepts : Accepts d.disk request.parentClusterNumber)
    (quiet : Quiet request (parentTable d.disk request.parentClusterNumber) d.disk) {i : Fin 64}
    {c : Fin 512}
    (stop : plainStop request (parentTable d.disk request.parentClusterNumber) d.disk = some i)
    (other : (parentTable d.disk request.parentClusterNumber i).name ≠ request.name)
    (decoded : entryCluster (parentTable d.disk request.parentClusterNumber i) = num c) :
    ∃ d', delete 256 request stack d = .ok (0, d') ∧ d'.volume =
      d.volume.removeEntry request (parentTable d.disk request.parentClusterNumber) i c := by
  obtain ⟨code, d', done, ended⟩ := quiet_returns stack accepts quiet fun j hit _ => by
    obtain rfl := Option.some.inj (stop.symm.trans hit)
    rw [decoded, toNat_num]
    exact c.isLt
  refine ⟨d', ?_⟩
  rw [stop] at ended
  generalize d'.volume = v' at ended
  cases ended with
  | notFound none => exact absurd none (Option.some_ne_none i)
  | notEmpty hit name =>
      obtain rfl := Option.some.inj hit
      exact absurd name other
  | removed hit _ decoded' =>
      obtain rfl := Option.some.inj hit
      obtain rfl := num_inj.mp (decoded.symm.trans decoded')
      exact ⟨done, rfl⟩

end

/-! ### Refusals -/

/-- The delete returns `code` whatever the stack holds, and nothing changes. -/
def Refused (request : FAT32DriverRequest) (d : Driver) (code : Int) : Prop :=
  ∀ stack, ∃ fuel d', delete fuel request stack d = .ok (code, d') ∧ d'.volume = d.volume

def Absent (request : FAT32DriverRequest) (table : FAT32DirectoryTable) : Prop :=
  ∀ i : Fin 64, 1 ≤ i.val → ¬ Names request (table i)

/-- Slot `i` is the first one the request names. -/
def FirstNamed (request : FAT32DriverRequest) (table : FAT32DirectoryTable) (i : Fin 64) : Prop :=
  1 ≤ i.val ∧ Names request (table i) ∧ ∀ j < i, 1 ≤ j.val → ¬ Names request (table j)

/-- The first named slot holds a directory with a live entry. -/
def NamesFilled (request : FAT32DriverRequest) (disk : Disk) : Prop :=
  let table := parentTable disk request.parentClusterNumber
  ∃ i, FirstNamed request table i ∧ (table i).attribute = attrSubdirectory ∧
    HasLiveEntry disk (table i)

/-- What the driver promises of the deletes it refuses. -/
structure RefusesRightly (request : FAT32DriverRequest) (d : Driver) : Prop where
  invalid : ¬ LiveDirectory d.disk request.parentClusterNumber → Refused request d (-1)
  absent : LiveDirectory d.disk request.parentClusterNumber →
    Absent request (parentTable d.disk request.parentClusterNumber) → Refused request d 1
  filled : LiveDirectory d.disk request.parentClusterNumber → NamesFilled request d.disk →
    Refused request d 2

/-- The search runs through a table in which no slot stops it. -/
def RunsThrough (request : FAT32DriverRequest) (disk : Disk) : Prop :=
  let table := parentTable disk request.parentClusterNumber
  Accepts disk request.parentClusterNumber ∧ Quiet request table disk ∧
    ∀ i : Fin 64, 1 ≤ i.val → ¬ Stops request table disk i

/-- The first slot that stops the search has the requested name: it holds a
directory that leads to an occupied cluster. -/
def StopsAtName (request : FAT32DriverRequest) (disk : Disk) : Prop :=
  let table := parentTable disk request.parentClusterNumber
  Accepts disk request.parentClusterNumber ∧ Quiet request table disk ∧
    ∃ i, plainStop request table disk = some i ∧ (table i).name = request.name

/-- The search goes the way each refusal asks for. -/
structure SearchesRightly (request : FAT32DriverRequest) (disk : Disk) : Prop where
  invalid : ¬ LiveDirectory disk request.parentClusterNumber →
    ¬ Accepts disk request.parentClusterNumber
  absent : LiveDirectory disk request.parentClusterNumber →
    Absent request (parentTable disk request.parentClusterNumber) → RunsThrough request disk
  filled : LiveDirectory disk request.parentClusterNumber → NamesFilled request disk →
    StopsAtName request disk

section

variable {request : FAT32DriverRequest} {d : Driver}

theorem refused_invalid_iff :
    Refused request d (-1) ↔ ¬ Accepts d.disk request.parentClusterNumber := by
  constructor
  · intro refused accepts
    obtain ⟨fuel, d', done, -⟩ := refused fun _ _ _ => 0
    have outcome := delete_outcome done
    generalize d'.volume = v' at outcome
    generalize minus : (-1 : Int) = code at outcome
    cases outcome with
    | invalidParent rejected => exact rejected accepts
    | searched _ _ ended =>
        cases ended with
        | notFound => exact absurd minus (by decide)
        | notEmpty => exact absurd minus (by decide)
        | removed => exact absurd minus (by decide)
  · intro rejected stack
    obtain ⟨d', done, same⟩ := (turnedAway_of_rejected rejected).delete 0 stack
    exact ⟨0, d', done, same⟩

/-- Rounds put the stack into the parent cluster, which shows for some stack. -/
theorem wipedVolume_ne {stack : UInt8 → Nat → UInt8} {temp : UInt32} {v : Volume}
    (differs : ∀ k, stack k 4 ≠ peek (v.disk request.parentClusterNumber.toNat) 4) :
    wipedVolume request stack temp v ≠ v := by
  intro same
  have image := congrFun (congrArg Volume.disk same) request.parentClusterNumber.toNat
  simp only [wipedVolume, Function.update_self] at image
  have byte := congrArg (peek · 4) image
  simp only [peek_of_lt (tempBytes _ _) (show 4 < 2048 by decide), tempBytes] at byte
  exact differs _ byte

theorem quiet_of_refused {code : Int} (refused : Refused request d code) (positive : 0 < code) :
    Accepts d.disk request.parentClusterNumber ∧
      Quiet request (parentTable d.disk request.parentClusterNumber) d.disk := by
  obtain ⟨fuel, d', done, same⟩ := refused fun _ _ b =>
    peek (d.disk request.parentClusterNumber.toNat) b + 1
  have outcome := delete_outcome done
  generalize d'.volume = v' at outcome same
  cases outcome with
  | invalidParent => exact absurd positive (by decide)
  | searched accepts wiped ended =>
      refine ⟨accepts, fun reaches => ?_⟩
      obtain ⟨j, passes⟩ := reachesFile_iff.mp reaches
      cases wiped with
      | untouched few => exact few j passes
      | wiped temp =>
          have changed : wipedVolume request
              (fun _ b => peek (d.disk request.parentClusterNumber.toNat) b + 1) temp d.volume ≠
                d.volume :=
            wipedVolume_ne fun _ => succ_ne _
          cases ended with
          | notFound => exact absurd same changed
          | notEmpty => exact absurd same changed
          | removed => exact absurd positive (by decide)

theorem refused_absent_iff : Refused request d 1 ↔ RunsThrough request d.disk := by
  constructor
  · intro refused
    obtain ⟨accepts, quiet⟩ := quiet_of_refused refused (by decide)
    obtain ⟨fuel, d', done, -⟩ := refused fun _ _ _ => 0
    have ended := delete_quiet accepts quiet done
    generalize d'.volume = v' at ended
    generalize one : (1 : Int) = code at ended
    cases ended with
    | notFound none =>
        exact ⟨accepts, quiet, fun i above =>
          of_decide_eq_false (firstFrom_eq_none_iff.mp none i above)⟩
    | notEmpty => exact absurd one (by decide)
    | removed => exact absurd one (by decide)
  · rintro ⟨accepts, quiet, through⟩ stack
    have none := firstFrom_eq_none_iff.mpr fun i above => decide_eq_false (through i above)
    obtain ⟨code, d', done, ended⟩ := quiet_returns stack accepts quiet fun i hit _ =>
      absurd (hit.symm.trans none) (Option.some_ne_none i)
    refine ⟨256, d', ?_⟩
    generalize d'.volume = v' at ended
    cases ended with
    | notFound => exact ⟨done, rfl⟩
    | notEmpty hit => exact absurd (hit.symm.trans none) (Option.some_ne_none _)
    | removed hit => exact absurd (hit.symm.trans none) (Option.some_ne_none _)

theorem refused_filled_iff : Refused request d 2 ↔ StopsAtName request d.disk := by
  constructor
  · intro refused
    obtain ⟨accepts, quiet⟩ := quiet_of_refused refused (by decide)
    obtain ⟨fuel, d', done, -⟩ := refused fun _ _ _ => 0
    have ended := delete_quiet accepts quiet done
    generalize d'.volume = v' at ended
    generalize two : (2 : Int) = code at ended
    cases ended with
    | notFound => exact absurd two (by decide)
    | @notEmpty i hit name => exact ⟨accepts, quiet, i, hit, name⟩
    | removed => exact absurd two (by decide)
  · rintro ⟨accepts, quiet, i, stop, name⟩ stack
    have same : ∀ j,
        plainStop request (parentTable d.disk request.parentClusterNumber) d.disk = some j →
        (parentTable d.disk request.parentClusterNumber j).name = request.name := by
      intro j hit
      obtain rfl := Option.some.inj (stop.symm.trans hit)
      exact name
    obtain ⟨code, d', done, ended⟩ := quiet_returns stack accepts quiet fun j hit other =>
      absurd (same j hit) other
    refine ⟨256, d', ?_⟩
    generalize d'.volume = v' at ended
    cases ended with
    | notFound none => exact absurd (stop.symm.trans none) (Option.some_ne_none _)
    | notEmpty => exact ⟨done, rfl⟩
    | removed hit other => exact absurd (same _ hit) other

/-- **Deletes are refused as promised exactly when the search goes that way.** -/
theorem refusesRightly_iff (request : FAT32DriverRequest) (d : Driver) :
    RefusesRightly request d ↔ SearchesRightly request d.disk := by
  constructor
  · rintro ⟨invalid, absent, filled⟩
    exact ⟨fun dead => refused_invalid_iff.mp (invalid dead),
      fun live none => refused_absent_iff.mp (absent live none),
      fun live entries => refused_filled_iff.mp (filled live entries)⟩
  · rintro ⟨invalid, absent, filled⟩
    exact ⟨fun dead => refused_invalid_iff.mpr (invalid dead),
      fun live none => refused_absent_iff.mpr (absent live none),
      fun live entries => refused_filled_iff.mpr (filled live entries)⟩

end

/-! ### The file `note` -/

theorem note_target {disk : Disk} (table : tableOf (disk 2) = writeEntry note rootTable (num 3) 1) :
    Target note disk 1 := by
  have two : note.parentClusterNumber.toNat = 2 := rfl
  refine ⟨.root, le_rfl, ?_, ?_⟩
  · rw [parentTable, two, table]
    decide
  · rw [parentTable, two, table]
    exact fun directory => absurd directory (by decide)

theorem delete_misses_target_note :
    ¬ DeletesTarget note (fun _ _ _ => 0) (write note (booted blankDisk)).2 1 :=
  delete_misses_target _
    (note_target (@booted_write_table blankDisk blankDisk_unformatted note rfl (by decide)))

theorem note_plainStop {disk : Disk} (table : tableOf (disk 2) = writeEntry note rootTable (num 3) 1) :
    plainStop note (parentTable disk note.parentClusterNumber) disk = some 2 := by
  have two : note.parentClusterNumber.toNat = 2 := rfl
  refine firstFrom_eq_some_iff.mpr ⟨by decide, decide_eq_true (.inl ?_), fun i less above => ?_⟩
  · rw [parentTable, two, table]
    decide
  · obtain rfl : i = 1 := Fin.ext (by have : i.val < 2 := less; change i.val = 1; omega)
    refine decide_eq_false (not_or.mpr ⟨not_not.mpr ?_, fun stops => absurd stops.1 ?_⟩)
    · rw [parentTable, two, table]
      decide
    · rw [parentTable, two, table]
      decide

/-- Deleting `note` returns 0; its slot stays live, and entry 0 of the FAT is
freed in place of its cluster. -/
theorem delete_misses_target_counterexample :
    Target note (write note (booted blankDisk)).2.disk 1 ∧
      ∀ stack, ¬ DeletesTarget note stack (write note (booted blankDisk)).2 1 ∧
        ∃ d', delete 256 note stack (write note (booted blankDisk)).2 = .ok (0, d') ∧
          Live (tableOf (d'.disk 2) 1) ∧ d'.fatTable 0 = fatEmptyEntry := by
  have table := @booted_write_table blankDisk blankDisk_unformatted note rfl (by decide)
  generalize (write note (booted blankDisk)).2 = d at table ⊢
  have target := note_target table
  refine ⟨target, fun stack => ?_⟩
  have two : note.parentClusterNumber.toNat = 2 := rfl
  have live := target.named.1
  have quiet : Quiet note (parentTable d.disk note.parentClusterNumber) d.disk := fun _ => by decide
  have second : parentTable d.disk note.parentClusterNumber 2 = .empty := by
    rw [parentTable, two, table]
    rfl
  obtain ⟨d', done, volume⟩ := @quiet_removes note d stack (note_accepts table) quiet 2 0
    (note_plainStop table)
    (by rw [second]; decide) (by rw [second]; decide)
  refine ⟨?_, d', done, ?_, ?_⟩
  · rintro ⟨fuel, e, deleted, removed⟩
    have survives := named_survives deleted target.named.2.1
    exact removed.dead (survives ▸ live)
  · have survives := named_survives done target.named.2.1
    rw [← survives] at live
    exact live
  · have ram : d'.fatTable = d'.volume.fat := rfl
    rw [ram, volume]
    simp only [Volume.removeEntry]
    exact Function.update_self 0 _ _

/-- Deleting `note` from a fresh root, where there is no such file, returns 0
and frees entry 0 of the FAT. -/
theorem refusesRightly_counterexample :
    ¬ RefusesRightly note (booted blankDisk) ∧
      ∀ stack, ∃ d', delete 256 note stack (booted blankDisk) = .ok (0, d') ∧
        (booted blankDisk).fatTable 0 = cluster0Value ∧ d'.fatTable 0 = fatEmptyEntry := by
  have two : note.parentClusterNumber.toNat = 2 := rfl
  obtain ⟨ram, image⟩ := booted_volume blankDisk_unformatted
  generalize booted blankDisk = d at ram image ⊢
  have table : parentTable d.disk note.parentClusterNumber = rootTable := by
    rw [parentTable, two, image, freshDisk_root]
  have first : parentTable d.disk note.parentClusterNumber 1 = .empty := by
    rw [table, rootTable_of_ne (by decide)]
  have accepts : Accepts d.disk note.parentClusterNumber := by
    rw [image]
    exact freshDisk_accepts_root blankDisk
  have quiet : Quiet note (parentTable d.disk note.parentClusterNumber) d.disk := fun _ => by decide
  have other : (parentTable d.disk note.parentClusterNumber 1).name ≠ note.name := by
    rw [first]
    decide
  have stop : plainStop note (parentTable d.disk note.parentClusterNumber) d.disk = some 1 :=
    firstFrom_here (i := (1 : Fin 64)) (decide_eq_true (.inl other))
  constructor
  · intro right
    have absent : Absent note (parentTable d.disk note.parentClusterNumber) := by
      intro i above named
      rw [table, rootTable_of_ne (ne_zero_of_one_le above)] at named
      exact absurd named (by decide)
    have through := refused_absent_iff.mp (right.absent .root absent)
    exact through.2.2 1 le_rfl (.inl other)
  · intro stack
    obtain ⟨d', done, volume⟩ := @quiet_removes note d stack accepts quiet 1 0 stop other
      (by rw [first]; decide)
    have free : d'.fatTable = d'.volume.fat := rfl
    refine ⟨d', done, by rw [ram]; rfl, ?_⟩
    rw [free, volume]
    simp only [Volume.removeEntry]
    exact Function.update_self 0 _ _

end HexOS.Fat32
