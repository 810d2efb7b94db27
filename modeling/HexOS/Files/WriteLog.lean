import HexOS.Fat32.Directories
import HexOS.Library.Extents

/-!
The file system as a log of writes.

A `Store` is the list of the writes that have returned 0. Everything else is computed
from it: the clusters of each file and folder are those behind the ones before it, a
folder holds the writes that name it as their parent, and `Store.volume` is the FAT
and the disk, byte for byte. `Store.step` is what a call returns and adds to the log;
it is not defined for the calls that leave this picture.
-/

namespace HexOS.Files

open Extents HexOS.Fat32

/-! ### The log -/

/-- The clusters that a request takes. -/
def clustersOf (request : FAT32DriverRequest) : Nat :=
  if request.bufferSize = 0 then 1 else chunksNeeded request.bufferSize

/-- A write with its first cluster. -/
abbrev Record := Nat × FAT32DriverRequest

section

variable (log : List FAT32DriverRequest) (x : Nat)

def records : List Record := placed clustersOf 3 log

/-- The first cluster that is free. -/
def frontier : Nat := 3 + total clustersOf log

def recordAt : Option Record := owner clustersOf 3 log x

/-- What the folder in cluster `x` holds. -/
def entriesOf : List Record :=
  (records log).filter fun p => p.2.parentClusterNumber.toNat = x

end

theorem clustersOf_pos (request : FAT32DriverRequest) : 1 ≤ clustersOf request := by
  rw [clustersOf]
  split
  · exact le_rfl
  · rename_i file
    exact chunksNeeded_pos file

section

variable {log : List FAT32DriverRequest} {request : FAT32DriverRequest}

theorem records_snoc : records (log ++ [request]) = records log ++ [(frontier log, request)] := by
  rw [records, placed_snoc, ← records, ← frontier]

theorem frontier_snoc : frontier (log ++ [request]) = frontier log + clustersOf request := by
  rw [frontier, total_snoc, ← Nat.add_assoc, ← frontier]

theorem recordAt_snoc (x : Nat) : recordAt (log ++ [request]) x =
    if frontier log ≤ x ∧ x < frontier log + clustersOf request then some (frontier log, request)
    else recordAt log x := by
  rw [recordAt, owner_snoc]
  rfl

theorem entriesOf_snoc (x : Nat) : entriesOf (log ++ [request]) x =
    entriesOf log x ++
      if request.parentClusterNumber.toNat = x then [(frontier log, request)] else [] := by
  rw [entriesOf, records_snoc, List.filter_append, ← entriesOf, List.filter_cons, List.filter_nil]
  simp only [decide_eq_true_eq]

end

structure Folder where
  name : Bytes 8
  parent : UInt32

/-- The folder in cluster `x`. -/
def folderAt (log : List FAT32DriverRequest) (x : Nat) : Option Folder :=
  if x = 2 then some ⟨rootName, rootClusterNumber⟩
  else match recordAt log x with
    | some (_, request) =>
        if request.bufferSize = 0 then some ⟨request.name, request.parentClusterNumber⟩ else none
    | none => none

section

variable {log : List FAT32DriverRequest} {request : FAT32DriverRequest} {x : Nat}

theorem recordAt_bounds {p : Record} (found : recordAt log x = some p) :
    p ∈ records log ∧ 3 ≤ p.1 ∧ p.1 ≤ x ∧ x < p.1 + clustersOf p.2 ∧
      p.1 + clustersOf p.2 ≤ frontier log := by
  obtain ⟨member, low, high⟩ := owner_spec found
  obtain ⟨above, below, -⟩ := placed_bounds member
  exact ⟨member, above, low, high, below⟩

theorem folderAt_lt {f : Folder} (found : folderAt log x = some f) : x < frontier log := by
  rw [folderAt] at found
  split at found
  · rename_i root
    rw [root]
    exact Nat.lt_add_right _ (Nat.lt_succ_self 2)
  · split at found
    · rename_i first request here
      obtain ⟨-, -, -, inside, below⟩ := recordAt_bounds here
      exact Nat.lt_of_lt_of_le inside below
    · cases found

theorem folderAt_snoc_of_lt (old : x < frontier log) :
    folderAt (log ++ [request]) x = folderAt log x := by
  have kept : recordAt (log ++ [request]) x = recordAt log x := by
    rw [recordAt_snoc, if_neg fun new => Nat.not_lt.mpr new.1 old]
  rw [folderAt, folderAt, kept]

end

/-- A log that fits the volume: parents are folders that come before what they hold,
and no folder holds more than its table has slots for. -/
structure Store where
  log : List FAT32DriverRequest
  fits : frontier log ≤ 512
  parents : ∀ p ∈ records log, p.2.parentClusterNumber.toNat < p.1 ∧
    (folderAt log p.2.parentClusterNumber.toNat).isSome
  room : ∀ x, (entriesOf log x).length < 64

namespace Store

variable (s : Store) (x : Nat)

def folder : Option Folder := folderAt s.log x

/-- Cluster `x` is one of a file's. -/
def inFile : Bool :=
  match recordAt s.log x with
  | some (_, request) => request.bufferSize ≠ 0
  | none => false

end Store

/-! ### The volume -/

def Record.ext (p : Record) : Bytes 3 := if p.2.bufferSize = 0 then fun _ => 0 else p.2.ext

def Record.entry (p : Record) : FAT32DirectoryEntry :=
  { FAT32DirectoryEntry.empty with
    name := p.2.name
    ext := p.ext
    «attribute» := if p.2.bufferSize = 0 then attrSubdirectory else 0
    userAttribute := uattrNotEmpty
    clusterLow := UInt16.ofNat p.1
    filesize := p.2.bufferSize }

def Folder.header (f : Folder) : FAT32DirectoryEntry :=
  initDirectoryTable (fun _ => .empty) f.name f.parent 0

namespace Store

variable (s : Store) (x : Nat)

def table (f : Folder) : FAT32DirectoryTable := fun i =>
  (f.header :: (entriesOf s.log x).map Record.entry).getD i.val .empty

/-- The clusters of a record are linked in order. -/
def fat : FAT32FileAllocationTable := fun c =>
  if c.val = 0 then cluster0Value
  else if c.val = 1 then cluster1Value
  else if c.val = 2 then fatEndOfFile
  else match recordAt s.log c.val with
    | some (first, request) =>
        if c.val + 1 = first + clustersOf request then fatEndOfFile else UInt32.ofNat (c.val + 1)
    | none => fatEmptyEntry

def image : Disk := fun x =>
  if x = 0 then signatureCluster
  else if x = 1 then fatBytes s.fat
  else match s.folder x with
    | some f => tableBytes (s.table x f)
    | none =>
        match recordAt s.log x with
        | some (first, request) => chunk request (x - first)
        | none => fun _ => 0

def volume : Volume := ⟨s.fat, s.image⟩

end Store

/-! ### What a folder shows -/

/-- A name in a folder, and the cluster that is read for it. -/
structure Item where
  name : Bytes 8
  ext : Bytes 3
  size : UInt32
  content : ClusterBuffer

/-- An unused slot, and the cluster that is read for its zeros: the first one. -/
def unusedItem : Item := ⟨fun _ => 0, fun _ => 0, 0, signatureCluster⟩

namespace Store

variable (s : Store) (x : Nat)

/-- The first cluster of a record. -/
def content (p : Record) : ClusterBuffer :=
  if p.2.bufferSize = 0 then tableBytes (s.table p.1 ⟨p.2.name, p.2.parentClusterNumber⟩)
  else chunk p.2 0

def item (p : Record) : Item := ⟨p.2.name, p.ext, p.2.bufferSize, s.content p⟩

/-- The folder's own name comes first, and unused slots last. -/
def items (f : Folder) : List Item :=
  ⟨f.name, fun _ => 0, 0, signatureCluster⟩ :: (entriesOf s.log x).map s.item ++
    List.replicate (63 - (entriesOf s.log x).length) unusedItem

end Store

/-! ### The calls -/

def Store.empty : Store where
  log := []
  fits := Nat.le_of_ble_eq_true rfl
  parents := fun _ member => nomatch member
  room := fun _ => Nat.zero_lt_succ 63

/-- One more write, behind the others. -/
def Store.append (s : Store) (request : FAT32DriverRequest)
    (parent : (s.folder request.parentClusterNumber.toNat).isSome)
    (slot : (entriesOf s.log request.parentClusterNumber.toNat).length < 63)
    (enough : frontier s.log + clustersOf request ≤ 512) : Store where
  log := s.log ++ [request]
  fits := by
    rw [frontier_snoc]
    exact enough
  parents := by
    intro p member
    rw [records_snoc] at member
    rcases List.mem_append.mp member with old | new
    · obtain ⟨before, folder⟩ := s.parents p old
      obtain ⟨f, found⟩ := Option.isSome_iff_exists.mp folder
      exact ⟨before, by rwa [folderAt_snoc_of_lt (folderAt_lt found)]⟩
    · rw [List.mem_singleton.mp new]
      obtain ⟨f, found⟩ := Option.isSome_iff_exists.mp parent
      have below := folderAt_lt found
      exact ⟨below, by rwa [folderAt_snoc_of_lt below]⟩
  room := by
    intro x
    rw [entriesOf_snoc, List.length_append]
    split
    · rename_i here
      rw [← here]
      exact Nat.succ_lt_succ slot
    · exact s.room x

/-- Why a call leaves the picture of the log. -/
inductive Refusal where
  | fileAsParent
  | outOfClusters
  | removal
  deriving DecidableEq, Repr

/-- A folder is matched by name alone. -/
def Item.matchesWrite (request : FAT32DriverRequest) (i : Item) : Bool :=
  i.name = request.name ∧ (request.bufferSize = 0 ∨ i.ext = request.ext)

def Item.matchesRead (request : FAT32DriverRequest) (i : Item) : Bool :=
  i.name = request.name ∧ i.ext = request.ext

def Item.matchesName (request : FAT32DriverRequest) (i : Item) : Bool := i.name = request.name

namespace Store

variable (s : Store) (request : FAT32DriverRequest)

/-- The name is taken, unless it is the folder's own. -/
def taken (f : Folder) : Bool :=
  match s.items request.parentClusterNumber.toNat f with
  | [] => false
  | own :: others => !own.matchesWrite request && others.any (Item.matchesWrite request)

def read : Reply :=
  match s.folder request.parentClusterNumber.toNat with
  | none => .status (-1)
  | some f =>
      match (s.items request.parentClusterNumber.toNat f).find? (Item.matchesRead request) with
      | none => .status 3
      | some i => if request.bufferSize < i.size then .status 2 else ⟨0, 512, peek i.content⟩

/-- Behind the first cluster of an item come 2048 zeros, then `beyond`. -/
def readDirectory (beyond : Nat → UInt8) : Reply :=
  match s.folder request.parentClusterNumber.toNat with
  | none => .status (-1)
  | some f =>
      match (s.items request.parentClusterNumber.toNat f).find? (Item.matchesName request) with
      | none => .status 3
      | some i =>
          if request.bufferSize < i.size then .status 2
          else ⟨0, i.size.toNat, fun j =>
            if h : j < 2048 then i.content ⟨j, h⟩
            else if j < 4096 then 0 else beyond (j - 4096)⟩

/-- A write, unless it would run out of clusters half way. -/
def write : Except Refusal (Int × Store) :=
  match found : s.folder request.parentClusterNumber.toNat with
  | none => .ok (2, s)
  | some f =>
      if s.taken request f then .ok (1, s)
      else if full : frontier s.log = 512 ∨
          (entriesOf s.log request.parentClusterNumber.toNat).length = 63 then .ok (-1, s)
      else if enough : frontier s.log + clustersOf request ≤ 512 then
        .ok (0, s.append request (Option.isSome_of_eq_some found)
          (Nat.lt_of_le_of_ne (Nat.le_of_lt_succ (s.room _)) fun at63 => full (.inr at63)) enough)
      else .error .outOfClusters

/-- What a call returns and leaves. A parent must not be a cluster of a file. -/
def step (s : Store) : Call → Except Refusal (Reply × Store)
  | .initializeFilesystem => .ok (.status 0, s)
  | .read request =>
      if s.inFile request.parentClusterNumber.toNat then .error .fileAsParent
      else .ok (s.read request, s)
  | .readDirectory request beyond =>
      if s.inFile request.parentClusterNumber.toNat then .error .fileAsParent
      else .ok (s.readDirectory request beyond, s)
  | .write request =>
      if s.inFile request.parentClusterNumber.toNat then .error .fileAsParent
      else match s.write request with
        | .ok (code, t) => .ok (.status code, t)
        | .error refusal => .error refusal
  | .delete _ _ => .error .removal

end Store

end HexOS.Files
