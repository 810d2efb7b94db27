import HexOS.Library.ByteWords
import HexOS.Stdmem
import Mathlib.Tactic.IntervalCases

/-!
The on-disk format of `fat32.h`: clusters, directory tables and the file
allocation table, with the packed little-endian layout the compiler gives them.

The driver reads a cluster into a typed buffer and writes a typed buffer back as
a cluster. `tableOf`/`tableBytes` and `fatOf`/`fatBytes` are these two views;
each pair is inverse in both directions, so nothing on disk is lost by looking
at it as a table.
-/

namespace HexOS.Fat32

open ByteWords

/-! ### Constants -/

def bootSector : UInt32 := 0
def fatClusterNumber : UInt32 := 1
def rootClusterNumber : UInt32 := 2
def clusterBlockCount : UInt32 := 4
def clusterSize : UInt32 := 2048
def clusterMapSize : UInt32 := 512

def cluster0Value : UInt32 := 0x0FFFFFF0
def cluster1Value : UInt32 := 0x0FFFFFFF
def fatEndOfFile : UInt32 := 0x0FFFFFFF
def fatEmptyEntry : UInt32 := 0

def attrSubdirectory : UInt8 := 0b00010000
def uattrNotEmpty : UInt8 := 0b10101010

/-- `fs_signature`: five lines of text, zeros, and `Ok` in the last two bytes. -/
def fsSignature : Bytes 512 := fun i =>
  let text : List Char :=
    ['C', 'o', 'u', 'r', 's', 'e', ' ', ' ', ' ', ' ', ' ', ' ', ' ', ' ', ' ', ' ',
     'D', 'e', 's', 'i', 'g', 'n', 'e', 'd', ' ', 'b', 'y', ' ', ' ', ' ', ' ', ' ',
     'L', 'a', 'b', ' ', 'S', 'i', 's', 't', 'e', 'r', ' ', 'I', 'T', 'B', ' ', ' ',
     'M', 'a', 'd', 'e', ' ', 'w', 'i', 't', 'h', ' ', '<', '3', ' ', ' ', ' ', ' ',
     '-', '-', '-', '-', '-', '-', '-', '-', '-', '-', '-', '2', '0', '2', '3', '\n']
  if i.val = 510 then 'O'.toUInt8
  else if i.val = 511 then 'k'.toUInt8
  else (text[i.val]?.map Char.toUInt8).getD 0

/-! ### Clusters and typed views -/

instance slots_neZero : NeZero 64 := ⟨by decide⟩

instance clusters_neZero : NeZero 512 := ⟨by decide⟩

instance name_neZero : NeZero 8 := ⟨by decide⟩

abbrev ClusterBuffer := Bytes 2048

abbrev FAT32FileAllocationTable := Fin 512 → UInt32

structure FAT32DirectoryEntry where
  name : Bytes 8
  ext : Bytes 3
  «attribute» : UInt8
  userAttribute : UInt8
  undelete : UInt8
  createTime : UInt16
  createDate : UInt16
  accessDate : UInt16
  clusterHigh : UInt16
  modifiedTime : UInt16
  modifiedDate : UInt16
  clusterLow : UInt16
  filesize : UInt32

abbrev FAT32DirectoryTable := Fin 64 → FAT32DirectoryEntry

/-- The all-zero entry `{0}`. -/
def FAT32DirectoryEntry.empty : FAT32DirectoryEntry :=
  ⟨fun _ => 0, fun _ => 0, 0, 0, 0, 0, 0, 0, 0, 0, 0, 0, 0⟩

def peek (c : ClusterBuffer) (offset : Nat) : UInt8 :=
  if h : offset < 2048 then c ⟨offset, h⟩ else 0

theorem peek_of_lt (c : ClusterBuffer) {offset : Nat} (h : offset < 2048) :
    peek c offset = c ⟨offset, h⟩ := dif_pos h

theorem peek_zero (offset : Nat) : peek (fun _ => 0) offset = 0 := by
  unfold peek
  split <;> rfl

/-- The 32 bytes of an entry, by offset. -/
def FAT32DirectoryEntry.byte (e : FAT32DirectoryEntry) (j : Nat) : UInt8 :=
  if h : j < 8 then e.name ⟨j, h⟩
  else if h : j - 8 < 3 then e.ext ⟨j - 8, h⟩
  else if j = 11 then e.attribute
  else if j = 12 then e.userAttribute
  else if j = 13 then e.undelete
  else if j < 16 then byteAt e.createTime.toNat (j - 14)
  else if j < 18 then byteAt e.createDate.toNat (j - 16)
  else if j < 20 then byteAt e.accessDate.toNat (j - 18)
  else if j < 22 then byteAt e.clusterHigh.toNat (j - 20)
  else if j < 24 then byteAt e.modifiedTime.toNat (j - 22)
  else if j < 26 then byteAt e.modifiedDate.toNat (j - 24)
  else if j < 28 then byteAt e.clusterLow.toNat (j - 26)
  else byteAt e.filesize.toNat (j - 28)

def FAT32DirectoryEntry.ofBytes (b : Nat → UInt8) : FAT32DirectoryEntry where
  name := fun i => b i.val
  ext := fun i => b (8 + i.val)
  «attribute» := b 11
  userAttribute := b 12
  undelete := b 13
  createTime := word16 fun i => b (14 + i)
  createDate := word16 fun i => b (16 + i)
  accessDate := word16 fun i => b (18 + i)
  clusterHigh := word16 fun i => b (20 + i)
  modifiedTime := word16 fun i => b (22 + i)
  modifiedDate := word16 fun i => b (24 + i)
  clusterLow := word16 fun i => b (26 + i)
  filesize := word32 fun i => b (28 + i)

def tableOf (c : ClusterBuffer) : FAT32DirectoryTable := fun i =>
  FAT32DirectoryEntry.ofBytes fun j => peek c (32 * i.val + j)

def tableBytes (t : FAT32DirectoryTable) : ClusterBuffer := fun b =>
  (t ⟨b.val / 32, by omega⟩).byte (b.val % 32)

def fatOf (c : ClusterBuffer) : FAT32FileAllocationTable := fun i =>
  word32 fun j => peek c (4 * i.val + j)

def fatBytes (f : FAT32FileAllocationTable) : ClusterBuffer := fun b =>
  byteAt (f ⟨b.val / 4, by omega⟩).toNat (b.val % 4)

/-! ### Round trips -/

theorem FAT32DirectoryEntry.ofBytes_congr {b b' : Nat → UInt8} (same : ∀ j < 32, b j = b' j) :
    ofBytes b = ofBytes b' := by
  have pair : ∀ base, base + 2 ≤ 32 →
      word16 (fun i => b (base + i)) = word16 fun i => b' (base + i) :=
    fun base inside => word16_congr fun i hi => same _ (by omega)
  have quad : word32 (fun i => b (28 + i)) = word32 fun i => b' (28 + i) :=
    word32_congr fun i hi => same _ (by omega)
  have name : (fun i : Fin 8 => b i.val) = fun i => b' i.val :=
    funext fun i => same _ (by omega)
  have ext : (fun i : Fin 3 => b (8 + i.val)) = fun i => b' (8 + i.val) :=
    funext fun i => same _ (by omega)
  simp only [ofBytes, name, ext, same 11 (by omega), same 12 (by omega), same 13 (by omega),
    pair 14 (by omega), pair 16 (by omega), pair 18 (by omega), pair 20 (by omega),
    pair 22 (by omega), pair 24 (by omega), pair 26 (by omega), quad]

theorem FAT32DirectoryEntry.ofBytes_byte (e : FAT32DirectoryEntry) : ofBytes e.byte = e := by
  have pair : ∀ (base : Nat) (w : UInt16),
      (∀ i < 2, e.byte (base + i) = byteAt w.toNat i) → word16 (fun i => e.byte (base + i)) = w :=
    fun base w same => (word16_congr same).trans (word16_byteAt w)
  have quad : word32 (fun i => e.byte (28 + i)) = e.filesize :=
    (word32_congr fun i hi => by interval_cases i <;> rfl).trans (word32_byteAt e.filesize)
  have name : (fun i : Fin 8 => e.byte i.val) = e.name := funext fun i => by simp [byte]
  have ext : (fun i : Fin 3 => e.byte (8 + i.val)) = e.ext := funext fun i => by
    have := i.isLt
    simp [byte]
  simp only [ofBytes, name, ext, quad]
  rw [pair 14 e.createTime, pair 16 e.createDate, pair 18 e.accessDate, pair 20 e.clusterHigh,
    pair 22 e.modifiedTime, pair 24 e.modifiedDate, pair 26 e.clusterLow]
  · rfl
  all_goals
    intro i hi
    interval_cases i <;> rfl

theorem FAT32DirectoryEntry.byte_ofBytes (b : Nat → UInt8) {j : Nat} (hj : j < 32) :
    (ofBytes b).byte j = b j := by
  have pair : ∀ base i, i < 2 →
      byteAt (word16 fun i => b (base + i)).toNat i = b (base + i) :=
    fun base i hi => byteAt_word16 (fun i => b (base + i)) hi
  have quad : ∀ i, i < 4 → byteAt (word32 fun i => b (28 + i)).toNat i = b (28 + i) :=
    fun i hi => byteAt_word32 (fun i => b (28 + i)) hi
  interval_cases j <;> simp [byte, ofBytes, pair, quad]

@[simp] theorem tableOf_tableBytes (t : FAT32DirectoryTable) : tableOf (tableBytes t) = t := by
  funext i
  refine (FAT32DirectoryEntry.ofBytes_congr fun j hj => ?_).trans
    (FAT32DirectoryEntry.ofBytes_byte (t i))
  have slot : (32 * i.val + j) / 32 = i.val := by omega
  have offset : (32 * i.val + j) % 32 = j := by omega
  rw [peek_of_lt _ (by omega)]
  simp only [tableBytes, slot, offset]

@[simp] theorem tableBytes_tableOf (c : ClusterBuffer) : tableBytes (tableOf c) = c := by
  funext b
  have whole : 32 * (b.val / 32) + b.val % 32 = b.val := by omega
  simp only [tableBytes, tableOf]
  rw [FAT32DirectoryEntry.byte_ofBytes _ (by omega), whole, peek_of_lt _ b.isLt]

theorem tableBytes_injective : Function.Injective tableBytes := fun s t same => by
  rw [← tableOf_tableBytes s, same, tableOf_tableBytes]

/-- A zeroed table. -/
abbrev blankTable : FAT32DirectoryTable := fun _ => .empty

theorem tableBytes_blank : tableBytes blankTable = fun _ => 0 := by
  funext b
  have zero : ∀ j < 32, FAT32DirectoryEntry.empty.byte j = 0 := by decide
  exact zero _ (Nat.mod_lt _ (by decide))

theorem tableOf_blank : tableOf (fun _ => 0) = blankTable := by
  rw [← tableBytes_blank, tableOf_tableBytes]

@[simp] theorem fatOf_fatBytes (f : FAT32FileAllocationTable) : fatOf (fatBytes f) = f := by
  funext i
  refine (word32_congr fun j hj => ?_).trans (word32_byteAt (f i))
  have entry : (4 * i.val + j) / 4 = i.val := by omega
  have offset : (4 * i.val + j) % 4 = j := by omega
  rw [peek_of_lt _ (by omega)]
  simp only [fatBytes, entry, offset]

@[simp] theorem fatBytes_fatOf (c : ClusterBuffer) : fatBytes (fatOf c) = c := by
  funext b
  have whole : 4 * (b.val / 4) + b.val % 4 = b.val := by omega
  simp only [fatBytes, fatOf]
  rw [byteAt_word32 _ (by omega), whole, peek_of_lt _ b.isLt]

end HexOS.Fat32
