import HexOS.Library.BitFields
import HexOS.Library.ByteWords

/-!
The descriptor tables of `idt.c` and `gdt.c`.

The source fills in the fields of packed structures; the processor reads the bits.
`gate_of_stub` and `gate_of_other` say what it reads in the 256 gates after
`initialize_idt`, and `tss_segment` that it finds the TSS where `gdt_install_tss` has
put it.
-/

namespace HexOS.Traps

open BitFields ByteWords

/-! ### The interrupt descriptor table -/

structure IDTGate where
  offsetLow : UInt16
  segment : UInt16
  reserved : BitVec 5
  rBit1 : BitVec 3
  rBit2 : BitVec 3
  gate32 : BitVec 1
  rBit3 : BitVec 1
  privilege : BitVec 2
  validBit : BitVec 1
  offsetHigh : UInt16

abbrev InterruptDescriptorTable := Fin 256 → IDTGate

/-- The initial `interrupt_descriptor_table`. -/
def emptyIdt : InterruptDescriptorTable := fun _ => ⟨0, 0, 0, 0, 0, 0, 0, 0, 0, 0⟩

def setInterruptGate (intVector : Fin 256) (handlerAddress : UInt32) (gdtSegSelector : UInt16)
    (privilege : UInt8) (table : InterruptDescriptorTable) : InterruptDescriptorTable :=
  Function.update table intVector
    { table intVector with
      rBit1 := 0b000
      rBit2 := 0b110
      rBit3 := 0b0
      gate32 := 1
      validBit := 1
      privilege := BitVec.ofNat 2 privilege.toNat
      segment := gdtSegSelector
      offsetLow := (handlerAddress &&& 0xFFFF).toUInt16
      offsetHigh := ((handlerAddress >>> 16) &&& 0xFFFF).toUInt16
      reserved := 0 }

/-- The privilege of the gate of a stub. -/
def gatePrivilege (i : Fin 64) : UInt8 := if 0x30 ≤ i.val ∧ i.val ≤ 0x3F then 0x3 else 0

/-- The vector of a stub. -/
def vector (i : Fin 64) : Fin 256 := i.castLE (Nat.le_of_ble_eq_true rfl)

/-- `isrStubTable` gives the addresses of the stubs. -/
def initializeIdt (isrStubTable : Fin 64 → UInt32) (table : InterruptDescriptorTable) :
    InterruptDescriptorTable :=
  (List.finRange 64).foldl
    (fun table i => setInterruptGate (vector i) (isrStubTable i) 0x8 (gatePrivilege i) table) table

/-! ### What the processor reads -/

/-- The structure is packed, its fields from the lowest bits up. -/
def IDTGate.fields (g : IDTGate) : List (Nat × Nat) :=
  [(16, g.offsetLow.toNat), (16, g.segment.toNat), (5, g.reserved.toNat), (3, g.rBit1.toNat),
    (3, g.rBit2.toNat), (1, g.gate32.toNat), (1, g.rBit3.toNat), (2, g.privilege.toNat),
    (1, g.validBit.toNat), (16, g.offsetHigh.toNat)]

def IDTGate.bits (g : IDTGate) : Nat := pack g.fields

structure Gate where
  offset : Nat
  selector : Nat
  type : Nat
  dpl : Nat
  present : Nat
  deriving DecidableEq

def readGate (bits : Nat) : Gate where
  offset := slice bits 0 16 + 2 ^ 16 * slice bits 48 16
  selector := slice bits 16 16
  type := slice bits 40 5
  dpl := slice bits 45 2
  present := slice bits 47 1

/-- The type of a 32-bit interrupt gate. -/
def interruptGate : Nat := 0b01110

theorem readGate_bits (g : IDTGate) : readGate g.bits =
    { offset := g.offsetLow.toNat + 2 ^ 16 * g.offsetHigh.toNat
      selector := g.segment.toNat
      type := g.rBit2.toNat + 2 ^ 3 * (g.gate32.toNat + 2 ^ 1 * g.rBit3.toNat)
      dpl := g.privilege.toNat
      present := g.validBit.toNat } := by
  have inside : ∀ k < 10, k < g.fields.length := fun _ small => small
  have low : slice g.bits 0 16 = g.offsetLow.toNat :=
    slice_field g.fields 0 (inside 0 (by decide)) (UInt16.toNat_lt _)
  have segment : slice g.bits 16 16 = g.segment.toNat :=
    slice_field g.fields 1 (inside 1 (by decide)) (UInt16.toNat_lt _)
  have kind : slice g.bits 40 3 = g.rBit2.toNat :=
    slice_field g.fields 4 (inside 4 (by decide)) g.rBit2.isLt
  have wide : slice g.bits 43 1 = g.gate32.toNat :=
    slice_field g.fields 5 (inside 5 (by decide)) g.gate32.isLt
  have system : slice g.bits 44 1 = g.rBit3.toNat :=
    slice_field g.fields 6 (inside 6 (by decide)) g.rBit3.isLt
  have dpl : slice g.bits 45 2 = g.privilege.toNat :=
    slice_field g.fields 7 (inside 7 (by decide)) g.privilege.isLt
  have present : slice g.bits 47 1 = g.validBit.toNat :=
    slice_field g.fields 8 (inside 8 (by decide)) g.validBit.isLt
  have high : slice g.bits 48 16 = g.offsetHigh.toNat :=
    slice_field g.fields 9 (inside 9 (by decide)) (UInt16.toNat_lt _)
  have type : slice g.bits 40 5 =
      g.rBit2.toNat + 2 ^ 3 * (g.gate32.toNat + 2 ^ 1 * g.rBit3.toNat) := by
    rw [slice_add g.bits 40 3 2, slice_add g.bits (40 + 3) 1 1, kind, wide, system]
  rw [readGate, low, high, segment, type, dpl, present]

/-! ### The gates of the source -/

/-- Splitting an address in two fields loses nothing. -/
theorem offset_halves (address : UInt32) :
    (address &&& 0xFFFF).toUInt16.toNat + 2 ^ 16 * ((address >>> 16) &&& 0xFFFF).toUInt16.toNat =
      address.toNat := by
  have bound := address.toNat_lt
  have shift : (16 : UInt32).toNat = 16 := rfl
  have ones : (0xFFFF : UInt32).toNat = 2 ^ 16 - 1 := rfl
  rw [UInt32.toNat_toUInt16, UInt32.toNat_toUInt16, toNat_and_mask _ _ ones, toNat_and_mask _ _ ones,
    toNat_shiftRight _ _ (by decide), shift]
  omega

section

variable (table : InterruptDescriptorTable) (i : Fin 256) (address : UInt32) (selector : UInt16)
  (privilege : UInt8)

theorem setInterruptGate_self (small : privilege.toNat < 4) :
    readGate (setInterruptGate i address selector privilege table i).bits =
      ⟨address.toNat, selector.toNat, interruptGate, privilege.toNat, 1⟩ := by
  have level : (BitVec.ofNat 2 privilege.toNat).toNat = privilege.toNat := by
    rw [BitVec.toNat_ofNat, Nat.mod_eq_of_lt small]
  rw [readGate_bits, setInterruptGate, Function.update_self]
  simp only [offset_halves, level]
  rfl

theorem setInterruptGate_of_ne {j : Fin 256} (other : j ≠ i) :
    setInterruptGate i address selector privilege table j = table j :=
  Function.update_of_ne other _ _

end

/-! ### `initialize_idt` -/

theorem vector_injective : Function.Injective vector := by
  intro i j same
  have values : (vector i).val = (vector j).val := congrArg Fin.val same
  exact Fin.ext values

section

variable (isrStubTable : Fin 64 → UInt32)

def stubGate (i : Fin 64) : Gate :=
  ⟨(isrStubTable i).toNat, 8, interruptGate, (gatePrivilege i).toNat, 1⟩

/-- The loop over some of the stubs. -/
def installed (stubs : List (Fin 64)) (table : InterruptDescriptorTable) : InterruptDescriptorTable :=
  stubs.foldl
    (fun table i => setInterruptGate (vector i) (isrStubTable i) 0x8 (gatePrivilege i) table) table

theorem installed_of_notMem {stubs : List (Fin 64)} (table : InterruptDescriptorTable) {n : Fin 256}
    (other : ∀ i ∈ stubs, n ≠ vector i) : installed isrStubTable stubs table n = table n := by
  induction stubs generalizing table with
  | nil => rfl
  | cons i stubs ih =>
      have rest := ih (setInterruptGate (vector i) (isrStubTable i) 0x8 (gatePrivilege i) table)
        fun j member => other j (List.mem_cons_of_mem _ member)
      exact rest.trans
        (setInterruptGate_of_ne table (vector i) (isrStubTable i) 0x8 _ (other i List.mem_cons_self))

theorem installed_of_mem {stubs : List (Fin 64)} (table : InterruptDescriptorTable) {i : Fin 64}
    (member : i ∈ stubs) :
    readGate (installed isrStubTable stubs table (vector i)).bits = stubGate isrStubTable i := by
  induction stubs generalizing table with
  | nil => cases member
  | cons j stubs ih =>
      by_cases later : i ∈ stubs
      · exact ih _ later
      · obtain rfl : i = j := (List.mem_cons.mp member).resolve_right later
        have kept := installed_of_notMem isrStubTable
          (setInterruptGate (vector i) (isrStubTable i) 0x8 (gatePrivilege i) table)
          (n := vector i) fun k other same => later (vector_injective same ▸ other)
        have small : (gatePrivilege i).toNat < 4 := by
          unfold gatePrivilege
          split <;> decide
        have written := setInterruptGate_self table (vector i) (isrStubTable i) 0x8
          (gatePrivilege i) small
        rw [← kept] at written
        exact written

theorem gate_of_stub (i : Fin 64) :
    readGate (initializeIdt isrStubTable emptyIdt (vector i)).bits = stubGate isrStubTable i :=
  installed_of_mem isrStubTable emptyIdt (List.mem_finRange i)

theorem gate_of_other {n : Fin 256} (other : 64 ≤ n.val) :
    readGate (initializeIdt isrStubTable emptyIdt n).bits = ⟨0, 0, 0, 0, 0⟩ := by
  have kept : initializeIdt isrStubTable emptyIdt n = emptyIdt n :=
    installed_of_notMem isrStubTable emptyIdt fun i _ same =>
      absurd (congrArg Fin.val same) (Nat.ne_of_gt (Nat.lt_of_lt_of_le i.isLt other))
  rw [kept, readGate_bits]
  rfl

end

/-! ### The global descriptor table -/

structure SegmentDescriptor where
  segmentLow : UInt16
  baseLow : UInt16
  baseMid : UInt8
  typeBit : BitVec 4
  nonSystem : BitVec 1
  dpl : BitVec 2
  present : BitVec 1
  segmentHigh : BitVec 4
  reserved : BitVec 1
  longMode : BitVec 1
  operationSize : BitVec 1
  granularity : BitVec 1
  baseHigh : UInt8

/-- `GDT_MAX_ENTRY_COUNT` entries. -/
abbrev GlobalDescriptorTable := Fin 32 → SegmentDescriptor

/-- The segments of the kernel and of the user, which differ in four fields. -/
def flatSegment (typeBit : BitVec 4) (dpl : BitVec 2) (longMode : BitVec 1) : SegmentDescriptor :=
  ⟨0xFFFF, 0, 0, typeBit, 1, dpl, 1, 0xF, 0, longMode, 1, 1, 0⟩

def sizeofTss : UInt32 := 4 * (3 + 23)

/-- The initial `global_descriptor_table`. -/
def globalDescriptorTable : GlobalDescriptorTable := fun i =>
  match i.val with
  | 1 => flatSegment 0xA 0 0
  | 2 => flatSegment 0x2 0 0
  | 3 => flatSegment 0xA 3 1
  | 4 => flatSegment 0x2 3 0
  | 5 => ⟨sizeofTss.toUInt16, 0, 0, 0x9, 0, 0, 1,
      BitVec.ofNat 4 ((sizeofTss &&& 0xF0000) >>> 16).toNat, 0, 0, 1, 0, 0⟩
  | _ => ⟨0, 0, 0, 0, 0, 0, 0, 0, 0, 0, 0, 0, 0⟩

/-- The entry of `GDT_TSS_SELECTOR`. -/
def tssIndex : Fin 32 := 5

/-- `base` is the address of `_interrupt_tss_entry`. -/
def gdtInstallTss (base : UInt32) (table : GlobalDescriptorTable) : GlobalDescriptorTable :=
  Function.update table tssIndex
    { table tssIndex with
      baseHigh := ((base &&& 0xFF000000) >>> 24).toUInt8
      baseMid := ((base &&& 0xFF0000) >>> 16).toUInt8
      baseLow := (base &&& 0xFFFF).toUInt16 }

def SegmentDescriptor.fields (d : SegmentDescriptor) : List (Nat × Nat) :=
  [(16, d.segmentLow.toNat), (16, d.baseLow.toNat), (8, d.baseMid.toNat), (4, d.typeBit.toNat),
    (1, d.nonSystem.toNat), (2, d.dpl.toNat), (1, d.present.toNat), (4, d.segmentHigh.toNat),
    (1, d.reserved.toNat), (1, d.longMode.toNat), (1, d.operationSize.toNat),
    (1, d.granularity.toNat), (8, d.baseHigh.toNat)]

def SegmentDescriptor.bits (d : SegmentDescriptor) : Nat := pack d.fields

/-- What the processor reads. -/
structure Segment where
  base : Nat
  limit : Nat
  type : Nat
  system : Nat
  dpl : Nat
  present : Nat
  granularity : Nat
  deriving DecidableEq

def readSegment (bits : Nat) : Segment where
  base := slice bits 16 24 + 2 ^ 24 * slice bits 56 8
  limit := slice bits 0 16 + 2 ^ 16 * slice bits 48 4
  type := slice bits 40 4
  system := slice bits 44 1
  dpl := slice bits 45 2
  present := slice bits 47 1
  granularity := slice bits 55 1

theorem readSegment_bits (d : SegmentDescriptor) : readSegment d.bits =
    { base := d.baseLow.toNat + 2 ^ 16 * d.baseMid.toNat + 2 ^ 24 * d.baseHigh.toNat
      limit := d.segmentLow.toNat + 2 ^ 16 * d.segmentHigh.toNat
      type := d.typeBit.toNat
      system := d.nonSystem.toNat
      dpl := d.dpl.toNat
      present := d.present.toNat
      granularity := d.granularity.toNat } := by
  have inside : ∀ k < 13, k < d.fields.length := fun _ small => small
  have limitLow : slice d.bits 0 16 = d.segmentLow.toNat :=
    slice_field d.fields 0 (inside 0 (by decide)) (UInt16.toNat_lt _)
  have low : slice d.bits 16 16 = d.baseLow.toNat :=
    slice_field d.fields 1 (inside 1 (by decide)) (UInt16.toNat_lt _)
  have mid : slice d.bits 32 8 = d.baseMid.toNat :=
    slice_field d.fields 2 (inside 2 (by decide)) (UInt8.toNat_lt _)
  have type : slice d.bits 40 4 = d.typeBit.toNat :=
    slice_field d.fields 3 (inside 3 (by decide)) d.typeBit.isLt
  have system : slice d.bits 44 1 = d.nonSystem.toNat :=
    slice_field d.fields 4 (inside 4 (by decide)) d.nonSystem.isLt
  have dpl : slice d.bits 45 2 = d.dpl.toNat :=
    slice_field d.fields 5 (inside 5 (by decide)) d.dpl.isLt
  have present : slice d.bits 47 1 = d.present.toNat :=
    slice_field d.fields 6 (inside 6 (by decide)) d.present.isLt
  have limitHigh : slice d.bits 48 4 = d.segmentHigh.toNat :=
    slice_field d.fields 7 (inside 7 (by decide)) d.segmentHigh.isLt
  have granularity : slice d.bits 55 1 = d.granularity.toNat :=
    slice_field d.fields 11 (inside 11 (by decide)) d.granularity.isLt
  have high : slice d.bits 56 8 = d.baseHigh.toNat :=
    slice_field d.fields 12 (inside 12 (by decide)) (UInt8.toNat_lt _)
  rw [readSegment, slice_add d.bits 16 16 8, limitLow, low, mid, type, system, dpl, present,
    limitHigh, granularity, high]

/-- A field masked out in place, then moved down. -/
theorem toNat_masked_shift (w mask s : UInt32) {k : Nat} (below : s.toNat < 32)
    (ones : mask.toNat >>> s.toNat = 2 ^ k - 1) :
    ((w &&& mask) >>> s).toNat = w.toNat / 2 ^ s.toNat % 2 ^ k := by
  rw [UInt32.toNat_shiftRight, Nat.mod_eq_of_lt below, UInt32.toNat_and, Nat.shiftRight_and_distrib,
    ones, Nat.and_two_pow_sub_one_eq_mod, Nat.shiftRight_eq_div_pow]

/-- Splitting the address in three fields loses nothing. -/
theorem base_pieces (base : UInt32) :
    (base &&& 0xFFFF).toUInt16.toNat + 2 ^ 16 * ((base &&& 0xFF0000) >>> 16).toUInt8.toNat +
      2 ^ 24 * ((base &&& 0xFF000000) >>> 24).toUInt8.toNat = base.toNat := by
  have bound := base.toNat_lt
  have ones : (0xFFFF : UInt32).toNat = 2 ^ 16 - 1 := rfl
  have mid : ((base &&& 0xFF0000) >>> 16).toUInt8.toNat = base.toNat / 2 ^ 16 % 2 ^ 8 := by
    rw [UInt32.toNat_toUInt8, toNat_masked_shift base 0xFF0000 16 (k := 8) (by decide) rfl]
    exact Nat.mod_mod _ _
  have high : ((base &&& 0xFF000000) >>> 24).toUInt8.toNat = base.toNat / 2 ^ 24 % 2 ^ 8 := by
    rw [UInt32.toNat_toUInt8, toNat_masked_shift base 0xFF000000 24 (k := 8) (by decide) rfl]
    exact Nat.mod_mod _ _
  rw [mid, high, UInt32.toNat_toUInt16, toNat_and_mask _ _ ones]
  omega

/-- The descriptor of the TSS leads to it, wherever it is. -/
theorem tss_segment (base : UInt32) :
    readSegment (gdtInstallTss base globalDescriptorTable tssIndex).bits =
      ⟨base.toNat, sizeofTss.toNat, 0x9, 0, 0, 1, 0⟩ := by
  rw [readSegment_bits, gdtInstallTss, Function.update_self]
  simp only [base_pieces]
  rfl

end HexOS.Traps
