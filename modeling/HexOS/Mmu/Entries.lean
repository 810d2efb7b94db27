import HexOS.Paging
import HexOS.Library.BitFields

/-!
Page directory entries as the MMU reads them.

The source writes the fields of a packed structure; the MMU reads its 32 bits.
`translate` is the translation of an address by the bits of one entry of 4 MiB. The
two bits that the MMU sets itself, accessed and dirty, do not show in it
(`translate_clean`).
-/

namespace HexOS.Paging

open BitFields

/-! ### Bits -/

/-- The fields of the structure, from the lowest bits up. -/
def PageDirectoryEntry.fields (e : PageDirectoryEntry) : List (Nat × Nat) :=
  [(1, e.flag.presentBit.toNat), (1, e.flag.writeBit.toNat), (1, e.flag.userSupervisor.toNat),
    (1, e.flag.writeThrough.toNat), (1, e.flag.cacheDisable.toNat), (1, e.flag.accessed.toNat),
    (1, e.flag.dirty.toNat), (1, e.flag.usePagesize4Mb.toNat), (1, e.globalPage.toNat),
    (3, e.ignored.toNat), (1, e.pat.toNat), (4, e.higherAddress.toNat), (5, e.bits.toNat),
    (10, e.lowerAddress.toNat)]

def PageDirectoryEntry.word (e : PageDirectoryEntry) : Nat := pack e.fields

/-- The bits of an entry that decide a translation. -/
structure EntryBits where
  present : Nat
  write : Nat
  user : Nat
  large : Nat
  reserved : Nat
  frame : Nat
  deriving DecidableEq

/-- The layout of an entry for a page of 4 MiB. -/
def readEntry (word : Nat) : EntryBits where
  present := slice word 0 1
  write := slice word 1 1
  user := slice word 2 1
  large := slice word 7 1
  reserved := slice word 17 5
  frame := slice word 22 10 + 2 ^ 10 * slice word 13 4

theorem readEntry_word (e : PageDirectoryEntry) : readEntry e.word =
    { present := e.flag.presentBit.toNat
      write := e.flag.writeBit.toNat
      user := e.flag.userSupervisor.toNat
      large := e.flag.usePagesize4Mb.toNat
      reserved := e.bits.toNat
      frame := e.lowerAddress.toNat + 2 ^ 10 * e.higherAddress.toNat } := by
  have inside : ∀ k < 14, k < e.fields.length := fun _ small => small
  have present : slice e.word 0 1 = e.flag.presentBit.toNat :=
    slice_field e.fields 0 (inside 0 (by decide)) (Bool.toNat_lt _)
  have write : slice e.word 1 1 = e.flag.writeBit.toNat :=
    slice_field e.fields 1 (inside 1 (by decide)) (Bool.toNat_lt _)
  have user : slice e.word 2 1 = e.flag.userSupervisor.toNat :=
    slice_field e.fields 2 (inside 2 (by decide)) (Bool.toNat_lt _)
  have large : slice e.word 7 1 = e.flag.usePagesize4Mb.toNat :=
    slice_field e.fields 7 (inside 7 (by decide)) (Bool.toNat_lt _)
  have high : slice e.word 13 4 = e.higherAddress.toNat :=
    slice_field e.fields 11 (inside 11 (by decide)) e.higherAddress.isLt
  have reserved : slice e.word 17 5 = e.bits.toNat :=
    slice_field e.fields 12 (inside 12 (by decide)) e.bits.isLt
  have low : slice e.word 22 10 = e.lowerAddress.toNat :=
    slice_field e.fields 13 (inside 13 (by decide)) e.lowerAddress.isLt
  rw [readEntry, present, write, user, large, high, reserved, low]

/-! ### Translation -/

structure Access where
  user : Bool
  write : Bool

/-- The physical address of an access, or a page fault. The kernel may write to any
page, and tables of smaller pages, which no entry leads to, are left out. -/
def translate (word : Nat) (access : Access) (virtualAddr : UInt32) : Option Nat :=
  let e := readEntry word
  if e.present = 1 ∧ e.large = 1 ∧ e.reserved = 0 ∧ (access.user → e.user = 1) ∧
      (access.user ∧ access.write → e.write = 1) then
    some (e.frame * pageFrameSize.toNat + virtualAddr.toNat % pageFrameSize.toNat)
  else none

/-- The entry without the bits that the MMU sets. -/
def PageDirectoryEntry.clean (e : PageDirectoryEntry) : PageDirectoryEntry :=
  { e with flag := { e.flag with accessed := false, dirty := false } }

theorem translate_clean {e e' : PageDirectoryEntry} (same : e.clean = e'.clean) :
    translate e.word = translate e'.word := by
  have read : ∀ e : PageDirectoryEntry, readEntry e.word = readEntry e.clean.word := by
    intro e
    rw [readEntry_word, readEntry_word]
    rfl
  have words : readEntry e.word = readEntry e'.word := by rw [read e, read e', same]
  funext access virtualAddr
  rw [translate, translate, words]

/-! ### The entries of the kernel -/

section

variable (access : Access) (virtualAddr : UInt32)

theorem translate_zero : translate zeroEntry.word access virtualAddr = none := by
  have read := readEntry_word zeroEntry
  rw [translate, read]
  exact if_neg fun present => absurd present.1 (by decide)

/-- The kernel's own mapping is not for users. -/
theorem translate_kernel : translate kernelEntry.word access virtualAddr =
    if access.user then none else some (virtualAddr.toNat % pageFrameSize.toNat) := by
  have read := readEntry_word kernelEntry
  rw [translate, read]
  cases access.user with
  | false => simp [kernelEntry, noFlag, zeroEntry]
  | true => simp [kernelEntry, noFlag, zeroEntry]

/-- The flags of a user page on some frame below 1024. -/
theorem translate_user (frame : BitVec 10) :
    translate ({ zeroEntry with flag := userFlag, lowerAddress := frame } : PageDirectoryEntry).word
      access virtualAddr =
      some (frame.toNat * pageFrameSize.toNat + virtualAddr.toNat % pageFrameSize.toNat) := by
  have read := readEntry_word { zeroEntry with flag := userFlag, lowerAddress := frame }
  rw [translate, read]
  simp [userFlag, noFlag, zeroEntry]

end

end HexOS.Paging
