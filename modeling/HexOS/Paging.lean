import HexOS.Library.ByteWords
import Mathlib.Data.List.Induction

/-!
The page driver of `paging.c`: the page directory of the kernel and the
allocation of user page frames.

Pages and frames have 4 MiB. `allocate_single_user_page_frame` maps a page to
the frame at `last_available_physical_addr`, which no statement ever moves: the
first call takes frame 1, and so does every later one. Frames are therefore
never shared exactly in the sequences of at most one call.
-/

namespace HexOS.Paging

open ByteWords

/-! ### State -/

structure PageDirectoryEntryFlag where
  presentBit : Bool
  writeBit : Bool
  userSupervisor : Bool
  writeThrough : Bool
  cacheDisable : Bool
  accessed : Bool
  dirty : Bool
  usePagesize4Mb : Bool
  deriving DecidableEq, Repr

structure PageDirectoryEntry where
  flag : PageDirectoryEntryFlag
  globalPage : BitVec 1
  ignored : BitVec 3
  pat : BitVec 1
  higherAddress : BitVec 4
  bits : BitVec 5
  lowerAddress : BitVec 10
  deriving DecidableEq, Repr

abbrev PageDirectory := Fin 1024 → PageDirectoryEntry

/-- `_paging_kernel_page_directory` and `page_driver_state`. -/
structure PageDriver where
  directory : PageDirectory
  lastAvailablePhysicalAddr : UInt32

def pageFrameSize : UInt32 := 4 * 1024 * 1024

/-- The flags of `{0}`. -/
def noFlag : PageDirectoryEntryFlag := ⟨false, false, false, false, false, false, false, false⟩

def zeroEntry : PageDirectoryEntry := ⟨noFlag, 0, 0, 0, 0, 0, 0⟩

def kernelEntry : PageDirectoryEntry :=
  { zeroEntry with
    flag := { noFlag with presentBit := true, writeBit := true, usePagesize4Mb := true }
    lowerAddress := 0 }

/-- The static initializers. Entries 0 and 0x300 map the kernel. -/
def initialPageDriver : PageDriver where
  directory := fun i => if i.val = 0 ∨ i.val = 0x300 then kernelEntry else zeroEntry
  lastAvailablePhysicalAddr := 0 + pageFrameSize

/-! ### Functions -/

/-- Bits 22 to 31 of an address. -/
theorem toNat_frame_field (addr : UInt32) :
    ((addr >>> 22) &&& 0x3FF).toNat = addr.toNat / 2 ^ 22 := by
  have bound := addr.toNat_lt
  have shift : (22 : UInt32).toNat = 22 := rfl
  have ones : (0x3FF : UInt32).toNat = 2 ^ 10 - 1 := rfl
  rw [toNat_and_mask _ _ ones, toNat_shiftRight _ _ (by decide), shift]
  omega

theorem page_index_lt (virtualAddr : UInt32) : ((virtualAddr >>> 22) &&& 0x3FF).toNat < 1024 := by
  have bound := virtualAddr.toNat_lt
  rw [toNat_frame_field]
  omega

def pageIndex (virtualAddr : UInt32) : Fin 1024 :=
  ⟨((virtualAddr >>> 22) &&& 0x3FF).toNat, page_index_lt virtualAddr⟩

/-- The TLB, which the source flushes behind the update, is not modelled. -/
def updatePageDirectoryEntry (physicalAddr virtualAddr : UInt32) (flag : PageDirectoryEntryFlag)
    (s : PageDriver) : PageDriver :=
  let pageIndex := pageIndex virtualAddr
  let s := { s with
    directory := Function.update s.directory pageIndex { s.directory pageIndex with flag := flag } }
  { s with
    directory := Function.update s.directory pageIndex
      { s.directory pageIndex with
        lowerAddress := BitVec.ofNat 10 ((physicalAddr >>> 22) &&& 0x3FF).toNat } }

def userFlag : PageDirectoryEntryFlag :=
  { noFlag with presentBit := true, writeBit := true, userSupervisor := true, usePagesize4Mb := true }

def allocateSingleUserPageFrame (virtualAddr : UInt32) (s : PageDriver) : Int × PageDriver :=
  let lastPhysicalAddr := s.lastAvailablePhysicalAddr
  if lastPhysicalAddr < 0x07FE0000 then
    (0, updatePageDirectoryEntry lastPhysicalAddr virtualAddr userFlag s)
  else (-1, s)

/-- The number of the frame an entry refers to. -/
def PageDirectoryEntry.frame (e : PageDirectoryEntry) : Nat :=
  e.higherAddress.toNat * 1024 + e.lowerAddress.toNat

/-! ### What one call does -/

def PageDriver.setEntry (s : PageDriver) (i : Fin 1024) (entry : PageDirectoryEntry) : PageDriver :=
  { s with directory := Function.update s.directory i entry }

@[simp] theorem setEntry_last (s : PageDriver) (i : Fin 1024) (entry : PageDirectoryEntry) :
    (s.setEntry i entry).lastAvailablePhysicalAddr = s.lastAvailablePhysicalAddr := rfl

@[simp] theorem setEntry_self (s : PageDriver) (i : Fin 1024) (entry : PageDirectoryEntry) :
    (s.setEntry i entry).directory i = entry := Function.update_self _ _ _

theorem setEntry_of_ne (s : PageDriver) {i j : Fin 1024} (other : j ≠ i)
    (entry : PageDirectoryEntry) : (s.setEntry i entry).directory j = s.directory j :=
  Function.update_of_ne other _ _

/-- A call either maps the page, and nothing else, to the last available frame,
or changes nothing. The driver state stays. -/
inductive AllocateOutcome (virtualAddr : UInt32) (s : PageDriver) : Int → PageDriver → Prop where
  | mapped {entry : PageDirectoryEntry} : s.lastAvailablePhysicalAddr < 0x07FE0000 →
      entry.flag = userFlag →
      entry.higherAddress = (s.directory (pageIndex virtualAddr)).higherAddress →
      entry.lowerAddress = BitVec.ofNat 10 (s.lastAvailablePhysicalAddr.toNat / 2 ^ 22) →
      AllocateOutcome virtualAddr s 0 (s.setEntry (pageIndex virtualAddr) entry)
  | exhausted : ¬ s.lastAvailablePhysicalAddr < 0x07FE0000 → AllocateOutcome virtualAddr s (-1) s

theorem allocate_outcome (virtualAddr : UInt32) (s : PageDriver) :
    AllocateOutcome virtualAddr s (allocateSingleUserPageFrame virtualAddr s).1
      (allocateSingleUserPageFrame virtualAddr s).2 := by
  unfold allocateSingleUserPageFrame
  simp only
  split
  · rename_i available
    simp only [updatePageDirectoryEntry, Function.update_self, Function.update_idem, toNat_frame_field]
    exact .mapped available rfl rfl rfl
  · rename_i exhausted
    exact .exhausted exhausted

/-! ### Sequences of calls -/

/-- The driver after a sequence of calls. -/
def after (calls : List UInt32) : PageDriver :=
  calls.foldl (fun s virtualAddr => (allocateSingleUserPageFrame virtualAddr s).2) initialPageDriver

/-- Some call of the sequence succeeded on page `i`, and the entry it wrote
refers to frame `f`. -/
def Given (calls : List UInt32) (i : Fin 1024) (f : Nat) : Prop :=
  ∃ before virtualAddr later, calls = before ++ virtualAddr :: later ∧ pageIndex virtualAddr = i ∧
    (allocateSingleUserPageFrame virtualAddr (after before)).1 = 0 ∧
    ((after (before ++ [virtualAddr])).directory i).frame = f

def Mapped (calls : List UInt32) (i : Fin 1024) : Prop := ∃ f, Given calls i f

/-- All frames of the 128 MiB but the kernel's have been given out. -/
def NoFrameLeft (calls : List UInt32) : Prop := ∀ f, 1 ≤ f → f < 32 → ∃ i, Given calls i f

/-- What the allocator promises of a sequence of calls. -/
structure FramesNeverShared (calls : List UInt32) : Prop where
  distinct : ∀ i j, i ≠ j → Mapped calls i → Mapped calls j →
    ((after calls).directory i).frame ≠ ((after calls).directory j).frame
  kernel : ∀ i, Mapped calls i → ((after calls).directory i).frame ≠ 0
  inside : ∀ i, Mapped calls i →
    (((after calls).directory i).frame + 1) * pageFrameSize.toNat ≤ 128 * 1024 * 1024
  untouched : ∀ i, (∀ virtualAddr ∈ calls, pageIndex virtualAddr ≠ i) →
    (after calls).directory i = initialPageDriver.directory i
  fresh : ∀ before virtualAddr later, calls = before ++ virtualAddr :: later →
    Mapped before (pageIndex virtualAddr) →
    (allocateSingleUserPageFrame virtualAddr (after before)).1 = 0 →
    ∀ i f, Given before i f →
      ((after (before ++ [virtualAddr])).directory (pageIndex virtualAddr)).frame ≠ f
  exhausted : ∀ before virtualAddr later, calls = before ++ virtualAddr :: later →
    NoFrameLeft before → allocateSingleUserPageFrame virtualAddr (after before) = (-1, after before)

theorem after_append (calls : List UInt32) (virtualAddr : UInt32) :
    after (calls ++ [virtualAddr]) = (allocateSingleUserPageFrame virtualAddr (after calls)).2 := by
  rw [after, List.foldl_append]
  rfl

/-- What every sequence of calls leaves: frame 1 is still the last available
one, it is behind every page passed in, and no other entry has changed. -/
structure OneFrame (calls : List UInt32) (s : PageDriver) : Prop where
  last : s.lastAvailablePhysicalAddr = pageFrameSize
  high : ∀ i, (s.directory i).higherAddress = 0
  passed : ∀ virtualAddr ∈ calls, (s.directory (pageIndex virtualAddr)).frame = 1
  others : ∀ i, (∀ virtualAddr ∈ calls, pageIndex virtualAddr ≠ i) →
    s.directory i = initialPageDriver.directory i

theorem oneFrame_initial : OneFrame [] initialPageDriver := by
  refine ⟨rfl, fun i => ?_, by simp, fun _ _ => rfl⟩
  simp only [initialPageDriver]
  split <;> rfl

theorem OneFrame.step {calls : List UInt32} {s : PageDriver} (one : OneFrame calls s)
    (virtualAddr : UInt32) :
    (allocateSingleUserPageFrame virtualAddr s).1 = 0 ∧
      OneFrame (calls ++ [virtualAddr]) (allocateSingleUserPageFrame virtualAddr s).2 := by
  have outcome := allocate_outcome virtualAddr s
  generalize (allocateSingleUserPageFrame virtualAddr s).1 = code at outcome ⊢
  generalize (allocateSingleUserPageFrame virtualAddr s).2 = t at outcome ⊢
  obtain ⟨last, high, passed, others⟩ := one
  cases outcome with
  | exhausted none =>
      rw [last] at none
      exact absurd (by decide) none
  | @mapped entry _ _ kept low =>
      have frame : entry.frame = 1 := by
        rw [PageDirectoryEntry.frame, kept, high, low, last]
        rfl
      refine ⟨rfl, last, fun i => ?_, fun va member => ?_, fun i apart => ?_⟩
      · by_cases here : i = pageIndex virtualAddr
        · rw [here, setEntry_self, kept, high]
        · rw [setEntry_of_ne s here, high]
      · by_cases here : pageIndex va = pageIndex virtualAddr
        · rw [here, setEntry_self, frame]
        · rw [setEntry_of_ne s here]
          rcases List.mem_append.mp member with old | new
          · exact passed va old
          · exact absurd (congrArg pageIndex (List.mem_singleton.mp new)) here
      · have other := apart virtualAddr (List.mem_append_right _ (List.mem_singleton_self _))
        rw [setEntry_of_ne s other.symm]
        exact others i fun va member => apart va (List.mem_append_left _ member)

theorem oneFrame_after (calls : List UInt32) : OneFrame calls (after calls) := by
  induction calls using List.reverseRecOn with
  | nil => exact oneFrame_initial
  | append_singleton calls virtualAddr ih =>
      rw [after_append]
      exact (ih.step virtualAddr).2

/-- Every call succeeds, and is given frame 1. -/
theorem given_iff {calls : List UInt32} {i : Fin 1024} {f : Nat} :
    Given calls i f ↔ f = 1 ∧ ∃ virtualAddr ∈ calls, pageIndex virtualAddr = i := by
  have one : ∀ before virtualAddr,
      ((after (before ++ [virtualAddr])).directory (pageIndex virtualAddr)).frame = 1 :=
    fun before virtualAddr => (oneFrame_after (before ++ [virtualAddr])).passed virtualAddr
      (List.mem_append_right _ (List.mem_singleton_self _))
  constructor
  · rintro ⟨before, virtualAddr, later, rfl, rfl, -, rfl⟩
    exact ⟨one before virtualAddr, virtualAddr, by simp, rfl⟩
  · rintro ⟨rfl, virtualAddr, member, rfl⟩
    obtain ⟨before, later, split⟩ := List.append_of_mem member
    exact ⟨before, virtualAddr, later, split, rfl,
      ((oneFrame_after before).step virtualAddr).1, one before virtualAddr⟩

theorem mapped_iff {calls : List UInt32} {i : Fin 1024} :
    Mapped calls i ↔ ∃ virtualAddr ∈ calls, pageIndex virtualAddr = i := by
  simp [Mapped, given_iff]

/-- **Frames are never shared exactly in the sequences of at most one call.** -/
theorem framesNeverShared_iff (calls : List UInt32) : FramesNeverShared calls ↔ calls.length ≤ 1 := by
  constructor
  · intro promised
    by_contra more
    obtain ⟨a, b, rest, rfl⟩ : ∃ a b rest, calls = a :: b :: rest := by
      rcases calls with _ | ⟨a, _ | ⟨b, rest⟩⟩
      · exact absurd (Nat.zero_le _) more
      · exact absurd le_rfl more
      · exact ⟨a, b, rest, rfl⟩
    have first : Mapped [a] (pageIndex a) := mapped_iff.mpr ⟨a, List.mem_singleton_self a, rfl⟩
    by_cases same : pageIndex a = pageIndex b
    · -- the second call on the page is given the frame the page already has
      have again := (oneFrame_after ([a] ++ [b])).passed b (by simp)
      refine promised.fresh [a] b rest rfl (same ▸ first) ((oneFrame_after [a]).step b).1
        (pageIndex a) 1 ?_ again
      exact given_iff.mpr ⟨rfl, a, List.mem_singleton_self a, rfl⟩
    · have shared := (oneFrame_after (a :: b :: rest)).passed
      refine promised.distinct (pageIndex a) (pageIndex b) same (mapped_iff.mpr ⟨a, by simp, rfl⟩)
        (mapped_iff.mpr ⟨b, by simp, rfl⟩) ?_
      rw [shared a (by simp), shared b (by simp)]
  · intro few
    have one : ∀ i, Mapped calls i → ((after calls).directory i).frame = 1 := by
      intro i mapped
      obtain ⟨virtualAddr, member, rfl⟩ := mapped_iff.mp mapped
      exact (oneFrame_after calls).passed virtualAddr member
    have alone : ∀ before virtualAddr later, calls = before ++ virtualAddr :: later → before = [] := by
      rintro before virtualAddr later rfl
      simp only [List.length_append, List.length_cons] at few
      exact List.eq_nil_of_length_eq_zero (by omega)
    refine ⟨fun i j differ mappedI mappedJ => ?_, fun i mapped => ?_, fun i mapped => ?_,
      (oneFrame_after calls).others, fun before virtualAddr later split mapped => ?_,
      fun before virtualAddr later split none => ?_⟩
    · obtain ⟨a, memberA, rfl⟩ := mapped_iff.mp mappedI
      obtain ⟨b, memberB, rfl⟩ := mapped_iff.mp mappedJ
      obtain ⟨before, later, split⟩ := List.append_of_mem memberA
      obtain rfl := alone before a later split
      subst split
      cases later with
      | nil => exact absurd (congrArg pageIndex (List.mem_singleton.mp memberB)).symm differ
      | cons c later => exact absurd few (by simp)
    · rw [one i mapped]
      decide
    · rw [one i mapped]
      decide
    · obtain rfl := alone before virtualAddr later split
      obtain ⟨_, member, -⟩ := mapped_iff.mp mapped
      cases member
    · obtain rfl := alone before virtualAddr later split
      obtain ⟨i, given⟩ := none 1 le_rfl (by decide)
      obtain ⟨-, _, member, -⟩ := given_iff.mp given
      cases member

/-- Two different pages, one frame. -/
theorem framesNeverShared_counterexample :
    ((after [0, 0x400000]).directory (pageIndex 0)).frame = 1 ∧
      ((after [0, 0x400000]).directory (pageIndex 0x400000)).frame = 1 ∧
      ¬ FramesNeverShared [0, 0x400000] := by
  have shared := (oneFrame_after [0, 0x400000]).passed
  have left := shared 0 (by simp)
  have right := shared 0x400000 (by simp)
  refine ⟨left, right, fun promised => ?_⟩
  exact promised.distinct (pageIndex 0) (pageIndex 0x400000) (by decide)
    (mapped_iff.mpr ⟨0, by simp, rfl⟩) (mapped_iff.mpr ⟨0x400000, by simp, rfl⟩)
      (left.trans right.symm)

end HexOS.Paging
