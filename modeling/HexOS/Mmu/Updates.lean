import HexOS.Mmu.Entries
import HexOS.Library.CachedTable

/-!
Updates of the page directory while the MMU walks it.

The loader and `update_page_directory_entry` store to an entry field by field and
flush it from the TLB afterwards. In between the MMU may fill the TLB from the
directory, drop entries of it, and set the accessed and dirty bits in the directory.
`translation_settled` is what it translates between two calls of the allocator,
`exposed_iff` when a user might reach the kernel's frame during one.
-/

namespace HexOS.Paging

open CachedTable

/-! ### The operations of the kernel -/

abbrev DirectoryOp := Op (Fin 1024) PageDirectoryEntry.clean

abbrev MmuMove := Move (Fin 1024) PageDirectoryEntry.clean

def storeFlag (flag : PageDirectoryEntryFlag) : Update PageDirectoryEntry.clean where
  apply e := { e with flag := flag }
  respects _ _ same :=
    congrArg (fun e : PageDirectoryEntry =>
      { e with flag := { flag with accessed := false, dirty := false } }) same

def storeLowerAddress (lower : BitVec 10) : Update PageDirectoryEntry.clean where
  apply e := { e with lowerAddress := lower }
  respects _ _ same := congrArg (fun e : PageDirectoryEntry => { e with lowerAddress := lower }) same

def storeZero : Update PageDirectoryEntry.clean where
  apply _ := zeroEntry
  respects _ _ _ := rfl

/-- `update_page_directory_entry`, which ends with `flush_single_tlb`. -/
def updateOps (physicalAddr virtualAddr : UInt32) (flag : PageDirectoryEntryFlag) : List DirectoryOp :=
  [.store (pageIndex virtualAddr) (storeFlag flag),
    .store (pageIndex virtualAddr)
      (storeLowerAddress (BitVec.ofNat 10 ((physicalAddr >>> 22) &&& 0x3FF).toNat)),
    .flush (pageIndex virtualAddr)]

/-- `allocate_single_user_page_frame`. -/
def allocateOps (lastPhysicalAddr virtualAddr : UInt32) : List DirectoryOp :=
  if lastPhysicalAddr < 0x07FE0000 then updateOps lastPhysicalAddr virtualAddr userFlag else []

/-- `loader_virtual` deletes the identity mapping. -/
def loaderOps : List DirectoryOp := [.store (pageIndex 0) storeZero, .flush (pageIndex 0)]

/-- The loader, then calls of the allocator, which never moves the last available
frame. -/
def kernelOps (calls : List UInt32) : List DirectoryOp :=
  loaderOps ++ calls.flatMap (allocateOps initialPageDriver.lastAvailablePhysicalAddr)

/-- The operations of a call leave the directory of the call. -/
theorem written_allocateOps (s : PageDriver) (virtualAddr : UInt32) :
    written s.directory (allocateOps s.lastAvailablePhysicalAddr virtualAddr) =
      (allocateSingleUserPageFrame virtualAddr s).2.directory := by
  rw [allocateOps, allocateSingleUserPageFrame]
  by_cases available : s.lastAvailablePhysicalAddr < 0x07FE0000
  · rw [if_pos available, if_pos available]
    rfl
  · rw [if_neg available, if_neg available]
    rfl

/-! ### The directory -/

def userEntry : PageDirectoryEntry := { zeroEntry with flag := userFlag, lowerAddress := 1 }

/-- The directory behind the calls. -/
def layout (calls : List UInt32) : PageDirectory := fun i =>
  if ∃ virtualAddr ∈ calls, pageIndex virtualAddr = i then userEntry
  else if i.val = 0x300 then kernelEntry
  else zeroEntry

theorem allocateOps_available (virtualAddr : UInt32) :
    allocateOps initialPageDriver.lastAvailablePhysicalAddr virtualAddr =
      [.store (pageIndex virtualAddr) (storeFlag userFlag),
        .store (pageIndex virtualAddr) (storeLowerAddress 1), .flush (pageIndex virtualAddr)] :=
  if_pos (by decide)

theorem kernelOps_append (calls : List UInt32) (virtualAddr : UInt32) :
    kernelOps (calls ++ [virtualAddr]) =
      kernelOps calls ++ allocateOps initialPageDriver.lastAvailablePhysicalAddr virtualAddr := by
  rw [kernelOps, List.flatMap_append, ← List.append_assoc]
  exact congrArg _ (List.append_nil _)

theorem layout_passed {calls : List UInt32} {virtualAddr : UInt32} (member : virtualAddr ∈ calls) :
    layout calls (pageIndex virtualAddr) = userEntry := if_pos ⟨virtualAddr, member, rfl⟩

theorem layout_snoc_of_ne (calls : List UInt32) {virtualAddr : UInt32} {i : Fin 1024}
    (other : i ≠ pageIndex virtualAddr) : layout (calls ++ [virtualAddr]) i = layout calls i := by
  have same : (∃ c ∈ calls ++ [virtualAddr], pageIndex c = i) ↔ ∃ c ∈ calls, pageIndex c = i := by
    constructor
    · rintro ⟨c, member, here⟩
      rcases List.mem_append.mp member with old | new
      · exact ⟨c, old, here⟩
      · exact absurd (List.mem_singleton.mp new ▸ here.symm) other
    · rintro ⟨c, member, here⟩
      exact ⟨c, List.mem_append_left _ member, here⟩
  rw [layout, layout]
  simp only [same]

/-- The stores of a call leave a user page on frame 1, whatever the entry was. -/
theorem mapped_entry (calls : List UInt32) (i : Fin 1024) :
    ({ layout calls i with flag := userFlag, lowerAddress := 1 } : PageDirectoryEntry) =
      userEntry := by
  rw [layout]
  split
  · rfl
  · split
    · rfl
    · rfl

theorem written_loaderOps : written initialPageDriver.directory loaderOps = layout [] := by
  funext i
  have first : (pageIndex 0).val = 0 := rfl
  have none : ¬ ∃ virtualAddr ∈ ([] : List UInt32), pageIndex virtualAddr = i := by simp
  rw [layout, if_neg none]
  change Function.update initialPageDriver.directory (pageIndex 0) zeroEntry i = _
  by_cases here : i = pageIndex 0
  · rw [here, Function.update_self, if_neg (by rw [first]; decide)]
  · have above : i.val ≠ 0 := fun zero => here (Fin.ext (zero.trans first.symm))
    rw [Function.update_of_ne here, initialPageDriver]
    simp only [above, false_or]

theorem written_kernelOps (calls : List UInt32) :
    written initialPageDriver.directory (kernelOps calls) = layout calls := by
  induction calls using List.reverseRecOn with
  | nil =>
      rw [kernelOps, List.flatMap_nil, List.append_nil]
      exact written_loaderOps
  | append_singleton calls virtualAddr ih =>
      rw [kernelOps_append, allocateOps_available, written, List.foldl_append]
      change written (written _ (kernelOps calls)) _ = _
      rw [ih]
      funext i
      change Function.update (Function.update (layout calls) _ _) _ _ i = _
      by_cases here : i = pageIndex virtualAddr
      · subst here
        have passed : virtualAddr ∈ calls ++ [virtualAddr] :=
          List.mem_append_right _ (List.mem_singleton_self _)
        rw [Function.update_self, layout_passed passed]
        simp only [write, Function.update_self, storeFlag, storeLowerAddress]
        exact mapped_entry calls (pageIndex virtualAddr)
      · rw [Function.update_of_ne here, layout_snoc_of_ne calls here]
        exact Function.update_of_ne here _ _

theorem settled_kernelOps (i : Fin 1024) (calls : List UInt32) : Settled i (kernelOps calls) := by
  have loader : Settled i loaderOps :=
    ⟨fun here => here ▸ List.mem_cons_self, trivial⟩
  induction calls using List.reverseRecOn with
  | nil => exact settled_append loader trivial
  | append_singleton calls virtualAddr ih =>
      rw [kernelOps_append, allocateOps_available]
      refine settled_append ih ⟨fun here => ?_, fun here => ?_, trivial⟩
      · exact here ▸ List.mem_cons_of_mem _ List.mem_cons_self
      · exact here ▸ List.mem_cons_self

/-! ### Translation -/

section

variable (calls : List UInt32) (access : Access) (virtualAddr : UInt32)

/-- The translation that the layout is for. -/
def intended (calls : List UInt32) (access : Access) (virtualAddr : UInt32) : Option Nat :=
  if ∃ c ∈ calls, pageIndex c = pageIndex virtualAddr then
    some (pageFrameSize.toNat + virtualAddr.toNat % pageFrameSize.toNat)
  else if (pageIndex virtualAddr).val = 0x300 ∧ access.user = false then
    some (virtualAddr.toNat % pageFrameSize.toNat)
  else none

theorem translate_layout :
    translate (layout calls (pageIndex virtualAddr)).word access virtualAddr =
      intended calls access virtualAddr := by
  rw [layout, intended]
  split
  · have one : (1 : BitVec 10).toNat * pageFrameSize.toNat = pageFrameSize.toNat := rfl
    rw [userEntry, translate_user, one]
  · split
    · rename_i kernel
      rw [translate_kernel]
      cases access.user with
      | false => simp [kernel]
      | true => simp
    · rename_i other
      rw [translate_zero, if_neg fun kernel => other kernel.1]

/-- **Between calls** the MMU translates every address as intended, whatever it has
filled, dropped and marked, and whenever. -/
theorem translation_settled (moves : List MmuMove) (done : ops moves = kernelOps calls)
    {e : PageDirectoryEntry}
    (uses : Uses (moves.foldl step (start initialPageDriver.directory)) (pageIndex virtualAddr) e) :
    translate e.word access virtualAddr = intended calls access virtualAddr := by
  have split : ops moves = kernelOps calls ++ [] := by rw [done, List.append_nil]
  obtain ⟨p, none, same⟩ := uses_after initialPageDriver.directory moves split
    (settled_kernelOps (pageIndex virtualAddr) calls) uses
  obtain rfl : p = [] := List.prefix_nil.mp none
  change e.clean = (written initialPageDriver.directory (kernelOps calls) _).clean at same
  rw [translate_clean same, written_kernelOps, translate_layout]

end

/-- The TLB holds the identity mapping when the loader deletes it. -/
def walkedMoves : List MmuMove := .fill (pageIndex 0) :: (kernelOps [0]).map .op

theorem translation_settled_first_page :
    translate ((walkedMoves.foldl step (start initialPageDriver.directory)).table
      (pageIndex 0x1234)).word
      ⟨true, true⟩ 0x1234 = intended [0] ⟨true, true⟩ 0x1234 :=
  translation_settled [0] ⟨true, true⟩ 0x1234 walkedMoves (ops_map (kernelOps [0])) (.inr rfl)

/-! ### During an update -/

/-- Behind the calls, and in the middle of one more, a user might reach the frame of
the kernel. -/
def Exposed (calls : List UInt32) (virtualAddr : UInt32) : Prop :=
  ∃ (moves : List MmuMove) (begun : List DirectoryOp) (e : PageDirectoryEntry) (write : Bool)
    (accessed : UInt32) (physical : Nat),
    begun <+: allocateOps initialPageDriver.lastAvailablePhysicalAddr virtualAddr ∧
    ops moves = kernelOps calls ++ begun ∧
    Uses (moves.foldl step (start initialPageDriver.directory)) (pageIndex accessed) e ∧
    translate e.word ⟨true, write⟩ accessed = some physical ∧ physical < pageFrameSize.toNat

section

variable {calls : List UInt32} {virtualAddr : UInt32}

/-- An update of a page that is mapped already changes nothing. -/
theorem written_begun (passed : ∃ c ∈ calls, pageIndex c = pageIndex virtualAddr)
    {p : List DirectoryOp}
    (begun : p <+: allocateOps initialPageDriver.lastAvailablePhysicalAddr virtualAddr) :
    written (layout calls) p = layout calls := by
  have mapped : layout calls (pageIndex virtualAddr) = userEntry := if_pos passed
  have flag : write (layout calls)
      (.store (pageIndex virtualAddr) (storeFlag userFlag)) = layout calls := by
    rw [write, mapped]
    exact Function.update_eq_self_iff.mpr mapped.symm
  have lower : write (layout calls)
      (.store (pageIndex virtualAddr) (storeLowerAddress 1)) = layout calls := by
    rw [write, mapped]
    exact Function.update_eq_self_iff.mpr mapped.symm
  have each : ∀ o ∈ p, write (layout calls) o = layout calls := by
    intro o member
    have among := begun.subset member
    rw [allocateOps_available] at among
    rcases List.mem_cons.mp among with rfl | among
    · exact flag
    rcases List.mem_cons.mp among with rfl | among
    · exact lower
    rcases List.mem_singleton.mp among with rfl
    rfl
  clear begun
  induction p with
  | nil => rfl
  | cons o p ih =>
      rw [written, List.foldl_cons, each o List.mem_cons_self]
      exact ih fun o' member => each o' (List.mem_cons_of_mem _ member)

/-- **The kernel's frame is within reach of users** at some moment of an update
exactly when the page is mapped for the first time: the flags are stored before the
address. -/
theorem exposed_iff (calls : List UInt32) (virtualAddr : UInt32) :
    Exposed calls virtualAddr ↔ ∀ c ∈ calls, pageIndex c ≠ pageIndex virtualAddr := by
  constructor
  · rintro ⟨moves, begun, e, write, accessed, physical, underway, done, uses, reached, low⟩ c
      member same
    obtain ⟨p, initial, shows⟩ := uses_after initialPageDriver.directory moves done
      (settled_kernelOps (pageIndex accessed) calls) uses
    rw [written_kernelOps, written_begun ⟨c, member, same⟩ (initial.trans underway)] at shows
    rw [translate_clean shows, translate_layout, intended] at reached
    split at reached
    · have value := Option.some.inj reached
      omega
    · rw [if_neg fun kernel => Bool.noConfusion kernel.2] at reached
      cases reached
  · intro fresh
    have unmapped : ¬ ∃ c ∈ calls, pageIndex c = pageIndex virtualAddr := by
      rintro ⟨c, member, same⟩
      exact fresh c member same
    let begun : List DirectoryOp := [.store (pageIndex virtualAddr) (storeFlag userFlag)]
    let moves : List MmuMove := (kernelOps calls ++ begun).map .op
    have flagged : written initialPageDriver.directory (kernelOps calls ++ begun)
        (pageIndex virtualAddr) = { zeroEntry with flag := userFlag, lowerAddress := 0 } := by
      rw [written_snoc, written_kernelOps, write, Function.update_self, layout, if_neg unmapped]
      split <;> rfl
    refine ⟨moves, begun, _, false, virtualAddr,
      virtualAddr.toNat % pageFrameSize.toNat, ?_, ops_map _, .inr rfl, ?_, ?_⟩
    · rw [allocateOps_available]
      exact ⟨_, rfl⟩
    · have shows := run_table initialPageDriver.directory moves (pageIndex virtualAddr)
      rw [ops_map, flagged] at shows
      rw [translate_clean shows, translate_user]
      simp
    · exact Nat.mod_lt _ (by decide)

end

end HexOS.Paging
